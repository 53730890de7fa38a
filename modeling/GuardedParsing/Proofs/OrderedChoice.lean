import GuardedParsing.Proofs.Applied
import GuardedParsing.Proofs.LeftRecursion
import GuardedParsing.Parser.Build

/-!
# Ordered choice

Alternatives are taken two at a time. However they are grouped, the result is that of the first
alternative that matches, fails fatally or is broken off; and if there is none, the errors of all of
them make up one.

* `Nesting`: a way of grouping a list of alternatives. `Build.choice` groups them to the left.
* `ParseError.combined`: the error of several alternatives that all failed, in closed form: what the
  first of the errors that got furthest says, with what the others of them expected as well.
* `combined_append`: **the combined error of two lists is the `merge` of theirs**, so that it does
  not matter where a list of errors is cut.
* `ordered_choice`: **the result of a choice, whatever the grouping.**
-/

namespace GuardedParsing

namespace ParseError

/-- The errors of a list that got furthest, in order. -/
def furthest (es : List ParseError) : List ParseError :=
  es.filter fun e => es.all (·.position ≤ e.position)

/-- The first of several errors that says what was found, and the first of all if none does. -/
def informant (first : ParseError) (later : List ParseError) : ParseError :=
  ((first :: later).find? (·.kind ≠ .custom)).getD first

/-- The labels of other errors that are not among `labels`, each once, in order. -/
def newLabels (labels : List String) (others : List ParseError) : List String :=
  ((others.flatMap expected).filter (· ∉ labels)).eraseDups

/-- An error and later ones at the same position, as one error. -/
def joined (first : ParseError) (later : List ParseError) : ParseError :=
  { first with
    kind := (informant first later).kind
    found := (informant first later).found
    expected := first.expected ++ newLabels first.expected later }

/-- The error of several alternatives that all failed. -/
def combined (es : List ParseError) : Option ParseError :=
  match furthest es with
  | [] => none
  | first :: later => some (joined first later)

section Labels

variable {l : String} {ls ms ns : List String}

@[simp] theorem addLabels_nil (ls : List String) : addLabels ls [] = ls := rfl

theorem addLabels_cons (ls : List String) (l : String) (ms : List String) :
    addLabels ls (l :: ms) = addLabels (if l ∈ ls then ls else ls ++ [l]) ms := rfl

theorem addLabels_append (ls ms ns : List String) :
    addLabels ls (ms ++ ns) = addLabels (addLabels ls ms) ns := List.foldl_append

@[simp] theorem mem_addLabels : l ∈ addLabels ls ms ↔ l ∈ ls ∨ l ∈ ms := by
  induction ms generalizing ls with
  | nil => simp
  | cons m ms ih =>
    rw [addLabels_cons, ih]
    split <;> grind

/-- Labels that are added are the new ones, each once, in order. -/
theorem addLabels_eq (ls ms : List String) :
    addLabels ls ms = ls ++ (ms.filter (· ∉ ls)).eraseDups := by
  induction ms generalizing ls with
  | nil => simp
  | cons m ms ih =>
    rw [addLabels_cons]
    by_cases hm : m ∈ ls
    · rw [if_pos hm, ih, List.filter_cons_of_neg (by simpa using hm)]
    · rw [if_neg hm, ih, List.filter_cons_of_pos (by simpa using hm), List.eraseDups_cons,
        List.append_assoc, List.singleton_append, List.filter_filter]
      have hnew : ∀ l, (!l == m && decide (l ∉ ls)) = decide (l ∉ ls ++ [m]) := by
        intro l
        by_cases hl : l ∈ ls <;> by_cases hlm : l = m <;> simp [hl, hlm]
      simp only [hnew]

/-- It does not matter whether labels are added to others first. -/
theorem addLabels_addLabels (ls ms ns : List String) :
    addLabels ls (addLabels ms ns) = addLabels (addLabels ls ms) ns := by
  induction ns generalizing ms with
  | nil => rfl
  | cons n ns ih =>
    rw [addLabels_cons, addLabels_cons, ih]
    by_cases hn : n ∈ ms
    · rw [if_pos hn, if_pos (mem_addLabels.2 (.inr hn))]
    · rw [if_neg hn, addLabels_append]
      rfl

end Labels

section Joined

variable {first second e : ParseError} {later others es fs : List ParseError}

theorem expected_joined (first : ParseError) (later : List ParseError) :
    (joined first later).expected = addLabels first.expected (later.flatMap expected) :=
  (addLabels_eq _ _).symm

/-- The error that says what was found is about a token, unless none is. -/
theorem informant_eq_some {told : ParseError}
    (h : (first :: later).find? (·.kind ≠ .custom) = some told) :
    informant first later = told ∧ told.kind ≠ .custom := by
  have hkind := List.find?_some h
  refine ⟨by rw [informant, h, Option.getD_some], by simpa using hkind⟩

theorem informant_eq_none (h : (first :: later).find? (·.kind ≠ .custom) = none) :
    informant first later = first ∧ first.kind = .custom := by
  have hkind := List.find?_eq_none.1 h first (.head _)
  refine ⟨by rw [informant, h, Option.getD_none], by simpa using hkind⟩

/-- Of two lists of errors, the first one that has something to say about what was found does. -/
theorem informant_append (first second : ParseError) (later others : List ParseError) :
    informant first (later ++ second :: others) =
      if (informant first later).kind = .custom ∧ (informant second others).kind ≠ .custom then
        informant second others
      else informant first later := by
  have hfind : (first :: (later ++ second :: others)).find? (·.kind ≠ .custom) =
      ((first :: later).find? (·.kind ≠ .custom)).or
        ((second :: others).find? (·.kind ≠ .custom)) := by
    rw [← List.cons_append, List.find?_append]
  rcases h₁ : (first :: later).find? (·.kind ≠ .custom) with _ | told
  · obtain ⟨hinf, hcustom⟩ := informant_eq_none h₁
    rw [h₁, Option.none_or] at hfind
    rcases h₂ : (second :: others).find? (·.kind ≠ .custom) with _ | told
    · obtain ⟨hinf', hcustom'⟩ := informant_eq_none h₂
      rw [h₂] at hfind
      rw [(informant_eq_none hfind).1, hinf, hinf', if_neg fun h => h.2 hcustom']
    · obtain ⟨hinf', hkind⟩ := informant_eq_some h₂
      rw [h₂] at hfind
      rw [(informant_eq_some hfind).1, hinf, hinf', if_pos ⟨hcustom, hkind⟩]
  · obtain ⟨hinf, hkind⟩ := informant_eq_some h₁
    rw [h₁, Option.some_or] at hfind
    rw [(informant_eq_some hfind).1, hinf, if_neg fun h => hkind h.1]

/-- **Two errors that were joined from others join as the others do.** -/
theorem join_joined (first second : ParseError) (later others : List ParseError) :
    (joined first later).join (joined second others) =
      joined first (later ++ second :: others) := by
  have hexpected : addLabels (joined first later).expected (joined second others).expected =
      (joined first (later ++ second :: others)).expected := by
    simp only [expected_joined, List.flatMap_append, List.flatMap_cons, addLabels_append,
      addLabels_addLabels]
  have hinf := informant_append first second later others
  rw [join, hexpected]
  by_cases h : (informant first later).kind = .custom ∧ (informant second others).kind ≠ .custom
  · rw [if_pos h] at hinf
    simp only [joined, hinf]
    exact if_pos h
  · rw [if_neg h] at hinf
    simp only [joined, hinf]
    exact if_neg h

end Joined

section Combined

variable {first second e f : ParseError} {later others es fs : List ParseError}

/-- The errors that got furthest are at one position, and no error is after it. -/
theorem position_of_furthest (h : furthest es = first :: later) :
    (∀ x ∈ first :: later, x.position = first.position) ∧ ∀ x ∈ es, x.position ≤ first.position := by
  have hmem : ∀ x ∈ first :: later, x ∈ es ∧ ∀ y ∈ es, y.position ≤ x.position := by
    intro x hx
    rw [← h, furthest, List.mem_filter] at hx
    exact ⟨hx.1, by simpa using hx.2⟩
  obtain ⟨hfirst, hmax⟩ := hmem first (.head _)
  refine ⟨fun x hx => ?_, hmax⟩
  obtain ⟨hx, hxmax⟩ := hmem x hx
  exact Nat.le_antisymm (hmax x hx) (hxmax first hfirst)

/-- The errors that got furthest in one list stay if none of another list got further. -/
theorem filter_of_furthest (h : furthest es = first :: later) (hf : furthest fs = second :: others) :
    ((first :: later).filter fun e => fs.all (·.position ≤ e.position)) =
      if second.position ≤ first.position then first :: later else [] := by
  obtain ⟨heq, -⟩ := position_of_furthest h
  have hsecond : second ∈ furthest fs := hf ▸ List.mem_cons_self
  have hsecond : second ∈ fs := (List.mem_filter.1 hsecond).1
  have hmax := (position_of_furthest hf).2
  by_cases hle : second.position ≤ first.position
  · rw [if_pos hle, List.filter_eq_self]
    intro x hx
    have hx := heq x hx
    exact List.all_eq_true.2 fun y hy => decide_eq_true (by have := hmax y hy; omega)
  · rw [if_neg hle, List.filter_eq_nil_iff]
    intro x hx hall
    have hx := heq x hx
    have hy := of_decide_eq_true (List.all_eq_true.1 hall second hsecond)
    omega

/-- The errors of two lists that got furthest are those of one list, or of both. -/
theorem furthest_append (h : furthest es = first :: later) (hf : furthest fs = second :: others) :
    furthest (es ++ fs) = (if second.position ≤ first.position then first :: later else []) ++
      if first.position ≤ second.position then second :: others else [] := by
  have hleft : (es.filter fun e => (es ++ fs).all (·.position ≤ e.position)) =
      (furthest es).filter fun e => fs.all (·.position ≤ e.position) := by
    simp only [furthest, List.filter_filter, List.all_append, Bool.and_comm]
  have hright : (fs.filter fun e => (es ++ fs).all (·.position ≤ e.position)) =
      (furthest fs).filter fun e => es.all (·.position ≤ e.position) := by
    simp only [furthest, List.filter_filter, List.all_append]
  rw [furthest, List.filter_append, hleft, hright, h, hf, filter_of_furthest h hf,
    filter_of_furthest hf h]

theorem combined_eq_some (h : combined es = some e) :
    ∃ first later, furthest es = first :: later ∧ e = joined first later := by
  rw [combined] at h
  split at h
  · cases h
  · cases h
    exact ⟨_, _, ‹_›, rfl⟩

theorem combined_of_furthest (h : furthest es = first :: later) :
    combined es = some (joined first later) := by
  rw [combined, h]

/-- **The combined error of two lists of errors is the error of two alternatives with theirs.** -/
theorem combined_append (h : combined es = some e) (hf : combined fs = some f)
    (he : e.isFatal = false) (hf' : f.isFatal = false) : combined (es ++ fs) = some (e.merge f) := by
  obtain ⟨first, later, hes, rfl⟩ := combined_eq_some h
  obtain ⟨second, others, hfs, rfl⟩ := combined_eq_some hf
  have happend := furthest_append hes hfs
  have hpos : (joined first later).position = first.position := rfl
  have hpos' : (joined second others).position = second.position := rfl
  rw [merge_of_not_fatal he hf', hpos, hpos']
  rcases Nat.lt_trichotomy first.position second.position with hlt | heq | hgt
  · rw [if_neg (by omega), if_pos (by omega), List.nil_append] at happend
    rw [if_neg (by omega), if_pos hlt, combined_of_furthest happend]
  · rw [if_pos (by omega), if_pos (by omega), List.cons_append] at happend
    rw [if_neg (by omega), if_neg (by omega), combined_of_furthest happend, join_joined]
  · rw [if_pos (by omega), if_neg (by omega), List.append_nil] at happend
    rw [if_pos hgt, combined_of_furthest happend]

/-- The combined error of one error is that error. -/
@[simp] theorem combined_singleton (e : ParseError) : combined [e] = some e := by
  have hfurthest : furthest [e] = [e] := by simp [furthest]
  have hinformant : informant e [] = e := by
    by_cases h : e.kind = .custom <;> simp [informant, h]
  have hlabels : newLabels e.expected [] = [] := rfl
  rw [combined_of_furthest hfurthest, joined, hinformant, hlabels, List.append_nil]

end Combined

end ParseError

variable {τ : Type}

/-- `Nesting ps q`: the parser `q` is made of the alternatives `ps`, in this order, by nodes that
take two alternatives each. -/
inductive Nesting : List (Parser τ) → Parser τ → Prop
  | alternative (p : Parser τ) : Nesting [p] p
  | or {key ps p qs q} (hp : Nesting ps p) (hq : Nesting qs q) : Nesting (ps ++ qs) (.or key p q)

/-- A choice groups its alternatives to the left. -/
theorem nesting_choice (p : Parser τ) (ps : List (Parser τ)) (d : Draft τ) :
    ∃ q d', (Build.choice (p :: ps)).runFrom d = (.ok q, d') ∧ Nesting (p :: ps) q := by
  have hfold : ∀ ps done (p : Parser τ) d, Nesting done p →
      ∃ q d', (ps.foldlM Build.or p : Build τ (Parser τ)).runFrom d = (.ok q, d') ∧
        Nesting (done ++ ps) q := by
    intro ps
    induction ps with
    | nil =>
      intro done p d hp
      exact ⟨p, d, rfl, by rwa [List.append_nil]⟩
    | cons q ps ih =>
      intro done p d hp
      obtain ⟨r, d', hr, hnest⟩ := ih (done ++ [q]) (.or d.nextKey p q)
        { d with nextKey := d.nextKey + 1 } (.or hp (.alternative q))
      refine ⟨r, d', ?_, by rwa [List.append_assoc] at hnest⟩
      rw [List.foldlM_cons, Effect.runFrom_bind]
      exact hr
  exact hfold ps [p] p d (.alternative p)

variable [Token τ]

/-- `AllFail g tokens active start ps a es a'`: the parsers `ps`, applied at `start` one after the
other, all fail, none of them fatally; their errors are `es`, and the account `a` becomes `a'`. -/
inductive AllFail (g : Grammar τ) (tokens : Array τ) (active : Guard)
    (start : Fin (tokens.size + 1)) :
    List (Parser τ) → Account → List ParseError → Account → Prop
  | nil {a} : AllFail g tokens active start [] a [] a
  | cons {p ps a place e a' es a''}
      (hp : p.applied g tokens active start a = (.ok (.failure place e), a'))
      (he : e.isFatal = false) (hps : AllFail g tokens active start ps a' es a'') :
      AllFail g tokens active start (p :: ps) a (e :: es) a''

section Choice

variable {g : Grammar τ} {tokens : Array τ} {active : Guard} {start : Fin (tokens.size + 1)}
  {ps qs : List (Parser τ)} {p q : Parser τ} {a a' a'' : Account} {es fs : List ParseError}

theorem AllFail.append (hps : AllFail g tokens active start ps a es a')
    (hqs : AllFail g tokens active start qs a' fs a'') :
    AllFail g tokens active start (ps ++ qs) a (es ++ fs) a'' := by
  induction hps with
  | nil => exact hqs
  | cons hp he _ ih => exact .cons hp he (ih hqs)

/-- The result of a choice is decided by one of the alternatives: those before it fail, and it
matches, fails fatally or is broken off. -/
def Decided (g : Grammar τ) (tokens : Array τ) (active : Guard) (start : Fin (tokens.size + 1))
    (ps : List (Parser τ)) (a : Account) (result : Result tokens × Account) : Prop :=
  ∃ before p after es a', ps = before ++ p :: after ∧
    AllFail g tokens active start before a es a' ∧
    result = p.applied g tokens active start a' ∧ ¬result.1.IsRecoverable

/-- All alternatives of a choice fail, and their errors are combined to one, at its position. -/
def Exhausted (g : Grammar τ) (tokens : Array τ) (active : Guard) (start : Fin (tokens.size + 1))
    (ps : List (Parser τ)) (a : Account) (result : Result tokens × Account) : Prop :=
  ∃ es a' place e, AllFail g tokens active start ps a es a' ∧
    result = (.ok (.failure place e), a') ∧ e.isFatal = false ∧ place.val = e.position ∧
    ParseError.combined es = some e

/-- An alternative decides, or it fails. -/
theorem decided_or_exhausted_alternative (p : Parser τ) :
    Decided g tokens active start [p] a (p.applied g tokens active start a) ∨
      Exhausted g tokens active start [p] a (p.applied g tokens active start a) := by
  by_cases h : (p.applied g tokens active start a).1.IsRecoverable
  · obtain ⟨out, hres, hout⟩ := h
    rcases out with ⟨v, next⟩ | ⟨place, e⟩
    · cases hout
    · have hp : p.applied g tokens active start a = (.ok (.failure place e), _) := Prod.ext hres rfl
      have he : e.isFatal = false := by simpa [Outcome.isRecoverable] using hout
      exact .inr ⟨[e], _, place, e, .cons hp he .nil, hp, he, (position_eq_of_applied hp).symm,
        ParseError.combined_singleton e⟩
  · exact .inl ⟨[], p, [], [], a, rfl, .nil, rfl, h⟩

/-- What the first alternatives decide, the others do not change. -/
theorem Decided.append {result : Result tokens × Account}
    (h : Decided g tokens active start ps a result) (qs : List (Parser τ)) :
    Decided g tokens active start (ps ++ qs) a result := by
  obtain ⟨before, p, after, es, a', rfl, hbefore, hresult, hp⟩ := h
  exact ⟨before, p, after ++ qs, es, a', List.append_assoc .., hbefore, hresult, hp⟩

/-- After alternatives that failed, others may decide. -/
theorem AllFail.decided {result : Result tokens × Account}
    (hps : AllFail g tokens active start ps a es a')
    (h : Decided g tokens active start qs a' result) :
    Decided g tokens active start (ps ++ qs) a result := by
  obtain ⟨before, p, after, fs, a'', rfl, hbefore, hresult, hp⟩ := h
  exact ⟨ps ++ before, p, after, es ++ fs, a'', (List.append_assoc ..).symm, hps.append hbefore,
    hresult, hp⟩

omit [Token τ] in
/-- A result that no parser recovers from is the result of two alternatives if the first failed. -/
theorem map_orElse_of_not_isRecoverable {first : Outcome (Fin (tokens.size + 1)) Value}
    (hfirst : first.isRecoverable = true) {res : Result tokens} (h : ¬res.IsRecoverable) :
    res.map first.orElse = res := by
  rcases first with ⟨v, next⟩ | ⟨p₁, e₁⟩
  · simp [Outcome.isRecoverable] at hfirst
  · rcases res with fault | ⟨v, next⟩ | ⟨p₂, e₂⟩
    · rfl
    · rfl
    · rcases he : e₂.isFatal with _ | _
      · exact absurd ⟨_, rfl, by simp [Outcome.isRecoverable, he]⟩ h
      · exact congrArg Except.ok (Outcome.orElse_of_isFatal he)

/-- Two groups of alternatives: the first one decides, or the second one does, or all fail. -/
theorem decided_or_exhausted_or {key : Key}
    (hp : Decided g tokens active start ps a (p.applied g tokens active start a) ∨
      Exhausted g tokens active start ps a (p.applied g tokens active start a))
    (hq : ∀ a', Decided g tokens active start qs a' (q.applied g tokens active start a') ∨
      Exhausted g tokens active start qs a' (q.applied g tokens active start a')) :
    Decided g tokens active start (ps ++ qs) a
        ((Parser.or key p q).applied g tokens active start a) ∨
      Exhausted g tokens active start (ps ++ qs) a
        ((Parser.or key p q).applied g tokens active start a) := by
  rcases hp with hp | ⟨es, a', p₁, e₁, hfail, hp, he₁, hplace₁, hes⟩
  · have hfirst : ¬(p.applied g tokens active start a).1.IsRecoverable := by
      obtain ⟨-, -, -, -, -, -, -, -, h⟩ := hp
      exact h
    rw [applied_or_of_not_isRecoverable hfirst]
    exact .inl (hp.append qs)
  · have hrec : (Outcome.failure (α := Value) p₁ e₁).isRecoverable = true := by
      simp [Outcome.isRecoverable, he₁]
    have hor : (Parser.or key p q).applied g tokens active start a =
        ((q.applied g tokens active start a').1.map (Outcome.failure p₁ e₁).orElse,
          (q.applied g tokens active start a').2) := applied_or_of_isRecoverable hp hrec
    rcases hq a' with hq | ⟨fs, a'', p₂, e₂, hfail', hq, he₂, -, hfs⟩
    · have hsecond : ¬(q.applied g tokens active start a').1.IsRecoverable := by
        obtain ⟨-, -, -, -, -, -, -, -, h⟩ := hq
        exact h
      rw [hor, map_orElse_of_not_isRecoverable hrec hsecond]
      exact .inl (hfail.decided hq)
    · have hfatal : (e₁.merge e₂).isFatal = false := by
        rw [ParseError.isFatal_merge, he₁, he₂]
        rfl
      have horElse : (Outcome.failure (α := Value) p₁ e₁).orElse (.failure p₂ e₂) =
          .failure (if e₁.position < e₂.position then p₂ else p₁) (e₁.merge e₂) := by
        rw [Outcome.orElse, if_neg (by simp [he₂])]
      have hresult : (Parser.or key p q).applied g tokens active start a =
          (.ok (.failure (if e₁.position < e₂.position then p₂ else p₁) (e₁.merge e₂)), a'') := by
        rw [hor, hq, ← horElse]
        rfl
      exact .inr ⟨es ++ fs, a'', _, _, hfail.append hfail', hresult, hfatal,
        (position_eq_of_applied hresult).symm, ParseError.combined_append hes hfs he₁ he₂⟩

end Choice

/-- **Ordered choice.** A choice groups its alternatives to the left; and whatever the grouping is,
for every place, every guard and every account, either one of the alternatives decides the result or
all are exhausted. If one decides, those before it failed, and the result and the account are its
own: none of the alternatives after it left a trace. If all are exhausted, the result is a failure
at the position of the error in closed form. -/
theorem ordered_choice (g : Grammar τ) (tokens : Array τ) (active : Guard)
    (start : Fin (tokens.size + 1)) :
    (∀ p ps d, ∃ q d', (Build.choice (p :: ps) : Build τ (Parser τ)).runFrom d = (.ok q, d') ∧
      Nesting (p :: ps) q) ∧
    ∀ ps q, Nesting ps q → ∀ a,
      Decided g tokens active start ps a (q.applied g tokens active start a) ∨
      Exhausted g tokens active start ps a (q.applied g tokens active start a) := by
  refine ⟨nesting_choice, fun ps q h => ?_⟩
  induction h with
  | alternative p => exact fun a => decided_or_exhausted_alternative p
  | or _ _ ihp ihq => exact fun a => decided_or_exhausted_or (ihp a) ihq

namespace Parser

/-- An `a` and a `b`. -/
def ab : Parser Char :=
  .and 2 (.primitive 0 (.satisfy "a" (· == 'a'))) (.primitive 1 (.satisfy "b" (· == 'b')))

/-- An `a` and a `c`. -/
def ac : Parser Char :=
  .and 5 (.primitive 3 (.satisfy "a" (· == 'a'))) (.primitive 4 (.satisfy "c" (· == 'c')))

/-- A failure between two alternatives, grouped to the right. -/
def abOrAc : Parser Char := .or 8 ab (.or 7 (.primitive 6 (.fail "no")) ac)

end Parser

open GuardedParsing.Parser in
/-- On `ax`, the two outer alternatives get further than the one between them, and the error has
the labels of both. -/
theorem ordered_choice_abOrAc :
    Nesting [ab, .primitive 6 (.fail "no"), ac] abOrAc ∧
    ∃ es a', AllFail #[] #['a', 'x'] ∅ 0 [ab, .primitive 6 (.fail "no"), ac] {} es a' ∧
      ParseError.combined es = some
        { kind := .unexpected, position := 1, expected := ["b", "c"], found := some "'x'" } := by
  have hnest : Nesting [ab, .primitive 6 (.fail "no"), ac] abOrAc :=
    .or (.alternative ab) (.or (.alternative _) (.alternative ac))
  have happlied : (abOrAc.applied #[] #['a', 'x'] ∅ 0 {}).1 = .ok (.failure 1
      { kind := .unexpected, position := 1, expected := ["b", "c"], found := some "'x'" }) := by
    cbv
  refine ⟨hnest, ?_⟩
  rcases (ordered_choice #[] #['a', 'x'] ∅ 0).2 _ _ hnest {} with
    ⟨-, -, -, -, -, -, -, -, h⟩ | ⟨es, a', place, e, hfail, hresult, -, -, hes⟩
  · exact absurd ⟨_, happlied, rfl⟩ h
  · rw [hresult] at happlied
    cases happlied
    exact ⟨es, a', hfail, hes⟩

end GuardedParsing
