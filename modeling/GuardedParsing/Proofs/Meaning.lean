import GuardedParsing.Proofs.Application
import GuardedParsing.Proofs.Graph

/-!
# The meaning of a parser

What a parser gives on an input by itself: ordered choice, sequencing, repetition, lookahead and the
guard against left recursion, but neither memory nor record. `Yields` says what a parser gives at a
place, and what it comes across on the way: the rules that it applies, and the repetitions that it
stops at a match of no tokens.

* `exists_yields`, `Yields.unique`: every parser yields one result.
* `Yields.eq_error_iff`: **the result is a fault iff a rule without a definition was applied**, and
  it is the fault of that rule.
-/

namespace GuardedParsing

/-- What a parser comes across. -/
inductive Encounter (τ : Type) where
  /-- A rule is applied. -/
  | rule (rule : RuleId)
  /-- The repetition of a part stops at a match of no tokens. -/
  | stop (part : Parser τ)

variable {τ : Type} [Token τ]

open GuardedParsing.Parser in
/-- `Yields g tokens active p start es res`: while the activations of `active` are going on, the
parser `p` gives `res` at `start`, and comes across `es` on the way. -/
inductive Yields (g : Grammar τ) (tokens : Array τ) :
    Guard → Parser τ → Fin (tokens.size + 1) → List (Encounter τ) → Result tokens → Prop
  | primitive {active key leaf start} :
      Yields g tokens active (primitive key leaf) start [] (.ok (leaf.apply tokens start))
  | modified {active key m part start es res} (hpart : Yields g tokens active part start es res) :
      Yields g tokens active (modified key m part) start es (res.map (m.settle start))
  | observed {active key name part start es res}
      (hpart : Yields g tokens active part start es res) :
      Yields g tokens active (observed key name part) start es res
  | orFirst {active key p q start es res} (hp : Yields g tokens active p start es res)
      (hres : ¬res.IsRecoverable) : Yields g tokens active (or key p q) start es res
  | orSecond {active key p q start es out es' res} (hp : Yields g tokens active p start es (.ok out))
      (hout : out.isRecoverable = true) (hq : Yields g tokens active q start es' res) :
      Yields g tokens active (or key p q) start (es ++ es') (res.map out.orElse)
  | andFirst {active key p q start es res} (hp : Yields g tokens active p start es res)
      (hres : ¬res.IsSuccess) : Yields g tokens active (and key p q) start es res
  | andSecond {active key p q start es v next es' res}
      (hp : Yields g tokens active p start es (.ok (.success v next)))
      (hq : Yields g tokens active q next es' res) :
      Yields g tokens active (and key p q) start (es ++ es') (res.map (·.map (.pair v)))
  | sequenceNil {active key start} :
      Yields g tokens active (sequence key []) start [] (.ok (.success (.list []) start))
  | sequenceFirst {active key p ps start es res} (hp : Yields g tokens active p start es res)
      (hres : ¬res.IsSuccess) : Yields g tokens active (sequence key (p :: ps)) start es res
  | sequenceNext {active key p ps start es v next es' res}
      (hp : Yields g tokens active p start es (.ok (.success v next)))
      (hps : Yields g tokens active (sequence key ps) next es' res) :
      Yields g tokens active (sequence key (p :: ps)) start (es ++ es') (res.map (·.map v.prepend))
  -- a repetition passes on what no parser recovers from
  | manyFails {active key part start es res} (hpart : Yields g tokens active part start es res)
      (hres : ¬res.IsSuccess) (hrec : ¬res.IsRecoverable) :
      Yields g tokens active (many key part) start es res
  | manyEnds {active key part start es out} (hpart : Yields g tokens active part start es (.ok out))
      (hout : out.isRecoverable = true) :
      Yields g tokens active (many key part) start es (.ok (.success (.list []) start))
  | manyNext {active key part start es v next es' res}
      (hpart : Yields g tokens active part start es (.ok (.success v next))) (hlt : start < next)
      (hrest : Yields g tokens active (many key part) next es' res) :
      Yields g tokens active (many key part) start (es ++ es') (res.map (·.map v.prepend))
  | manyStops {active key part start es v next}
      (hpart : Yields g tokens active part start es (.ok (.success v next))) (hlt : ¬start < next) :
      Yields g tokens active (many key part) start (es ++ [.stop part])
        (.ok (.success (.list [v]) next))
  | unset {active key rule owning start} (hb : g.binding rule = .unset) :
      Yields g tokens active (refer key rule owning) start [.rule rule]
        (.error (.unset (g.name rule)))
  | released {active key rule owning start} (hb : g.binding rule = .released) :
      Yields g tokens active (refer key rule owning) start [.rule rule] (.error .released)
  | reentered {active key rule owning definition} {start : Fin (tokens.size + 1)}
      (hb : g.binding rule = .bound definition) (hin : (⟨rule, start⟩ : Activation) ∈ active) :
      Yields g tokens active (refer key rule owning) start [.rule rule]
        (.ok (.failure start (.leftRecursion start (g.name rule))))
  | entered {active key rule owning definition es res} {start : Fin (tokens.size + 1)}
      (hb : g.binding rule = .bound definition) (hin : (⟨rule, start⟩ : Activation) ∉ active)
      (hd : Yields g tokens (active.insert ⟨rule, start⟩) definition start es res) :
      Yields g tokens active (refer key rule owning) start (.rule rule :: es) res

section Exists

open GuardedParsing.Parser

variable {g : Grammar τ} {tokens : Array τ} {active : Guard} {p q : Parser τ} {ps : List (Parser τ)}
  {rule : RuleId} {start : Fin (tokens.size + 1)}

/-- The parser yields something. -/
def HasYield (g : Grammar τ) (tokens : Array τ) (active : Guard) (p : Parser τ)
    (start : Fin (tokens.size + 1)) : Prop :=
  ∃ es res, Yields g tokens active p start es res

theorem hasYield_or {key : Key} (hp : HasYield g tokens active p start)
    (hq : HasYield g tokens active q start) : HasYield g tokens active (or key p q) start := by
  obtain ⟨es, res, hp⟩ := hp
  obtain ⟨es', res', hq⟩ := hq
  by_cases hres : res.IsRecoverable
  · obtain ⟨out, rfl, hout⟩ := hres
    exact ⟨_, _, .orSecond hp hout hq⟩
  · exact ⟨_, _, .orFirst hp hres⟩

theorem hasYield_and {key : Key} (hp : HasYield g tokens active p start)
    (hq : ∀ next, HasYield g tokens active q next) : HasYield g tokens active (and key p q) start := by
  obtain ⟨es, res, hp⟩ := hp
  by_cases hres : res.IsSuccess
  · obtain ⟨v, next, rfl⟩ := hres
    obtain ⟨es', res', hq⟩ := hq next
    exact ⟨_, _, .andSecond hp hq⟩
  · exact ⟨_, _, .andFirst hp hres⟩

theorem hasYield_sequence_cons {key : Key} (hp : HasYield g tokens active p start)
    (hps : ∀ next, HasYield g tokens active (sequence key ps) next) :
    HasYield g tokens active (sequence key (p :: ps)) start := by
  obtain ⟨es, res, hp⟩ := hp
  by_cases hres : res.IsSuccess
  · obtain ⟨v, next, rfl⟩ := hres
    obtain ⟨es', res', hps⟩ := hps next
    exact ⟨_, _, .sequenceNext hp hps⟩
  · exact ⟨_, _, .sequenceFirst hp hres⟩

theorem hasYield_many {key : Key} (hp : HasYield g tokens active p start)
    (hrest : ∀ next, start < next → HasYield g tokens active (many key p) next) :
    HasYield g tokens active (many key p) start := by
  obtain ⟨es, res, hp⟩ := hp
  by_cases hres : res.IsSuccess
  · obtain ⟨v, next, rfl⟩ := hres
    by_cases hlt : start < next
    · obtain ⟨es', res', hrest⟩ := hrest next hlt
      exact ⟨_, _, .manyNext hp hlt hrest⟩
    · exact ⟨_, _, .manyStops hp hlt⟩
  · by_cases hrec : res.IsRecoverable
    · obtain ⟨out, rfl, hout⟩ := hrec
      exact ⟨_, _, .manyEnds hp hout⟩
    · exact ⟨_, _, .manyFails hp hres hrec⟩

end Exists

/-- **Every parser yields something**, wherever it is applied. -/
theorem exists_yields (g : Grammar τ) (tokens : Array τ) (active : Guard) (p : Parser τ)
    (start : Fin (tokens.size + 1)) : ∃ es res, Yields g tokens active p start es res := by
  -- by induction on the calls of the evaluation, of which one makes another at most finitely deep
  refine Parser.evaluate.induct g tokens (fun active p start => HasYield g tokens active p start)
    (fun active part start => ∀ key, HasYield g tokens active (.many key part) start)
    (fun active parts start => ∀ key, HasYield g tokens active (.sequence key parts) start)
    ?primitive ?modified ?observed ?or ?and ?sequence ?many ?unset ?released ?reentered ?entered
    ?iterate ?nil ?cons active p start
  case primitive => exact fun _ _ _ _ => ⟨_, _, .primitive⟩
  case modified =>
    rintro _ _ _ _ _ ⟨_, _, hp⟩
    exact ⟨_, _, .modified hp⟩
  case observed =>
    rintro _ _ _ _ _ ⟨_, _, hp⟩
    exact ⟨_, _, .observed hp⟩
  case or => exact fun _ _ _ _ _ hp hq => hasYield_or hp hq
  case and => exact fun _ _ _ _ _ hp hq => hasYield_and hp hq
  case sequence => exact fun _ _ key _ hps => hps key
  case many => exact fun _ _ key _ hp => hp key
  case unset => exact fun _ _ _ _ _ hb => ⟨_, _, .unset hb⟩
  case released => exact fun _ _ _ _ _ hb => ⟨_, _, .released hb⟩
  case reentered =>
    intro _ _ _ _ _ _ hb _ hin
    exact ⟨_, _, .reentered hb hin⟩
  case entered =>
    rintro _ _ _ _ _ _ hb _ hin ⟨_, _, hd⟩
    exact ⟨_, _, .entered hb hin hd⟩
  case iterate => exact fun _ _ _ hp hrest key => hasYield_many hp fun next hlt => hrest next hlt key
  case nil => exact fun _ _ _ => ⟨_, _, .sequenceNil⟩
  case cons => exact fun _ _ _ _ hp hps key => hasYield_sequence_cons hp fun next => hps next key

section Unique

variable {g : Grammar τ} {tokens : Array τ} {active : Guard} {p : Parser τ}
  {start : Fin (tokens.size + 1)} {es : List (Encounter τ)} {res : Result tokens}

omit [Token τ] in
/-- A failure that another parser may recover from is no match. -/
theorem Result.not_isSuccess_of_isRecoverable {out : Outcome (Fin (tokens.size + 1)) Value}
    (h : out.isRecoverable = true) : ¬@Result.IsSuccess τ tokens (.ok out) := by
  rintro ⟨v, next, h'⟩
  cases h'
  cases h

/-- **A parser yields one result.** -/
theorem Yields.unique (h : Yields g tokens active p start es res) :
    ∀ {es' : List (Encounter τ)} {res' : Result tokens},
      Yields g tokens active p start es' res' → es' = es ∧ res' = res := by
  induction h with
  | primitive | sequenceNil =>
    intro _ _ h'
    cases h'
    exact ⟨rfl, rfl⟩
  | modified _ ih =>
    intro _ _ h'
    cases h' with
    | modified h' =>
      obtain ⟨rfl, rfl⟩ := ih h'
      exact ⟨rfl, rfl⟩
  | observed _ ih =>
    intro _ _ h'
    cases h' with
    | observed h' => exact ih h'
  -- what the first part yields decides which rule applies
  | orFirst _ hres ih =>
    intro _ _ h'
    cases h' with
    | orFirst h' => exact ih h'
    | orSecond h' hout => exact absurd ⟨_, (ih h').2.symm, hout⟩ hres
  | orSecond _ hout _ ihp ihq =>
    intro _ _ h'
    cases h' with
    | orFirst h' hres =>
      obtain ⟨-, rfl⟩ := ihp h'
      exact absurd ⟨_, rfl, hout⟩ hres
    | orSecond hp _ hq =>
      obtain ⟨rfl, heq⟩ := ihp hp
      obtain ⟨rfl, rfl⟩ := ihq hq
      cases heq
      exact ⟨rfl, rfl⟩
  | andFirst _ hres ih =>
    intro _ _ h'
    cases h' with
    | andFirst h' => exact ih h'
    | andSecond h' => exact absurd ⟨_, _, (ih h').2.symm⟩ hres
  | sequenceFirst _ hres ih =>
    intro _ _ h'
    cases h' with
    | sequenceFirst h' => exact ih h'
    | sequenceNext h' => exact absurd ⟨_, _, (ih h').2.symm⟩ hres
  | andSecond _ _ ihp ihq =>
    intro _ _ h'
    cases h' with
    | andFirst h' hres =>
      obtain ⟨-, rfl⟩ := ihp h'
      exact absurd ⟨_, _, rfl⟩ hres
    | andSecond hp hq =>
      obtain ⟨rfl, heq⟩ := ihp hp
      cases heq
      obtain ⟨rfl, rfl⟩ := ihq hq
      exact ⟨rfl, rfl⟩
  | sequenceNext _ _ ihp ihps =>
    intro _ _ h'
    cases h' with
    | sequenceFirst h' hres =>
      obtain ⟨-, rfl⟩ := ihp h'
      exact absurd ⟨_, _, rfl⟩ hres
    | sequenceNext hp hps =>
      obtain ⟨rfl, heq⟩ := ihp hp
      cases heq
      obtain ⟨rfl, rfl⟩ := ihps hps
      exact ⟨rfl, rfl⟩
  | manyFails _ hres hrec ih =>
    intro _ _ h'
    cases h' with
    | manyFails h' => exact ih h'
    | manyEnds h' hout => exact absurd ⟨_, (ih h').2.symm, hout⟩ hrec
    | manyNext h' | manyStops h' => exact absurd ⟨_, _, (ih h').2.symm⟩ hres
  | manyEnds _ hout ih =>
    intro _ _ h'
    cases h' with
    | manyFails h' _ hrec =>
      obtain ⟨-, rfl⟩ := ih h'
      exact absurd ⟨_, rfl, hout⟩ hrec
    | manyEnds h' =>
      obtain ⟨rfl, -⟩ := ih h'
      exact ⟨rfl, rfl⟩
    | manyNext h' | manyStops h' =>
      exact absurd ⟨_, _, (ih h').2.symm⟩ (Result.not_isSuccess_of_isRecoverable hout)
  | manyNext _ hlt _ ihp ihrest =>
    intro _ _ h'
    cases h' with
    | manyFails h' hres =>
      obtain ⟨-, rfl⟩ := ihp h'
      exact absurd ⟨_, _, rfl⟩ hres
    | manyEnds h' hout =>
      exact absurd ⟨_, _, (ihp h').2⟩ (Result.not_isSuccess_of_isRecoverable hout)
    | manyNext hp _ hrest =>
      obtain ⟨rfl, heq⟩ := ihp hp
      cases heq
      obtain ⟨rfl, rfl⟩ := ihrest hrest
      exact ⟨rfl, rfl⟩
    | manyStops hp hlt' =>
      obtain ⟨-, heq⟩ := ihp hp
      cases heq
      exact absurd hlt hlt'
  | manyStops _ hlt ih =>
    intro _ _ h'
    cases h' with
    | manyFails h' hres =>
      obtain ⟨-, rfl⟩ := ih h'
      exact absurd ⟨_, _, rfl⟩ hres
    | manyEnds h' hout =>
      exact absurd ⟨_, _, (ih h').2⟩ (Result.not_isSuccess_of_isRecoverable hout)
    | manyNext hp hlt' =>
      obtain ⟨-, heq⟩ := ih hp
      cases heq
      exact absurd hlt' hlt
    | manyStops hp =>
      obtain ⟨rfl, heq⟩ := ih hp
      cases heq
      exact ⟨rfl, rfl⟩
  | unset hb | released hb =>
    intro _ _ h'
    cases h' <;> simp_all
  | reentered hb hin =>
    intro _ _ h'
    cases h' <;> simp_all
  | entered hb hin _ ih =>
    intro _ _ h'
    cases h' with
    | unset hb' | released hb' => simp [hb] at hb'
    | reentered _ hin' => exact absurd hin' hin
    | entered hb' _ hd =>
      obtain rfl := Binding.bound.inj (hb.symm.trans hb')
      obtain ⟨rfl, rfl⟩ := ih hd
      exact ⟨rfl, rfl⟩

end Unique

/-- The fault of applying a rule, if it has no definition. -/
def Grammar.fault? (g : Grammar τ) (rule : RuleId) : Option Fault :=
  match g.binding rule with
  | .unset => some (.unset (g.name rule))
  | .bound _ => none
  | .released => some .released

section Encounters

variable {g : Grammar τ} {tokens : Array τ} {active : Guard} {p part : Parser τ}
  {start : Fin (tokens.size + 1)} {es es' : List (Encounter τ)} {res : Result tokens}
  {fault : Fault}

omit [Token τ] in
theorem map_eq_error_iff {α β : Type} {res : Except Fault α} {f : α → β} :
    res.map f = .error fault ↔ res = .error fault := by
  cases res <;> simp [Except.map]

omit [Token τ] in
/-- A rule among two lists of encounters is in one of them. -/
theorem exists_rule_append {P : RuleId → Prop} :
    (∃ rule, .rule rule ∈ es ++ es' ∧ P rule) ↔
      (∃ rule, .rule rule ∈ es ∧ P rule) ∨ ∃ rule, .rule rule ∈ es' ∧ P rule := by
  simp only [List.mem_append, or_and_right, exists_or]

/-- **What is to blame for a fault.** A parser yields a fault iff it applies a rule with that
fault. -/
theorem Yields.eq_error_iff (h : Yields g tokens active p start es res) :
    ∀ fault, res = .error fault ↔ ∃ rule, .rule rule ∈ es ∧ g.fault? rule = some fault := by
  induction h with
  | primitive | sequenceNil => simp
  | modified _ ih => exact fun fault => map_eq_error_iff.trans (ih fault)
  | observed _ ih | orFirst _ _ ih | andFirst _ _ ih | sequenceFirst _ _ ih
  | manyFails _ _ _ ih => exact ih
  -- what came to an outcome applied no rule with a fault
  | orSecond _ _ _ ihp ihq | andSecond _ _ ihp ihq | sequenceNext _ _ ihp ihq
  | manyNext _ _ _ ihp ihq =>
    intro fault
    rw [map_eq_error_iff, ihq, exists_rule_append, ← ihp]
    simp
  | manyEnds _ _ ih =>
    intro fault
    rw [← ih]
    simp
  | manyStops _ _ ih =>
    intro fault
    rw [exists_rule_append, ← ih]
    simp
  | unset hb => simp [Grammar.fault?, hb, eq_comm]
  | released hb => simp [Grammar.fault?, hb, eq_comm]
  | reentered hb => simp [Grammar.fault?, hb]
  | entered hb _ _ ih =>
    intro fault
    rw [ih]
    simp [Grammar.fault?, hb]

/-- A parser leads to the parts whose repetition it stops. -/
theorem Yields.leads_of_stop (h : Yields g tokens active p start es res) :
    .stop part ∈ es → Relation.TransGen g.Leads p part := by
  induction h with
  | primitive | sequenceNil | unset | released | reentered => simp
  | modified _ ih | observed _ ih | orFirst _ _ ih | andFirst _ _ ih | sequenceFirst _ _ ih
  | manyFails _ _ _ ih | manyEnds _ _ ih => exact fun h => .head (.part (.head _)) (ih h)
  | orSecond _ _ _ ihp ihq | andSecond _ _ ihp ihq =>
    intro h
    rcases List.mem_append.1 h with h | h
    · exact .head (.part (.head _)) (ihp h)
    · exact .head (.part (.tail _ (.head _))) (ihq h)
  | sequenceNext _ _ ihp ihps =>
    intro h
    rcases List.mem_append.1 h with h | h
    · exact .head (.part (.head _)) (ihp h)
    -- the rest of the sequence is no parser of its own, but what it leads to the sequence leads to
    · obtain ⟨q, hl, hr⟩ := Relation.TransGen.head'_iff.1 (ihps h)
      exact .head' hl.tail hr
  | manyNext _ _ _ ihp ihrest =>
    intro h
    rcases List.mem_append.1 h with h | h
    · exact .head (.part (.head _)) (ihp h)
    · exact ihrest h
  | manyStops _ _ ih =>
    intro h
    rcases List.mem_append.1 h with h | h
    · exact .head (.part (.head _)) (ih h)
    · cases List.mem_singleton.1 h
      exact .single (.part (.head _))
  | entered hb _ _ ih =>
    intro h
    rcases List.mem_cons.1 h with h | h
    · cases h
    · exact .head (.definition hb) (ih h)

end Encounters

end GuardedParsing
