import GuardedParsing.Proofs.Progress

/-!
# How failures come about

`Raises D tokens start place e` lists the ways in which a parser that is applied at `start` can come
to fail at `place` with the error `e`: a primitive with the property `D` fails, a value is refused, a
rule is entered again, a node changes the error of its part, two alternatives fail, or a later part
fails. A fact about all errors is an induction over these ways; no grammar is left in it.

* `Applies.raises`: every failure of an application comes about in these ways, from the primitives
  that the parser reaches.
* `Modifier.settle_of_isFatal`, `Outcome.orElse_of_isFatal`: no node recovers from a fatal failure.
* `parse_forward`: **what a parse gives points into its input, and never to a place before the
  cursor; the error of a failure is at the place of the failure.**
-/

namespace GuardedParsing

variable {τ : Type} [Token τ]

/-- The primitive is one of those that the parser reaches. -/
def Grammar.HasLeaf (g : Grammar τ) (p : Parser τ) (leaf : Primitive τ) : Prop :=
  ∃ key, g.Reaches p (.primitive key leaf)

section Leaves

variable {g : Grammar τ} {p q : Parser τ} {key : Key} {leaf leaf' : Primitive τ}

omit [Token τ] in
theorem Grammar.HasLeaf.of_leads (h : g.HasLeaf q leaf) (hl : g.Leads p q) : g.HasLeaf p leaf := by
  obtain ⟨key, hr⟩ := h
  exact ⟨key, .head hl hr⟩

omit [Token τ] in
/-- Any node but a primitive has its primitives from what it leads to. -/
theorem Grammar.HasLeaf.exists_leads (h : g.HasLeaf p leaf)
    (hp : ∀ key leaf, p ≠ .primitive key leaf) : ∃ q, g.Leads p q ∧ g.HasLeaf q leaf := by
  obtain ⟨key, hr⟩ := h
  rcases hr.cases_head with rfl | ⟨q, hl, hr⟩
  · exact absurd rfl (hp key leaf)
  · exact ⟨q, hl, key, hr⟩

omit [Token τ] in
/-- A primitive leads nowhere. -/
theorem Grammar.HasLeaf.eq (h : g.HasLeaf (.primitive key leaf) leaf') : leaf' = leaf := by
  obtain ⟨key', hr⟩ := h
  rcases hr.cases_head with hr | ⟨q, hl, -⟩
  · cases hr
    rfl
  · cases hl with
    | part hq => cases hq

end Leaves

/-- `Raises D tokens start place e`: a parser of primitives with the property `D` that is applied at
`start` may fail at `place` with the error `e`. -/
inductive Raises (D : Primitive τ → Prop) (tokens : Array τ) :
    Fin (tokens.size + 1) → Fin (tokens.size + 1) → ParseError → Prop
  | primitive {start place e} {leaf : Primitive τ} (hleaf : D leaf)
      (h : leaf.apply tokens start = .failure place e) : Raises D tokens start place e
  -- a check refuses a value, or a pattern matches that must not
  | refused {start} (message : String) : Raises D tokens start start (.custom start message)
  | reentered {start} (name : String) : Raises D tokens start start (.leftRecursion start name)
  | labelled {start place e} (label : String) (h : Raises D tokens start place e) :
      Raises D tokens start place (e.withLabel label)
  | inContext {start place e} (note : String) (h : Raises D tokens start place e) :
      Raises D tokens start place (e.withContext note)
  -- the place and the error of two alternatives are chosen one by one
  | merged {start p₁ e₁ p₂ e₂} (h₁ : Raises D tokens start p₁ e₁) (h₂ : Raises D tokens start p₂ e₂)
      (hf₁ : e₁.isFatal = false) (hf₂ : e₂.isFatal = false) :
      Raises D tokens start (if e₁.position < e₂.position then p₂ else p₁) (e₁.merge e₂)
  | later {start next place e} (hle : start ≤ next) (h : Raises D tokens next place e) :
      Raises D tokens start place e

theorem Outcome.map_eq_failure {κ α β : Type} {out : Outcome κ α} {f : α → β} {place : κ}
    {e : ParseError} (h : out.map f = .failure place e) : out = .failure place e := by
  cases out with
  | success v next => cases h
  | failure p e' =>
    cases h
    rfl

/-- A failure stays what it is where the value of a match would have been changed. -/
theorem Outcome.eq_failure_of_map {ε κ α β : Type} {res : Except ε (Outcome κ α)} {f : α → β}
    {place : κ} {e : ParseError} (h : res.map (·.map f) = .ok (.failure place e)) :
    res = .ok (.failure place e) := by
  obtain ⟨out, rfl, hout⟩ := map_eq_ok h
  exact congrArg Except.ok (Outcome.map_eq_failure hout)

section Nodes

variable {D : Primitive τ → Prop} {tokens : Array τ} {start place : Fin (tokens.size + 1)} {e : ParseError}

theorem Raises.mono {D' : Primitive τ → Prop} (h : Raises D tokens start place e)
    (hD : ∀ leaf, D leaf → D' leaf) : Raises D' tokens start place e := by
  induction h with
  | primitive hleaf h => exact .primitive (hD _ hleaf) h
  | refused message => exact .refused message
  | reentered name => exact .reentered name
  | labelled label _ ih => exact ih.labelled label
  | inContext note _ ih => exact ih.inContext note
  | merged _ _ hf₁ hf₂ ih₁ ih₂ => exact .merged ih₁ ih₂ hf₁ hf₂
  | later hle _ ih => exact ih.later hle

/-- A parser reaches the primitives of what it leads to. -/
theorem Raises.of_leads {g : Grammar τ} {p q : Parser τ}
    (h : Raises (g.HasLeaf q) tokens start place e) (hl : g.Leads p q) :
    Raises (g.HasLeaf p) tokens start place e :=
  h.mono fun _ hleaf => hleaf.of_leads hl

/-- A sequence reaches the primitives of the rest of it. -/
theorem Raises.tail {g : Grammar τ} {key : Key} {p : Parser τ} {ps : List (Parser τ)}
    (h : Raises (g.HasLeaf (.sequence key ps)) tokens start place e) :
    Raises (g.HasLeaf (.sequence key (p :: ps))) tokens start place e := by
  refine h.mono fun leaf hleaf => ?_
  obtain ⟨q, hl, hq⟩ := hleaf.exists_leads fun _ _ => nofun
  exact hq.of_leads hl.tail

/-- A node with one part fails by itself, or passes on the failure of its part. -/
theorem Raises.settle {m : Modifier} {out : Outcome (Fin (tokens.size + 1)) Value}
    (hout : ∀ p e, out = .failure p e → Raises D tokens start p e)
    (h : m.settle start out = .failure place e) : Raises D tokens start place e := by
  cases out with
  | success v next =>
    cases m with
    | map f | labelled label | inContext note | optional => cases h
    | tryMap f =>
      simp only [Modifier.settle] at h
      split at h <;> cases h
      exact .refused _
    | not => cases h; exact .refused _
  | failure p e' =>
    have hpart := hout p e' rfl
    cases m with
    | map f | tryMap f => cases h; exact hpart
    | inContext note => cases h; exact hpart.inContext note
    | labelled label =>
      simp only [Modifier.settle] at h
      split at h <;> cases h
      · exact hpart.labelled label
      · exact hpart
    | optional | not =>
      simp only [Modifier.settle] at h
      split at h <;> cases h
      exact hpart

/-- Two alternatives fail with the error of both, or with the fatal one of the second. -/
theorem Raises.orElse {first second : Outcome (Fin (tokens.size + 1)) Value}
    (hrec : first.isRecoverable = true)
    (hfirst : ∀ p e, first = .failure p e → Raises D tokens start p e)
    (hsecond : ∀ p e, second = .failure p e → Raises D tokens start p e)
    (h : first.orElse second = .failure place e) : Raises D tokens start place e := by
  cases first with
  | success v next => cases hrec
  | failure p₁ e₁ =>
    cases second with
    | success v next => cases h
    | failure p₂ e₂ =>
      have hf₁ : e₁.isFatal = false := by simpa [Outcome.isRecoverable] using hrec
      rw [Outcome.orElse] at h
      split at h
      · exact hsecond place e h
      · rename_i hf₂
        cases h
        exact .merged (hfirst p₁ e₁ rfl) (hsecond p₂ e₂ rfl) hf₁ (by simpa using hf₂)

end Nodes

/-- **Every failure of an application comes about in one of these ways.** -/
theorem Applies.raises {g : Grammar τ} {tokens : Array τ} {active : Guard} {p : Parser τ}
    {start : Fin (tokens.size + 1)} {a a' : Account} {res : Result tokens}
    (h : Applies g tokens active p start a res a') :
    ∀ place e, res = .ok (.failure place e) → Raises (g.HasLeaf p) tokens start place e := by
  induction h with
  | @primitive _ key => exact fun place e h => .primitive ⟨key, .refl⟩ (Except.ok.inj h)
  | modified _ ih =>
    intro place e h
    obtain ⟨out, rfl, hout⟩ := map_eq_ok h
    exact .settle (fun p e' hp => (ih p e' (congrArg Except.ok hp)).of_leads (.part (.head _))) hout
  | observed _ ih | orFirst _ _ ih | andFirst _ _ ih | sequenceFirst _ _ ih | manyFatal _ _ ih =>
    exact fun place e h => (ih place e h).of_leads (.part (.head _))
  | entered hb _ _ ih => exact fun place e h => (ih place e h).of_leads (.definition hb)
  | orSecond _ hout _ ihp ihq =>
    intro place e h
    obtain ⟨out', rfl, hor⟩ := map_eq_ok h
    exact .orElse hout
      (fun p e' hp => (ihp p e' (congrArg Except.ok hp)).of_leads (.part (.head _)))
      (fun q e' hq => (ihq q e' (congrArg Except.ok hq)).of_leads (.part (.tail _ (.head _)))) hor
  -- the part that failed was applied where the parts before it stopped
  | andSecond hp _ _ ih =>
    intro place e h
    have hlast := ih place e (Outcome.eq_failure_of_map h)
    exact (hlast.of_leads (.part (.tail _ (.head _)))).later (hp.le _ _ rfl)
  | sequenceNext hp _ _ ih =>
    exact fun place e h => (ih place e (Outcome.eq_failure_of_map h)).tail.later (hp.le _ _ rfl)
  | manyNext hp _ _ _ ih =>
    exact fun place e h => (ih place e (Outcome.eq_failure_of_map h)).later (hp.le _ _ rfl)
  | reentered =>
    rintro place e ⟨⟩
    exact .reentered _
  | manyStopped =>
    intro place e h
    obtain ⟨u, -, hu⟩ := map_eq_ok h
    cases hu
  | _ => exact fun place e h => by cases h

section Fatal

variable {n : Nat} {start place : Fin (n + 1)} {e : ParseError}

/-- The notes that a node with one part adds to an error. -/
def Modifier.notes : Modifier → List String
  | inContext note => [note]
  | _ => []

/-- A node with one part passes a fatal failure on, and adds no more than its note. -/
theorem Modifier.settle_of_isFatal {m : Modifier} (he : e.isFatal = true) :
    m.settle start (.failure place e) =
      .failure place (m.notes.foldl ParseError.withContext e) := by
  cases m <;> simp [settle, notes, he, Outcome.map]

/-- Whatever the first alternative did, a fatal failure of the second one is passed on. -/
theorem Outcome.orElse_of_isFatal {κ α : Type} {first : Outcome κ α} {place : κ}
    (he : e.isFatal = true) : first.orElse (.failure place e) = .failure place e := by
  cases first with
  | success v next => rfl
  | failure p₁ e₁ => rw [orElse, if_pos he]

end Fatal

namespace ParseError

variable {e other : ParseError}

/-- Two errors that are not fatal: the one that got further, or both at one position. -/
theorem merge_of_not_fatal (he : e.isFatal = false) (ho : other.isFatal = false) :
    e.merge other =
      if other.position < e.position then e
      else if e.position < other.position then other else e.join other := by
  simp only [merge, he, ho, Bool.false_eq_true, if_false]

@[simp] theorem position_join (e other : ParseError) : (e.join other).position = e.position := by
  simp only [join]
  split <;> rfl

@[simp] theorem position_withLabel (e : ParseError) (label : String) :
    (e.withLabel label).position = e.position := by
  rw [withLabel]
  split <;> rfl

end ParseError

/-- A primitive fails where it is applied. -/
theorem Primitive.place_of_failure {tokens : Array τ} {start place : Fin (tokens.size + 1)}
    {leaf : Primitive τ} {e : ParseError} (h : leaf.apply tokens start = .failure place e) :
    place = start ∧ e.position = start.val := by
  cases leaf with
  | pure v => cases h
  | fail message =>
    cases h
    exact ⟨rfl, rfl⟩
  | eof =>
    rw [apply] at h
    split at h <;> cases h
    exact ⟨rfl, rfl⟩
  | satisfy expected accepts =>
    rw [apply] at h
    split at h
    · split at h <;> cases h
      exact ⟨rfl, rfl⟩
    · cases h
      exact ⟨rfl, rfl⟩
  | oneOf accepted =>
    simp only [apply] at h
    split at h
    · split at h <;> cases h
      exact ⟨rfl, rfl⟩
    · cases h
      exact ⟨rfl, rfl⟩

namespace Raises

variable {D : Primitive τ → Prop} {tokens : Array τ} {start place : Fin (tokens.size + 1)} {e : ParseError}

/-- The error of a failure is at the place of the failure. -/
theorem position_eq (h : Raises D tokens start place e) : e.position = place.val := by
  induction h with
  | primitive _ h =>
    obtain ⟨rfl, he⟩ := Primitive.place_of_failure h
    exact he
  | refused | reentered => rfl
  | labelled label _ ih => rw [ParseError.position_withLabel, ih]
  | inContext note _ ih => exact ih
  -- the comparison that chooses the place is the one that chooses the error
  | @merged _ p₁ e₁ p₂ e₂ _ _ hf₁ hf₂ ih₁ ih₂ =>
    rw [ParseError.merge_of_not_fatal hf₁ hf₂]
    by_cases hlt : e₁.position < e₂.position
    · have hge : ¬e₂.position < e₁.position := by omega
      rw [if_neg hge, if_pos hlt, if_pos hlt, ih₂]
    · rw [if_neg hlt, if_neg hlt]
      split
      · exact ih₁
      · rw [ParseError.position_join, ih₁]
  | later _ _ ih => exact ih

/-- A failure is at or after the place where the parser was applied. -/
theorem le (h : Raises D tokens start place e) : start ≤ place := by
  induction h with
  | primitive _ h =>
    obtain ⟨rfl, -⟩ := Primitive.place_of_failure h
    exact Fin.le_refl _
  | refused | reentered => exact Fin.le_refl _
  | labelled _ _ ih | inContext _ _ ih => exact ih
  | merged _ _ _ _ ih₁ ih₂ =>
    split
    · exact ih₂
    · exact ih₁
  | later hle _ ih => exact Fin.le_trans hle ih

end Raises

/-- **A parse goes forward in its input.** Whatever a parse gives is at a cursor over the source
that it read. A match ends at or after the cursor where the parse started, and a failure is at or
after it; neither is past the end of the input, and the error of a failure is at its cursor. -/
theorem parse_forward (g : Grammar τ) (p : Parser τ) (c : Cursor τ) (a : Account)
    {out : Outcome (Cursor τ) Value} (h : (p.parse g c a).1 = .ok out) :
    out.place.source = c.source ∧
    (∀ v next, out = .success v next → c.position ≤ next.position ∧ next.position ≤ c.size) ∧
    (∀ place e, out = .failure place e →
      place.position = e.position ∧ c.position ≤ e.position ∧ e.position ≤ c.size) := by
  obtain ⟨out', happ, rfl⟩ := applies_of_parse h
  cases out' with
  | success w next =>
    have hle : c.position ≤ next.val := happ.le w next rfl
    have hsize : next.val ≤ c.size := Nat.le_of_lt_succ next.isLt
    refine ⟨rfl, ?_, nofun⟩
    rintro v last ⟨⟩
    exact ⟨hle, hsize⟩
  | failure place e =>
    have hraises := happ.raises place e rfl
    have hpos : e.position = place.val := hraises.position_eq
    have hle : c.position ≤ place.val := hraises.le
    have hsize : place.val ≤ c.size := Nat.le_of_lt_succ place.isLt
    refine ⟨rfl, nofun, ?_⟩
    rintro place' e' ⟨⟩
    refine ⟨hpos.symm, ?_, ?_⟩ <;> omega

/-- An `a` with a `b` after it, or nothing at all. -/
def Parser.abOrNothing : Parser Char :=
  .or 4 (.and 2 (.primitive 0 (.satisfy "a" (· == 'a'))) (.primitive 1 (.satisfy "b" (· == 'b'))))
    (.primitive 3 (.fail "nothing"))

/-- From the `a` of `xac` on, the first alternative gets further, to the `c`: the failure and its
error are both there. -/
theorem parse_forward_abOrNothing :
    ∃ place e, (Parser.abOrNothing.parse #[] ⟨⟨0, #['x', 'a', 'c']⟩, 1, by decide⟩ {}).1 =
        .ok (.failure place e) ∧
      place.position = 2 ∧ place.position = e.position ∧ 1 ≤ e.position ∧ e.position ≤ 3 := by
  have h : (Parser.abOrNothing.parse #[] ⟨⟨0, #['x', 'a', 'c']⟩, 1, by decide⟩ {}).1 =
      .ok (.failure ⟨⟨0, #['x', 'a', 'c']⟩, 2, by decide⟩ (.unexpected 2 "b" "'c'")) := by
    cbv
  obtain ⟨-, -, hfailure⟩ := parse_forward _ _ _ _ h
  exact ⟨_, _, h, rfl, hfailure _ _ rfl⟩

end GuardedParsing
