import GuardedParsing.Proofs.Failures

/-!
# What an error says of the input

The kind of an error says what is to be found at its position: a token that did not match, the end
of the input, or nothing, where the error has a message of its own. Labels, notes and the joining
of errors change one part of an error at a time, and keep the parts in agreement.

* `ParseError.Faithful`: the parts of an error agree with each other and with the input.
* `ParseError.Faithful.merge`: **the error of two alternatives is faithful if theirs are**, although
  its kind and its message may come from different ones.
* `parse_faithful`: **the error of every failing parse is faithful.**
-/

namespace GuardedParsing

variable {τ : Type} [Token τ]

namespace ParseError

/-- The error says what there is in the input at its position, and nothing else. -/
structure Faithful (tokens : Array τ) (e : ParseError) : Prop where
  unexpected : e.kind = .unexpected →
    ∃ h : e.position < tokens.size, e.found = some (Token.quoted tokens[e.position])
  endOfInput : e.kind = .endOfInput → e.position = tokens.size ∧ e.found = none
  custom : e.kind = .custom → e.found = none ∧ e.expected = [] ∧ ∃ message, e.message = some message
  leftRecursion : e.kind = .leftRecursion →
    e.found = none ∧ e.expected = [] ∧ ∃ message, e.message = some message

variable {tokens : Array τ} {e other : ParseError} {position : Nat}

/-- An error about a token that was found. -/
theorem faithful_expectedFound (h : position < tokens.size) (expected : List String) :
    (expectedFound position expected (some (Token.quoted tokens[position]))).Faithful tokens where
  unexpected _ := ⟨h, rfl⟩
  endOfInput := nofun
  custom := nofun
  leftRecursion := nofun

/-- An error about the end of the input. -/
theorem faithful_expectedFound_none (h : position = tokens.size) (expected : List String) :
    (expectedFound position expected none).Faithful tokens where
  unexpected := nofun
  endOfInput _ := ⟨h, rfl⟩
  custom := nofun
  leftRecursion := nofun

theorem faithful_custom (position : Nat) (message : String) :
    (custom position message).Faithful tokens where
  unexpected := nofun
  endOfInput := nofun
  custom _ := ⟨rfl, rfl, message, rfl⟩
  leftRecursion := nofun

theorem faithful_leftRecursion (position : Nat) (name : String) :
    (leftRecursion position name).Faithful tokens where
  unexpected := nofun
  endOfInput := nofun
  custom := nofun
  leftRecursion _ := ⟨rfl, rfl, _, rfl⟩

/-- A note is none of the parts that have to agree. -/
theorem Faithful.withContext (h : e.Faithful tokens) (note : String) :
    (e.withContext note).Faithful tokens :=
  ⟨h.unexpected, h.endOfInput, h.custom, h.leftRecursion⟩

/-- A label changes what was expected, in an error that may expect anything. -/
theorem Faithful.withLabel (h : e.Faithful tokens) (label : String) :
    (e.withLabel label).Faithful tokens := by
  unfold ParseError.withLabel
  split
  all_goals rename_i hk
  · exact ⟨h.unexpected, by simp [hk], by simp [hk], by simp [hk]⟩
  · exact ⟨by simp [hk], h.endOfInput, by simp [hk], by simp [hk]⟩
  · exact h
  · exact h

/-- Two errors at one position are joined to one that says what both say. -/
theorem Faithful.join (h : e.Faithful tokens) (h' : other.Faithful tokens)
    (hpos : e.position = other.position) (hf : e.isFatal = false) (hf' : other.isFatal = false) :
    (e.join other).Faithful tokens := by
  have hk : e.kind ≠ .leftRecursion := by simpa [isFatal] using hf
  have hk' : other.kind ≠ .leftRecursion := by simpa [isFatal] using hf'
  by_cases hcustom : e.kind = .custom
  · by_cases hcustom' : other.kind = .custom
    · -- neither expects anything
      have hlabels : addLabels e.expected other.expected = [] := by
        rw [(h.custom hcustom).2.1, (h'.custom hcustom').2.1]
        rfl
      simp only [ParseError.join, hcustom', ne_eq, not_true_eq_false, and_false, if_false, hlabels]
      obtain ⟨hfound, -, hmessage⟩ := h.custom hcustom
      exact ⟨by simp [hcustom], by simp [hcustom], fun _ => ⟨hfound, rfl, hmessage⟩,
        fun hl => absurd hl hk⟩
    · -- what was found comes from the other one, which is at the same position
      simp only [ParseError.join, hcustom, hcustom', ne_eq, not_false_eq_true, and_self, if_true]
      refine ⟨fun hu => ?_, fun he => ?_, fun hc => absurd hc hcustom', fun hl => absurd hl hk'⟩
      · obtain ⟨hlt, hfound⟩ := h'.unexpected hu
        refine ⟨by simpa [hpos] using hlt, ?_⟩
        simpa [hpos] using hfound
      · obtain ⟨hend, hfound⟩ := h'.endOfInput he
        exact ⟨hpos.trans hend, hfound⟩
  · simp only [ParseError.join, hcustom, false_and, if_false]
    exact ⟨h.unexpected, h.endOfInput, fun hc => absurd hc hcustom, fun hl => absurd hl hk⟩

/-- **The error of two alternatives is faithful if theirs are.** -/
theorem Faithful.merge (h : e.Faithful tokens) (h' : other.Faithful tokens)
    (hf : e.isFatal = false) (hf' : other.isFatal = false) : (e.merge other).Faithful tokens := by
  rw [merge_of_not_fatal hf hf']
  by_cases hlt : other.position < e.position
  · rw [if_pos hlt]
    exact h
  · rw [if_neg hlt]
    by_cases hgt : e.position < other.position
    · rw [if_pos hgt]
      exact h'
    · rw [if_neg hgt]
      have hpos : e.position = other.position := by omega
      exact h.join h' hpos hf hf'

end ParseError

/-- A primitive fails with an error about the token that is there, or about the end. -/
theorem Primitive.faithful_of_failure {tokens : Array τ} {start place : Fin (tokens.size + 1)}
    {leaf : Primitive τ} {e : ParseError} (h : leaf.apply tokens start = .failure place e) :
    e.Faithful tokens := by
  cases leaf with
  | pure v => cases h
  | fail message =>
    cases h
    exact ParseError.faithful_custom _ _
  | eof =>
    rw [apply] at h
    split at h
    · cases h
    · rename_i t ht
      obtain ⟨hlt, rfl⟩ := Array.getElem?_eq_some_iff.1 ht
      cases h
      exact ParseError.faithful_expectedFound hlt _
  | satisfy expected accepts =>
    rw [apply] at h
    split at h
    · rename_i hlt
      split at h <;> cases h
      exact ParseError.faithful_expectedFound hlt _
    · cases h
      have hend : start.val = tokens.size := by omega
      exact ParseError.faithful_expectedFound_none hend _
  | oneOf accepted =>
    simp only [apply] at h
    split at h
    · rename_i hlt
      split at h <;> cases h
      exact ParseError.faithful_expectedFound hlt _
    · cases h
      have hend : start.val = tokens.size := by omega
      exact ParseError.faithful_expectedFound_none hend _

/-- **Every error that is raised is faithful.** -/
theorem Raises.faithful {D : Primitive τ → Prop} {tokens : Array τ}
    {start place : Fin (tokens.size + 1)} {e : ParseError} (h : Raises D tokens start place e) :
    e.Faithful tokens := by
  induction h with
  | primitive _ h => exact Primitive.faithful_of_failure h
  | refused message => exact ParseError.faithful_custom _ message
  | reentered name => exact ParseError.faithful_leftRecursion _ name
  | labelled label _ ih => exact ih.withLabel label
  | inContext note _ ih => exact ih.withContext note
  | merged _ _ hf₁ hf₂ ih₁ ih₂ => exact ih₁.merge ih₂ hf₁ hf₂
  | later _ _ ih => exact ih

/-- **Errors are faithful to the input.** If a parse fails with an error about a token, then that
token is in the input at the position of the error, and the error shows it; if the error is about
the end of the input, it is at the end and shows no token. An error with a message of its own, and
one of left recursion, shows no token and expects nothing, and its message is there. -/
theorem parse_faithful (g : Grammar τ) (p : Parser τ) (c : Cursor τ) (a : Account)
    {place : Cursor τ} {e : ParseError} (h : (p.parse g c a).1 = .ok (.failure place e)) :
    e.Faithful c.source.tokens := by
  obtain ⟨out, happ, hout⟩ := applies_of_parse h
  cases out with
  | success v next => cases hout
  | failure place' e' =>
    cases hout
    exact (happ.raises place' e rfl).faithful

/-- A refusal, or an `a`, or the end of the input. -/
def Parser.refusalOrA : Parser Char :=
  .or 4 (.or 2 (.primitive 0 (.fail "refused")) (.primitive 1 (.satisfy "a" (· == 'a'))))
    (.primitive 3 .eof)

/-- Before an `x`, the error keeps the message of the refusal, and shows the `x`, which the other
alternatives met. -/
theorem parse_faithful_refusalOrA :
    ∃ place e, (Parser.refusalOrA.parse #[] (Cursor.start ⟨0, #['x']⟩) {}).1 =
        .ok (.failure place e) ∧
      e.kind = .unexpected ∧ e.message = some "refused" ∧ e.expected = ["a", "end of input"] ∧
      ∃ h : e.position < 1, e.found = some (Token.quoted #['x'][e.position]) := by
  have h : (Parser.refusalOrA.parse #[] (Cursor.start ⟨0, #['x']⟩) {}).1 =
      .ok (.failure (Cursor.start ⟨0, #['x']⟩)
        ⟨.unexpected, 0, ["a", "end of input"], some "'x'", some "refused", []⟩) := by
    cbv
  have hfaithful := parse_faithful _ _ _ _ h
  exact ⟨_, _, h, rfl, rfl, rfl, hfaithful.unexpected rfl⟩

end GuardedParsing
