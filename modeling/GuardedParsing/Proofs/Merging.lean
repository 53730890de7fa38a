import GuardedParsing.Proofs.Expectations

/-!
# The errors of alternatives as a semigroup

Merging takes two errors for alternatives that both failed and leaves one. Where neither is fatal, it
is the combined error of a list of two, so that three errors may be merged in either grouping: the
combined error of a list does not depend on where the list is cut. Fatal errors are not combined; the
first of them is the result, in either grouping as well.

* `merge_assoc`: **the grouping of alternatives does not matter for their error.**
* `merge_self`: an error merged with itself is itself, repeated labels included.
* `merge_laws`: both, and what is left of two errors: the first fatal one, or else an error at the
  greater of their positions, which expects what those of them expect that are there.
-/

namespace GuardedParsing.ParseError

variable {l : String} {ls ms : List String} {a b c : ParseError}

/-- Labels that are there already are not added. -/
theorem addLabels_of_subset (h : ms ⊆ ls) : addLabels ls ms = ls := by
  have hnew : ms.filter (· ∉ ls) = [] := List.filter_eq_nil_iff.2 fun l hl => by simpa using h hl
  rw [addLabels_eq, hnew, List.eraseDups_nil, List.append_nil]

theorem join_self (a : ParseError) : a.join a = a := by
  rw [join, addLabels_of_subset (List.Subset.refl _), if_neg fun h => h.2 h.1]

theorem merge_of_isFatal (ha : a.isFatal = true) : a.merge b = a := by
  rw [merge, if_pos ha]

theorem merge_of_isFatal_right (ha : a.isFatal = false) (hb : b.isFatal = true) :
    a.merge b = b := by
  rw [merge, if_neg (by simp [ha]), if_pos hb]

/-- **An error merged with itself is itself.** -/
theorem merge_self (a : ParseError) : a.merge a = a := by
  rcases ha : a.isFatal with _ | _
  · rw [merge_of_not_fatal ha ha, if_neg (Nat.lt_irrefl _), if_neg (Nat.lt_irrefl _), join_self]
  · exact merge_of_isFatal ha

/-- Errors of which none is fatal merge to the combined error of all of them, in either grouping. -/
theorem merge_assoc_of_not_fatal (ha : a.isFatal = false) (hb : b.isFatal = false)
    (hc : c.isFatal = false) : (a.merge b).merge c = a.merge (b.merge c) := by
  have hab : (a.merge b).isFatal = false := by rw [isFatal_merge, ha, hb]; rfl
  have hbc : (b.merge c).isFatal = false := by rw [isFatal_merge, hb, hc]; rfl
  have hleft : combined ([a] ++ [b] ++ [c]) = some ((a.merge b).merge c) :=
    combined_append (combined_append (combined_singleton a) (combined_singleton b) ha hb)
      (combined_singleton c) hab hc
  have hright : combined ([a] ++ ([b] ++ [c])) = some (a.merge (b.merge c)) :=
    combined_append (combined_singleton a)
      (combined_append (combined_singleton b) (combined_singleton c) hb hc) ha hbc
  exact Option.some.inj (hleft.symm.trans hright)

/-- **The grouping of alternatives does not matter for their error.** -/
theorem merge_assoc (a b c : ParseError) : (a.merge b).merge c = a.merge (b.merge c) := by
  rcases ha : a.isFatal with _ | _
  · rcases hb : b.isFatal with _ | _
    · rcases hc : c.isFatal with _ | _
      · exact merge_assoc_of_not_fatal ha hb hc
      · have hab : (a.merge b).isFatal = false := by rw [isFatal_merge, ha, hb]; rfl
        rw [merge_of_isFatal_right hab hc, merge_of_isFatal_right hb hc,
          merge_of_isFatal_right ha hc]
    · rw [merge_of_isFatal_right ha hb, merge_of_isFatal hb, merge_of_isFatal_right ha hb]
  · rw [merge_of_isFatal ha, merge_of_isFatal ha, merge_of_isFatal ha]

/-- Two errors of which none is fatal leave one at the position that got further. -/
theorem position_merge (ha : a.isFatal = false) (hb : b.isFatal = false) :
    (a.merge b).position = max a.position b.position := by
  rw [merge_of_not_fatal ha hb]
  rcases Nat.lt_trichotomy a.position b.position with h | h | h
  · rw [if_neg (by omega), if_pos h]
    omega
  · rw [if_neg (by omega), if_neg (by omega), position_join]
    omega
  · rw [if_pos h]
    omega

/-- It expects what those of them expect that are at this position, and nothing else. -/
theorem mem_expected_merge (ha : a.isFatal = false) (hb : b.isFatal = false) :
    l ∈ (a.merge b).expected ↔
      (a.position = (a.merge b).position ∧ l ∈ a.expected) ∨
        b.position = (a.merge b).position ∧ l ∈ b.expected := by
  rw [position_merge ha hb, merge_of_not_fatal ha hb]
  rcases Nat.lt_trichotomy a.position b.position with h | h | h
  · have hleft : a.position ≠ max a.position b.position := by omega
    have hright : b.position = max a.position b.position := by omega
    rw [if_neg (by omega), if_pos h, or_iff_right fun h' => hleft h'.1, and_iff_right hright]
  · have hleft : a.position = max a.position b.position := by omega
    have hright : b.position = max a.position b.position := by omega
    rw [if_neg (by omega), if_neg (by omega), expected_join, mem_addLabels, and_iff_right hleft,
      and_iff_right hright]
  · have hleft : a.position = max a.position b.position := by omega
    have hright : b.position ≠ max a.position b.position := by omega
    rw [if_pos h, or_iff_left fun h' => hright h'.1, and_iff_right hleft]

/-- **Merging is associative and idempotent on all errors**, whether a parser can give them or not.
What it leaves is fatal iff one of the two errors is, and then it is the first fatal one as it is.
Otherwise it is at the greater of their positions, and it expects what those of them expect that are
at this position. -/
theorem merge_laws (a b c : ParseError) :
    (a.merge b).merge c = a.merge (b.merge c) ∧
    a.merge a = a ∧
    ((a.merge b).isFatal = true ↔ a.isFatal = true ∨ b.isFatal = true) ∧
    (a.isFatal = true → a.merge b = a) ∧
    (a.isFatal = false → b.isFatal = true → a.merge b = b) ∧
    (a.isFatal = false → b.isFatal = false →
      (a.merge b).position = max a.position b.position ∧
      ∀ l, l ∈ (a.merge b).expected ↔
        (a.position = (a.merge b).position ∧ l ∈ a.expected) ∨
          b.position = (a.merge b).position ∧ l ∈ b.expected) := by
  refine ⟨merge_assoc a b c, merge_self a, ?_, merge_of_isFatal, merge_of_isFatal_right,
    fun ha hb => ⟨position_merge ha hb, fun l => mem_expected_merge ha hb⟩⟩
  rw [isFatal_merge, Bool.or_eq_true]

end GuardedParsing.ParseError
