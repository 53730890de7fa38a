/-!
# Ranges of code points

A property of characters is a list of ranges of code points, both ends included, in ascending
order. `covers` looks a code point up and stops at the first range that lies above it.

* `Ranges.covers_iff`: looking a code point up in a table finds it iff some range of the table holds
  it. This is how the properties of characters are decided.
-/

namespace GuardedParsing.Text

/-- Does each range lie at or above `least` and above the ranges before it? -/
def ascends : Nat → List (Nat × Nat) → Bool
  | _, [] => true
  | least, (first, last) :: rest => least ≤ first && first ≤ last && ascends (last + 1) rest

/-- A set of code points, as ranges with both ends included, in ascending order. -/
structure Ranges where
  list : List (Nat × Nat)
  ascending : ascends 0 list := by decide +kernel

/-- Does one of the ranges, given in ascending order, hold the code point? -/
def covers : List (Nat × Nat) → Nat → Bool
  | [], _ => false
  | (first, last) :: rest, n => if n < first then false else n ≤ last || covers rest n

theorem le_of_ascends {ranges : List (Nat × Nat)} {least : Nat} (h : ascends least ranges) :
    ∀ r ∈ ranges, least ≤ r.1 := by
  induction ranges generalizing least with
  | nil => exact nofun
  | cons r rest ih =>
    simp only [ascends, Bool.and_eq_true, decide_eq_true_eq] at h
    obtain ⟨⟨hleast, hends⟩, hrest⟩ := h
    rintro s (_ | ⟨_, hs⟩)
    · exact hleast
    · have habove := ih hrest s hs
      omega

theorem covers_iff_of_ascends {ranges : List (Nat × Nat)} {least n : Nat}
    (h : ascends least ranges) : covers ranges n ↔ ∃ r ∈ ranges, r.1 ≤ n ∧ n ≤ r.2 := by
  induction ranges generalizing least with
  | nil => simp [covers]
  | cons r rest ih =>
    simp only [ascends, Bool.and_eq_true, decide_eq_true_eq] at h
    obtain ⟨⟨-, hends⟩, hrest⟩ := h
    simp only [covers, List.mem_cons, exists_eq_or_imp, ← ih hrest]
    split
    · rename_i hbelow
      simp only [Bool.false_eq_true, false_iff, not_or, not_and]
      refine ⟨fun hfirst => absurd hfirst (Nat.not_le.2 hbelow), ?_⟩
      rw [ih hrest]
      -- the ranges after this one lie further above
      rintro ⟨s, hs, hfirst, -⟩
      have habove := le_of_ascends hrest s hs
      omega
    · rename_i hfrom
      simp [Nat.not_lt.1 hfrom]

namespace Ranges

/-- The code point lies in one of the ranges. -/
structure Holds (ranges : Ranges) (n : Nat) : Prop where
  exists_mem : ∃ r ∈ ranges.list, r.1 ≤ n ∧ n ≤ r.2

/-- **Looking a code point up finds it iff some range holds it.** -/
theorem covers_iff {ranges : Ranges} {n : Nat} : covers ranges.list n ↔ ranges.Holds n :=
  (covers_iff_of_ascends ranges.ascending).trans ⟨.mk, Holds.exists_mem⟩

instance {ranges : Ranges} {n : Nat} : Decidable (ranges.Holds n) := decidable_of_iff _ covers_iff

end Ranges

end GuardedParsing.Text
