import GuardedParsing.Counting
import GuardedParsing.Grammar
import Std.Data.TreeSet

/-!
# The guard against left recursion

The guard holds the activations that are going on: which rule is being applied at which position.
A rule that is about to be applied where it is being applied already would never come to an end.

* `idle_insert_lt`: entering a rule that is not active leaves fewer activations to enter, so that
  rules are entered only finitely deep.
-/

namespace GuardedParsing

/-- The application of a rule at a position. -/
structure Activation where
  rule : RuleId
  position : Nat
  deriving DecidableEq, Repr

namespace Activation

/-- Activations in the order of rules and positions. -/
def compare : Activation → Activation → Ordering :=
  compareLex (compareOn rule) (compareOn position)

instance : Std.TransCmp compare := inferInstanceAs (Std.TransCmp (compareLex _ _))

instance : Std.LawfulEqCmp compare where
  compare_self := by simp [compare, compareLex, compareOn]
  eq_of_compare {a b} h := by
    simp only [compare, compareLex_eq_eq, compareOn, Std.compare_eq_iff_eq] at h
    cases a; cases b; simp_all

end Activation

/-- The activations that are going on. -/
abbrev Guard := Std.TreeSet Activation Activation.compare

namespace Guard

/-- Entering adds one activation. -/
theorem mem_insert {active : Guard} {a b : Activation} :
    b ∈ active.insert a ↔ b = a ∨ b ∈ active := by
  rw [Std.TreeSet.mem_insert, Std.LawfulEqCmp.compare_eq_iff_eq, eq_comm]

/-- The activations of `rules` rules in an input of `size` tokens. -/
def activations (rules size : Nat) : List Activation :=
  (List.range rules).flatMap fun r => (List.range (size + 1)).map fun p => ⟨r, p⟩

theorem mem_activations {rules size : Nat} {a : Activation} :
    a ∈ activations rules size ↔ a.rule < rules ∧ a.position ≤ size := by
  cases a
  simp only [activations, List.mem_flatMap, List.mem_map, List.mem_range]
  grind

/-- The number of activations that are not going on. -/
def idle (rules size : Nat) (active : Guard) : Nat :=
  (activations rules size).countP fun a => !active.contains a

theorem idle_insert_lt {rules size : Nat} {active : Guard} {a : Activation}
    (hrule : a.rule < rules) (hpos : a.position ≤ size) (h : a ∉ active) :
    idle rules size (active.insert a) < idle rules size active := by
  refine countP_lt_of_mem (mem_activations.2 ⟨hrule, hpos⟩) (by simp) ?_ ?_
  · simpa [← Std.TreeSet.contains_iff_mem] using h
  · intro x hx
    simp only [Std.TreeSet.contains_insert, Bool.not_eq_true', Bool.or_eq_false_iff] at hx
    simpa using hx.2

end Guard

end GuardedParsing
