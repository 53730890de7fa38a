/-!
# Counting what is left

Two facts that show that a process ends: fewer members of a finite list are left, or as many are
left and a second number is less.
-/

namespace GuardedParsing

/-- A stricter condition, which a member fails, holds of fewer members. -/
theorem countP_lt_of_mem {α : Type} {p q : α → Bool} {l : List α} {a : α} (hmem : a ∈ l)
    (hp : p a = false) (hq : q a = true) (hpq : ∀ x, p x = true → q x = true) :
    l.countP p < l.countP q := by
  induction l with
  | nil => cases hmem
  | cons x l ih =>
    have hle := List.countP_mono_left (l := l) (p := p) (q := q) fun y _ => hpq y
    rcases List.mem_cons.1 hmem with rfl | h
    · simp only [List.countP_cons, hp, hq]
      simp only [Bool.false_eq_true, if_false, if_true]
      omega
    · have := ih h
      have hx := hpq x
      simp only [List.countP_cons]
      split <;> split <;> first | omega | contradiction | simp_all

/-- A pair is less if its first number is not greater and its second number is less. -/
theorem lex_of_le_of_lt {a b c d : Nat} (h : a ≤ b) (h' : c < d) :
    Prod.Lex (· < ·) (· < ·) (a, c) (b, d) := by
  rcases Nat.lt_or_eq_of_le h with h | rfl
  · exact .left _ _ h
  · exact .right _ h'

end GuardedParsing
