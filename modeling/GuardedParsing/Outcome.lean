import GuardedParsing.Error.ParseError

/-!
# Outcomes

The outcome of applying a parser: a value and the place after the tokens that matched, or the
place of the failure and its error. The type of places is left open.
-/

namespace GuardedParsing

/-- What became of applying a parser. -/
inductive Outcome (κ α : Type) where
  /-- The parser matched up to the place `next`. -/
  | success (value : α) (next : κ)
  /-- The parser did not match. -/
  | failure (position : κ) (error : ParseError)

namespace Outcome

variable {κ κ' α β : Type}

/-- Did the parser match? -/
def isSuccess : Outcome κ α → Bool
  | success _ _ => true
  | failure _ _ => false

/-- The value of a match. -/
def value? : Outcome κ α → Option α
  | success v _ => some v
  | failure _ _ => none

/-- The error of a failure. -/
def error? : Outcome κ α → Option ParseError
  | success _ _ => none
  | failure _ e => some e

/-- The place after a match. -/
def next? : Outcome κ α → Option κ
  | success _ next => some next
  | failure _ _ => none

/-- The place after a match or of a failure. -/
def place : Outcome κ α → κ
  | success _ next => next
  | failure position _ => position

/-- The value or the error, without places. -/
def toExcept : Outcome κ α → Except ParseError α
  | success v _ => .ok v
  | failure _ e => .error e

/-- One of two functions, depending on the outcome. -/
def fold {γ : Type} (onSuccess : α → κ → γ) (onFailure : κ → ParseError → γ) : Outcome κ α → γ
  | success v next => onSuccess v next
  | failure position e => onFailure position e

/-- Changes the value of a match. -/
def map (f : α → β) : Outcome κ α → Outcome κ β
  | success v next => success (f v) next
  | failure position e => failure position e

/-- Changes the place. -/
def mapPlace (f : κ → κ') : Outcome κ α → Outcome κ' α
  | success v next => success v (f next)
  | failure position e => failure (f position) e

/-- Are two outcomes the same, where `same` compares their places? -/
def same [BEq α] (same : κ → κ → Bool) : Outcome κ α → Outcome κ α → Bool
  | success v next, success w next' => v == w && same next next'
  | failure position e, failure position' e' => same position position' && e = e'
  | _, _ => false

/-- Is it a failure that another parser may recover from? -/
def isRecoverable : Outcome κ α → Bool
  | success _ _ => false
  | failure _ e => !e.isFatal

/-- The outcome of two alternatives, of which the first failed: two failures that are not fatal
become one, at the place of the one that got further. -/
def orElse : Outcome κ α → Outcome κ α → Outcome κ α
  | failure p₁ e₁, failure p₂ e₂ =>
    if e₂.isFatal then failure p₂ e₂
    else failure (if e₁.position < e₂.position then p₂ else p₁) (e₁.merge e₂)
  | _, second => second

end Outcome

end GuardedParsing
