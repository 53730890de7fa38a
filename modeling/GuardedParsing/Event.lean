import GuardedParsing.Guard

/-!
# Events

What happens while grammars are built and inputs are parsed, in the order in which it happens.
Most events have a record, with a level and a wording, that a log can show; that a rule has come
to its end has none.
-/

namespace GuardedParsing

/-- How much a log shows, from little to all. -/
inductive Level where
  | warn
  | debug
  | trace
  deriving DecidableEq, Repr

namespace Level

/-- The rank of a level: a log shows the records up to its own. -/
def rank : Level → Nat
  | warn => 0
  | debug => 1
  | trace => 2

/-- The name of a level in a log. -/
def name : Level → String
  | warn => "WARN"
  | debug => "DEBUG"
  | trace => "TRACE"

end Level

/-- What happens while a grammar is built or an input is parsed. -/
inductive Event where
  /-- A rule got its definition. -/
  | defined (name : String)
  /-- A rule is applied. -/
  | entered (activation : Activation) (name : String)
  /-- The application of a rule has given an outcome. -/
  | left (activation : Activation)
  /-- A rule was to be applied where it was being applied already. -/
  | reentered (activation : Activation) (name : String)
  /-- The repetition of a part stopped at a match of no tokens, of a part that accepts empty input
  or not. -/
  | stopped (part : Key) (position : Nat) (acceptsEmpty : Bool)
  /-- A parser under observation is applied. -/
  | observed (key : Key) (name : String) (position : Nat)
  /-- A parser under observation matched up to a position. -/
  | matched (key : Key) (name : String) (position : Nat)
  /-- A parser under observation failed. -/
  | failed (key : Key) (name : String) (error : ParseError)
  deriving DecidableEq, Repr

namespace Event

/-- A parser under observation, as a record shows it. -/
def shown (name : String) : String := "`" ++ name ++ "` (LOC)"

/-- The record of an event. -/
def record? : Event → Option (Level × String)
  | defined name => some (.debug, "parser reference `" ++ name ++ "` set")
  | entered a name =>
    some (.trace, "entering rule `" ++ name ++ "` at position " ++ toString a.position)
  | left _ => none
  | reentered a name =>
    some (.debug, "rule `" ++ name ++ "` re-entered at position " ++ toString a.position ++
      " without consuming input")
  | stopped _ position true =>
    some (.debug, "repetition matched zero tokens at position " ++ toString position ++
      "; stopping")
  | stopped _ position false =>
    some (.warn, "parser that does not accept empty input matched zero tokens at position " ++
      toString position)
  | observed _ name position =>
    some (.trace, "entering " ++ shown name ++ " at position " ++ toString position)
  | matched _ name position =>
    some (.trace, shown name ++ " matched up to position " ++ toString position)
  | failed _ name error => some (.trace, shown name ++ " failed: " ++ error.text)

/-- The records that a log of a level shows. -/
def log (level : Level) (events : List Event) : List (Level × String) :=
  (events.filterMap record?).filter fun r => r.1.rank ≤ level.rank

end Event

/-- The event of an outcome of a parser under observation. -/
def Event.ofOutcome {n : Nat} {α : Type} (key : Key) (name : String) :
    Outcome (Fin (n + 1)) α → Event
  | .success _ next => .matched key name next
  | .failure _ e => .failed key name e

end GuardedParsing
