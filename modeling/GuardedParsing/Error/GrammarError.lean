/-!
# Grammar errors and faults

A `GrammarError` is a mistake in the construction of a grammar. A `Fault` ends the use of a
parser: a rule that it needs has no definition, or none any more.
-/

namespace GuardedParsing

/-- A mistake in the construction of a grammar. -/
inductive GrammarError where
  /-- A choice between no alternatives. -/
  | emptyChoice
  /-- A rule was defined a second time. -/
  | alreadySet (name : String)
  /-- A rule was applied before it was defined. -/
  | unset (name : String)
  /-- A name that stands for no rule and no parser. -/
  | unknown (name : String)
  deriving DecidableEq, Repr

namespace GrammarError

/-- The wording of a mistake. -/
def message : GrammarError → String
  | emptyChoice => "choice requires at least one alternative"
  | alreadySet name => "parser reference `" ++ name ++ "` has already been set"
  | unset name => "parser reference `" ++ name ++ "` was used before being set"
  | unknown name => "nothing is called `" ++ name ++ "`"

/-- The name of the kind of mistake. -/
def kindName : GrammarError → String
  | emptyChoice => "EmptyChoice"
  | alreadySet _ => "AlreadySet"
  | unset _ => "Unset"
  | unknown _ => "Unknown"

end GrammarError

/-- Why a parser could not be used. -/
inductive Fault where
  /-- The rule has no definition yet. -/
  | unset (name : String)
  /-- The rule was released together with its last holder. -/
  | released
  deriving DecidableEq, Repr

/-- The wording of a fault. -/
def Fault.message : Fault → String
  | unset name => (GrammarError.unset name).message
  | released =>
    "recursive parser used after the parser returned by `recursive` was dropped"

end GuardedParsing
