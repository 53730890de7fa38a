/-!
# Parse errors

Why a parser rejected its input: the kind of the error, where it occurred, what would have been
accepted there, what was found, a message, and notes on what was being parsed. An error of left
recursion is fatal: no parser recovers from it.

* `merge`: the error of two alternatives, the one that got further, or both at one place.
* `message`: the wording.
-/

namespace GuardedParsing

/-- The category of a parse error. -/
inductive ErrorKind where
  /-- A token that the parser did not expect. -/
  | unexpected
  /-- The input ended where a token was expected. -/
  | endOfInput
  /-- A failure with a message of its own. -/
  | custom
  /-- A rule was entered again where it was being applied already. -/
  | leftRecursion
  deriving DecidableEq, Repr

/-- The name of a category. -/
def ErrorKind.name : ErrorKind → String
  | unexpected => "Unexpected"
  | endOfInput => "EndOfInput"
  | custom => "Custom"
  | leftRecursion => "LeftRecursion"

/-- The category with a name. -/
def ErrorKind.ofName? : String → Option ErrorKind
  | "Unexpected" => some unexpected
  | "EndOfInput" => some endOfInput
  | "Custom" => some custom
  | "LeftRecursion" => some leftRecursion
  | _ => none

/-- A description of why a parser rejected its input. -/
structure ParseError where
  kind : ErrorKind
  /-- The number of tokens before the error. -/
  position : Nat
  /-- What would have been accepted, in the order in which it was tried. -/
  expected : List String := []
  /-- What was found instead. -/
  found : Option String := none
  message : Option String := none
  /-- Notes of the enclosing parsers, outermost first. -/
  notes : List String := []
  deriving DecidableEq, Repr

namespace ParseError

/-- A token was found that does not match what was expected. -/
def unexpected (position : Nat) (expected found : String) : ParseError :=
  { kind := .unexpected, position, expected := [expected], found }

/-- The input ended where something was expected. -/
def endOfInput (position : Nat) (expected : String) : ParseError :=
  { kind := .endOfInput, position, expected := [expected] }

/-- None of several accepted things was found; nothing found means the end of the input. -/
def expectedFound (position : Nat) (expected : List String) (found : Option String) : ParseError :=
  { kind := if found.isSome then .unexpected else .endOfInput, position, expected, found }

/-- An error with nothing but a message. -/
def custom (position : Nat) (message : String) : ParseError :=
  { kind := .custom, position, message }

/-- The rule `name` was entered again at a position where it was being applied. -/
def leftRecursion (position : Nat) (name : String) : ParseError :=
  { kind := .leftRecursion, position,
    message := "left recursion detected: rule `" ++ name ++
      "` re-entered without consuming input" }

/-- Is the error one that no parser recovers from? -/
def isFatal (e : ParseError) : Bool := e.kind = .leftRecursion

/-- The notes of the enclosing parsers, innermost first. -/
def context (e : ParseError) : List String := e.notes.reverse

/-- Adds a note on what was being parsed. -/
def withContext (e : ParseError) (note : String) : ParseError := { e with notes := note :: e.notes }

@[simp] theorem context_withContext (e : ParseError) (note : String) :
    (e.withContext note).context = e.context ++ [note] := List.reverse_cons

/-- Replaces what was expected by a single label, in an error that is about a token. -/
def withLabel (e : ParseError) (label : String) : ParseError :=
  match e.kind with
  | .unexpected | .endOfInput => { e with expected := [label] }
  | .custom | .leftRecursion => e

/-- Adds the labels that are not there yet, in order. -/
def addLabels (labels others : List String) : List String :=
  others.foldl (fun ls l => if l ∈ ls then ls else ls ++ [l]) labels

/-- One error for two at the same position. What was found comes from the first of them that is
about a token. -/
def join (e other : ParseError) : ParseError :=
  let labels := addLabels e.expected other.expected
  if e.kind = .custom ∧ other.kind ≠ .custom then
    { e with kind := other.kind, found := other.found, expected := labels }
  else { e with expected := labels }

/-- **The error of two alternatives.** A fatal error wins, the first one if both are; otherwise
the error that got further wins, and two errors at one position are joined. -/
def merge (e other : ParseError) : ParseError :=
  if e.isFatal then e
  else if other.isFatal then other
  else if other.position < e.position then e
  else if e.position < other.position then other
  else e.join other

/-- What was found, after a comma. -/
def foundText (e : ParseError) : String :=
  match e.found with
  | some found => ", found " ++ found
  | none => if e.kind = .endOfInput then ", found end of input" else ""

/-- The notes of the enclosing parsers, each with a colon after it. -/
def notesText (e : ParseError) : String := e.notes.foldl (fun s note => s ++ note ++ ": ") ""

/-- What the error says, without its notes and position. -/
def explanation (e : ParseError) : String :=
  match e.expected with
  | [] => e.message.getD "unexpected input"
  | [single] => "expected " ++ single ++ e.foundText
  | many => "expected one of: " ++ ", ".intercalate many ++ e.foundText

/-- The wording of the error: the notes, outermost first, the explanation and the position. -/
def text (e : ParseError) : String :=
  e.notesText ++ e.explanation ++ " at position " ++ toString e.position

end ParseError

end GuardedParsing
