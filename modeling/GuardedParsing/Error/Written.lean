import GuardedParsing.Error.GrammarError
import GuardedParsing.Json.Basic
import GuardedParsing.Outcome
import GuardedParsing.Text.Quoted

/-!
# Written forms of parse errors

A parse error is shown with the names of its parts, and stored as JSON: an object with the parts
as fields, in their order. What is read back may have its fields in any order and further ones
besides, or be an array of the six parts.

* `ParseError.described`: the shown form.
* `ParseError.toJson`, `ParseError.ofJson?`: the stored form.
-/

namespace GuardedParsing

/-- Texts between brackets, each as it is shown. -/
def shownTexts (texts : List String) : String := Text.listed (texts.map Text.quotedText)

/-- A text that may be missing, as it is shown. -/
def shownOption : Option String → String
  | some s => "Some(" ++ Text.quotedText s ++ ")"
  | none => "None"

/-- A grammar error with the names of its parts. -/
def kindAndName (kind name : String) : String :=
  kind ++ " \x7b name: " ++ Text.quotedText name ++ " \x7d"

namespace ErrorKind

/-- The stored form of a category. -/
def toJson (k : ErrorKind) : String := Json.quoted k.name

/-- The category in a value: its name, or an object with the name as its only field and nothing
under it. -/
def ofValue? : Json → Option ErrorKind
  | .text (some name) => ofName? name
  | .object [(some name, .null)] => ofName? name
  | _ => none

/-- The category that is stored in a text. -/
def ofJson? (s : String) : Option ErrorKind := do ofValue? (← Json.read? s)

end ErrorKind

namespace ParseError

/-- The error with the names of its parts. -/
def described (e : ParseError) : String :=
  "ParseError \x7b kind: " ++ e.kind.name ++ ", position: " ++ toString e.position ++
    ", expected: " ++ shownTexts e.expected ++ ", found: " ++ shownOption e.found ++
    ", message: " ++ shownOption e.message ++ ", context: " ++ shownTexts e.context ++ " \x7d"

/-- Texts as an array of JSON. -/
def jsonTexts (texts : List String) : String :=
  "[" ++ ",".intercalate (texts.map Json.quoted) ++ "]"

/-- A text that may be missing, as JSON. -/
def jsonOption : Option String → String
  | some s => Json.quoted s
  | none => "null"

/-- The stored form of an error. -/
def toJson (e : ParseError) : String :=
  "\x7b\"kind\":" ++ e.kind.toJson ++ ",\"position\":" ++ toString e.position ++
    ",\"expected\":" ++ jsonTexts e.expected ++ ",\"found\":" ++ jsonOption e.found ++
    ",\"message\":" ++ jsonOption e.message ++ ",\"context\":" ++ jsonTexts e.context ++ "\x7d"

/-- A position, which is less than 2^64. -/
def positionOf? : Json → Option Nat
  | .natural n => if n < UInt64.size then some n else none
  | _ => none

/-- A text. -/
def textOf? : Json → Option String
  | .text content => content
  | _ => none

/-- Texts. -/
def textsOf? : Json → Option (List String)
  | .array items => items.mapM textOf?
  | _ => none

/-- A text that may be missing. -/
def optionOf? : Json → Option (Option String)
  | .null => some none
  | v => (textOf? v).map some

/-- The error with six parts, in their order. -/
def ofParts? (kind position expected found message context : Json) : Option ParseError := do
  return {
    kind := ← ErrorKind.ofValue? kind
    position := ← positionOf? position
    expected := ← textsOf? expected
    found := ← optionOf? found
    message := ← optionOf? message
    notes := (← textsOf? context).reverse }

/-- The names of the fields of a stored error. -/
def fieldNames : List String := ["kind", "position", "expected", "found", "message", "context"]

/-- The fields of an object with their names, of which those of an error occur only once. -/
def namedFields? (fields : List (Option String × Json)) : Option (List (String × Json)) := do
  let named ← fields.mapM fun (name, v) => name.map (·, v)
  if fieldNames.all fun name => named.countP (·.1 == name) ≤ 1 then some named else none

/-- The error in a value. -/
def ofValue? : Json → Option ParseError
  | .object fields => do
    let named ← namedFields? fields
    ofParts? (← named.lookup "kind") (← named.lookup "position") (← named.lookup "expected")
      ((named.lookup "found").getD .null) ((named.lookup "message").getD .null)
      (← named.lookup "context")
  | .array [kind, position, expected, found, message, context] =>
    ofParts? kind position expected found message context
  | _ => none

/-- The error that is stored in a text. -/
def ofJson? (s : String) : Option ParseError := do ofValue? (← Json.read? s)

end ParseError

namespace GrammarError

/-- A grammar error with the names of its parts. -/
def described : GrammarError → String
  | emptyChoice => emptyChoice.kindName
  | alreadySet name => kindAndName "AlreadySet" name
  | unset name => kindAndName "Unset" name
  | unknown name => kindAndName "Unknown" name

end GrammarError

namespace Outcome

/-- An outcome with the names of its parts, where `value` and `place` say how a value and a place
are shown. -/
def described {κ α : Type} (value : α → String) (place : κ → String) : Outcome κ α → String
  | success v next => "Success \x7b value: " ++ value v ++ ", next: " ++ place next ++ " \x7d"
  | failure position e =>
    "Failure \x7b position: " ++ place position ++ ", error: " ++ e.described ++ " \x7d"

end Outcome

end GuardedParsing
