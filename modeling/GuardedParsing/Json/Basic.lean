import GuardedParsing.Json.Token

/-!
# JSON

The values of JSON, as far as they matter here, read from a text and written as texts.

* `Json.read?`: the value that a text holds, with nothing but white space around it.
* `Json.quoted`: a text as it stands in JSON.
-/

namespace GuardedParsing

/-- A value of JSON. The fields of an object keep their order, and a name may occur again. -/
inductive Json where
  | null
  | bool (b : Bool)
  | natural (n : Nat)
  /-- A number that is not a natural number. -/
  | number
  /-- A text; without content if a character of it does not exist. -/
  | text (content : Option String)
  | array (items : List Json)
  | object (fields : List (Option String × Json))

namespace Json

/-- An array or object of which a part has been read. The latest part comes first. -/
inductive Open where
  | array (items : List Json)
  | object (fields : List (Option String × Json)) (name : Option String)

/-- What has to come next. -/
inductive Expected where
  | value
  /-- A value, or the end of an array without items. -/
  | firstItem
  /-- A name, or the end of an object without fields. -/
  | firstName
  | name
  /-- A colon after the name of a field. -/
  | colon
  /-- A comma or the end of what is open. -/
  | separator
  /-- Nothing: the value has been read. -/
  | nothing (v : Json)

/-- How far a value has been read: what comes next, and what is open, the innermost first. -/
structure Reading where
  expected : Expected := .value
  opened : List Open := []

namespace Reading

/-- The reading after a value. -/
def complete (v : Json) : List Open → Reading
  | [] => ⟨.nothing v, []⟩
  | .array items :: opened => ⟨.separator, .array (v :: items) :: opened⟩
  | .object fields name :: opened => ⟨.separator, .object ((name, v) :: fields) name :: opened⟩

/-- The reading after the start of a value. -/
def startValue (opened : List Open) : Token → Option Reading
  | .null => some (complete .null opened)
  | .bool b => some (complete (.bool b) opened)
  | .natural n => some (complete (.natural n) opened)
  | .number => some (complete .number opened)
  | .text content => some (complete (.text content) opened)
  | .openArray => some ⟨.firstItem, .array [] :: opened⟩
  | .openObject => some ⟨.firstName, .object [] none :: opened⟩
  | _ => none

/-- The reading after one token. -/
def next (r : Reading) (t : Token) : Option Reading :=
  match r.expected, t, r.opened with
  | .value, t, opened => startValue opened t
  | .firstItem, .closeArray, .array _ :: opened => some (complete (.array []) opened)
  | .firstItem, t, opened => startValue opened t
  | .firstName, .closeObject, .object _ _ :: opened => some (complete (.object []) opened)
  | .firstName, .text name, .object fields _ :: opened =>
    some ⟨.colon, .object fields name :: opened⟩
  | .name, .text name, .object fields _ :: opened => some ⟨.colon, .object fields name :: opened⟩
  | .colon, .colon, opened => some ⟨.value, opened⟩
  | .separator, .comma, .array items :: opened => some ⟨.value, .array items :: opened⟩
  | .separator, .comma, .object fields name :: opened =>
    some ⟨.name, .object fields name :: opened⟩
  | .separator, .closeArray, .array items :: opened =>
    some (complete (.array items.reverse) opened)
  | .separator, .closeObject, .object fields _ :: opened =>
    some (complete (.object fields.reverse) opened)
  | _, _, _ => none

/-- The value, if it has been read. -/
def finish (r : Reading) : Option Json :=
  match r.expected with
  | .nothing v => some v
  | _ => none

end Reading

/-- The value that a text holds. -/
def read? (s : String) : Option Json := do
  let tokens ← scan s
  let r ← tokens.foldlM Reading.next {}
  r.finish

/-- The digits of a control character to the base 16. -/
def controlDigits (c : Char) : String :=
  let digits := String.ofList (Nat.toDigits 16 c.toNat)
  if c.toNat < 16 then "000" ++ digits else "00" ++ digits

/-- A character as it stands in a text of JSON. -/
def escaped (c : Char) : String :=
  if c = '\x22' then "\\\""
  else if c = '\\' then "\\\\"
  else if c = '\x08' then "\\b"
  else if c = '\x0c' then "\\f"
  else if c = '\n' then "\\n"
  else if c = '\r' then "\\r"
  else if c = '\t' then "\\t"
  else if c.toNat < 0x20 then "\\u" ++ controlDigits c
  else c.toString

/-- A text as it stands in JSON. -/
def quoted (s : String) : String := s.foldl (fun shown c => shown ++ escaped c) "\"" ++ "\""

end Json

end GuardedParsing
