/-!
# Tokens of JSON

A JSON text is read character by character into tokens: punctuation, the three words, numbers and
texts. A number is kept only if it is a natural number without sign, fraction and exponent. The
escape of half of a surrogate pair is no character: a text with one is read as a text without
content.

* `Json.Token.scan`: the tokens of a text, if every character has its place.
-/

namespace GuardedParsing.Json

/-- A token of a JSON text. -/
inductive Token where
  | openArray
  | closeArray
  | openObject
  | closeObject
  | comma
  | colon
  | null
  | bool (b : Bool)
  | natural (n : Nat)
  /-- A number with a sign, a fraction or an exponent. -/
  | number
  /-- A text; without content if a character of it does not exist. -/
  | text (content : Option String)
  deriving DecidableEq, Repr

/-- How far a number has been read. -/
inductive NumberPart where
  /-- A sign was read. -/
  | sign
  /-- A single zero was read, after a sign or not. -/
  | zero (signed : Bool)
  /-- The number of the digits that were read, after a sign or not. -/
  | digits (n : Nat) (signed : Bool)
  | point
  | fraction
  | exponent
  | exponentSign
  | exponentDigits

/-- How far an escape in a text has been read. -/
inductive EscapePart where
  | none
  | backslash
  /-- The number of the digits to the base 16 that are left to read, and what was read. -/
  | hexadecimal (left n : Nat)

/-- What has been read of a text. -/
structure TextPart where
  /-- The characters, the latest first. -/
  read : List Char := []
  escape : EscapePart := .none
  /-- The first half of a surrogate pair, if one was just read. -/
  half : Option Nat := .none
  /-- Do all characters exist? -/
  valid : Bool := true

/-- What is being read. -/
inductive Scanning where
  | nothing
  /-- A word with the characters that are left to read. -/
  | word (left : List Char) (token : Token)
  | number (part : NumberPart)
  | text (part : TextPart)

namespace TextPart

/-- A text after one more character. -/
def push (t : TextPart) (c : Char) : TextPart :=
  { read := c :: t.read, escape := .none, half := .none, valid := t.valid && t.half.isNone }

/-- A text after one more code unit of the escapes. -/
def pushUnit (t : TextPart) (unit : Nat) : TextPart :=
  let high := 0xD800 ≤ unit ∧ unit < 0xDC00
  let low := 0xDC00 ≤ unit ∧ unit < 0xE000
  match t.half with
  | .some first =>
    if low then
      let c := Char.ofNat (0x10000 + (first - 0xD800) * 0x400 + (unit - 0xDC00))
      { t with read := c :: t.read, escape := .none, half := .none }
    else
      { t with escape := .none, half := if high then .some unit else .none, valid := false }
  | .none =>
    if high then { t with escape := .none, half := .some unit }
    else if low then { t with escape := .none, valid := false }
    else t.push (Char.ofNat unit)

/-- The token of a text at its end. -/
def finish (t : TextPart) : Token :=
  .text (if t.valid && t.half.isNone then .some (String.ofList t.read.reverse) else .none)

end TextPart

/-- The character that a letter after a backslash stands for. -/
def unescape? : Char → Option Char
  | '\x22' => some '\x22'
  | '\\' => some '\\'
  | '/' => some '/'
  | 'b' => some '\x08'
  | 'f' => some '\x0c'
  | 'n' => some '\n'
  | 'r' => some '\r'
  | 't' => some '\t'
  | _ => none

/-- The value of a digit to the base 16. -/
def hexValue? (c : Char) : Option Nat :=
  if c.isDigit then some (c.toNat - '0'.toNat)
  else if 'a' ≤ c ∧ c ≤ 'f' then some (c.toNat - 'a'.toNat + 10)
  else if 'A' ≤ c ∧ c ≤ 'F' then some (c.toNat - 'A'.toNat + 10)
  else none

/-- Starts reading at a character between tokens. -/
def scanStart (c : Char) : Option (Scanning × List Token) :=
  match c with
  | ' ' | '\t' | '\n' | '\r' => some (.nothing, [])
  | '[' => some (.nothing, [.openArray])
  | ']' => some (.nothing, [.closeArray])
  | '\x7b' => some (.nothing, [.openObject])
  | '\x7d' => some (.nothing, [.closeObject])
  | ',' => some (.nothing, [.comma])
  | ':' => some (.nothing, [.colon])
  | '\x22' => some (.text {}, [])
  | 'n' => some (.word ['u', 'l', 'l'] .null, [])
  | 't' => some (.word ['r', 'u', 'e'] (.bool true), [])
  | 'f' => some (.word ['a', 'l', 's', 'e'] (.bool false), [])
  | '-' => some (.number .sign, [])
  | '0' => some (.number (.zero false), [])
  | c => if c.isDigit then some (.number (.digits (c.toNat - '0'.toNat) false), []) else none

/-- How a character goes on with a number. -/
def NumberPart.next (c : Char) : NumberPart → Option NumberPart
  | sign =>
    if c = '0' then some (zero true)
    else if c.isDigit then some (digits (c.toNat - '0'.toNat) true)
    else none
  | zero _ =>
    if c = '.' then some point else if c = 'e' ∨ c = 'E' then some exponent else none
  | digits n signed =>
    if c.isDigit then some (digits (10 * n + (c.toNat - '0'.toNat)) signed)
    else if c = '.' then some point
    else if c = 'e' ∨ c = 'E' then some exponent
    else none
  | point => if c.isDigit then some fraction else none
  | fraction =>
    if c.isDigit then some fraction else if c = 'e' ∨ c = 'E' then some exponent else none
  | exponent =>
    if c = '+' ∨ c = '-' then some exponentSign
    else if c.isDigit then some exponentDigits
    else none
  | exponentSign => if c.isDigit then some exponentDigits else none
  | exponentDigits => if c.isDigit then some exponentDigits else none

/-- The token of a number at its end. -/
def NumberPart.finish : NumberPart → Option Token
  | zero false => some (.natural 0)
  | digits n false => some (.natural n)
  | zero true | digits _ true | fraction | exponentDigits => some .number
  | sign | point | exponent | exponentSign => none

/-- How a character goes on with a text; `none` is its end. -/
def TextPart.next (c : Char) (t : TextPart) : Option (Option TextPart) :=
  match t.escape with
  | .backslash =>
    if c = 'u' then some (some { t with escape := .hexadecimal 4 0 })
    else (unescape? c).map fun c => some (t.push c)
  | .hexadecimal left n =>
    (hexValue? c).map fun d =>
      if left ≤ 1 then some (t.pushUnit (16 * n + d))
      else some { t with escape := .hexadecimal (left - 1) (16 * n + d) }
  | .none =>
    if c = '\x22' then some none
    else if c = '\\' then some (some { t with escape := .backslash })
    else if c.toNat < 0x20 then none
    else some (some (t.push c))

/-- Reads one character. -/
def Scanning.next (c : Char) : Scanning → Option (Scanning × List Token)
  | nothing => scanStart c
  | word [] token => (scanStart c).map fun (s, ts) => (s, token :: ts)
  | word (d :: left) token =>
    if c = d then some (if left.isEmpty then (nothing, [token]) else (word left token, []))
    else none
  | number part =>
    match part.next c with
    | some part => some (number part, [])
    | none => do
      let token ← part.finish
      let (s, ts) ← scanStart c
      some (s, token :: ts)
  | text part =>
    match part.next c with
    | some (some part) => some (text part, [])
    | some none => some (nothing, [part.finish])
    | none => none

/-- Ends the reading. -/
def Scanning.finish : Scanning → Option (List Token)
  | nothing => some []
  | word [] token => some [token]
  | word _ _ => none
  | number part => part.finish.map fun token => [token]
  | text _ => none

/-- The tokens of characters, after those of `s`. -/
def Scanning.scan (s : Scanning) : List Char → Option (List Token)
  | [] => s.finish
  | c :: cs => do
    let (s, ts) ← s.next c
    let rest ← s.scan cs
    some (ts ++ rest)

/-- The tokens of a text. -/
def scan (s : String) : Option (List Token) := Scanning.nothing.scan s.toList

end GuardedParsing.Json
