import GuardedParsing.Outcome
import GuardedParsing.Token

/-!
# Cursors

A cursor is a position in a list of tokens, the end included. Moving a cursor gives another
cursor; the tokens stay as they are. Each list that is read in is a source of its own, with its
own number, and two cursors are the same if they are at one position of one source.
-/

namespace GuardedParsing

/-- A list of tokens that was read in. Sources with the same tokens differ by their number. -/
structure Source (τ : Type) where
  serial : Nat
  tokens : Array τ

namespace Source

/-- The characters of a text that is given by its bytes in UTF-8. -/
def ofBytes? (serial : Nat) (bytes : ByteArray) : Option (Source Char) :=
  (String.fromUTF8? bytes).map fun s => ⟨serial, s.toList.toArray⟩

/-- The wording of the error for bytes that are no text. -/
def notText : String := "stream did not contain valid UTF-8"

end Source

/-- A position in a source. -/
structure Cursor (τ : Type) where
  source : Source τ
  /-- The number of tokens before the cursor. -/
  position : Nat
  le_size : position ≤ source.tokens.size

namespace Cursor

variable {τ : Type}

/-- The cursor at the start of a source. -/
def start (source : Source τ) : Cursor τ := ⟨source, 0, Nat.zero_le _⟩

/-- The number of tokens of the source, wherever the cursor is. -/
def size (c : Cursor τ) : Nat := c.source.tokens.size

/-- Has the source no tokens at all? -/
def isEmpty (c : Cursor τ) : Bool := c.source.tokens.isEmpty

/-- Is the cursor after the last token? -/
def isAtEnd (c : Cursor τ) : Bool := c.size ≤ c.position

/-- The token under the cursor. -/
def current? (c : Cursor τ) : Option τ := c.source.tokens[c.position]?

/-- The cursor one token further; at the end, the cursor itself. -/
def next (c : Cursor τ) : Cursor τ :=
  if h : c.position < c.source.tokens.size then ⟨c.source, c.position + 1, h⟩ else c

/-- The cursor `n` tokens further, or at the end. -/
def advance (c : Cursor τ) : Nat → Cursor τ
  | 0 => c
  | n + 1 => c.next.advance n

/-- The position as a place of the source. -/
def place (c : Cursor τ) : Fin (c.source.tokens.size + 1) :=
  ⟨c.position, Nat.lt_succ_of_le c.le_size⟩

/-- The cursor at a place of the same source. -/
def moveTo (c : Cursor τ) (place : Fin (c.source.tokens.size + 1)) : Cursor τ :=
  ⟨c.source, place, Nat.le_of_lt_succ place.isLt⟩

/-- The tokens from the cursor on. -/
def remaining (c : Cursor τ) : List τ := (c.source.tokens.toList).drop c.position

/-- Do two cursors move over the same source? -/
def sameSource (c d : Cursor τ) : Bool := c.source.serial = d.source.serial

/-- Are two cursors at one position of one source? -/
def same (c d : Cursor τ) : Bool := c.position = d.position && c.sameSource d

/-- The token and the position of a cursor, for messages. -/
def text [Token τ] (c : Cursor τ) : String :=
  (match c.current? with
    | some t => Token.quoted t
    | none => "EOF") ++ " at position " ++ toString c.position

/-- A cursor with the names of its parts. -/
def described [Token τ] (c : Cursor τ) : String :=
  "Input \x7b position: " ++ toString c.position ++ ", current: " ++
    (match c.current? with
      | some t => "Some(" ++ Token.quoted t ++ ")"
      | none => "None") ++ " \x7d"

end Cursor

end GuardedParsing
