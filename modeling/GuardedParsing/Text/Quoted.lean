import GuardedParsing.Text.Extending
import GuardedParsing.Text.Unprintable

/-!
# Quoted characters and texts

The form in which a character or a text is shown in messages: between quotes, with the quote
itself, the backslash and the characters that cannot be seen written as escapes.
-/

namespace GuardedParsing.Text

/-- The digits of a number to the base 16, in lower case and without padding. -/
def hexadecimal (n : Nat) : String := String.ofList (Nat.toDigits 16 n)

/-- A character by its number, between braces. -/
def numbered (c : Char) : String := "\\u\x7b" ++ hexadecimal c.toNat ++ "\x7d"

/-- Is the character a halfwidth sound mark of Katakana? These two belong together with the
character before them but are drawn beside it. -/
def isSoundMark (c : Char) : Bool := c = '\uff9e' || c = '\uff9f'

/-- Is the character a filler of Hangul? Fillers count as letters but are drawn as nothing. -/
def isFiller (c : Char) : Bool := c = '\u115f' || c = '\u1160' || c = '\u3164' || c = '\uffa0'

/-- Is the character shown by its number? These are the characters that would not be seen, or not
beside the ones around them. -/
def isHidden (c : Char) : Bool :=
  isUnprintable c || isFiller c || isExtending c && !isSoundMark c

/-- A character as it stands between quotes of the form `quote`. -/
def escaped (quote : Char) (c : Char) : String :=
  if c = '\x00' then "\\0"
  else if c = '\t' then "\\t"
  else if c = '\r' then "\\r"
  else if c = '\n' then "\\n"
  else if c = '\\' then "\\\\"
  else if c = quote then "\\" ++ quote.toString
  else if isHidden c then numbered c
  else c.toString

/-- A character between apostrophes. -/
def quotedChar (c : Char) : String := "'" ++ escaped '\x27' c ++ "'"

/-- A text between quotation marks. -/
def quotedText (s : String) : String :=
  s.foldl (fun shown c => shown ++ escaped '\x22' c) "\"" ++ "\""

/-- Texts between brackets, with commas between them. -/
def listed (texts : List String) : String := "[" ++ ", ".intercalate texts ++ "]"

end GuardedParsing.Text
