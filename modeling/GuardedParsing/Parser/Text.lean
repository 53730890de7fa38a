import GuardedParsing.Parser.Build
import GuardedParsing.Text.Alphabetic
import GuardedParsing.Text.Blank
import GuardedParsing.Text.Decimal
import GuardedParsing.Text.IdentifierContinue
import GuardedParsing.Text.IdentifierStart
import GuardedParsing.Text.Numeric

/-!
# Parsers of text

Parsers of characters. Letters and white space are those of Unicode; digits, and the numbers made
of them, are the ten of ASCII.
-/

namespace GuardedParsing.Build

/-- A parser of a digit. -/
def digit : Build Char (Parser Char) := satisfy "digit" Char.isDigit

/-- A parser of a letter. -/
def letter : Build Char (Parser Char) := satisfy "letter" Text.isAlphabetic

/-- A parser of a letter or a digit of any script. -/
def alphaNum : Build Char (Parser Char) :=
  satisfy "letter or digit" fun c => Text.isAlphabetic c || Text.isNumeric c

/-- A parser of a character of white space. -/
def whitespace : Build Char (Parser Char) := satisfy "whitespace" Text.isBlank

/-- Is the character a digit to the base 16? -/
def isHexDigit (c : Char) : Bool :=
  c.isDigit || ('a' ≤ c && c ≤ 'f') || ('A' ≤ c && c ≤ 'F')

/-- A parser of a digit to the base 16. -/
def hexDigit : Build Char (Parser Char) := satisfy "hex digit" isHexDigit

/-- A parser of white space, at least one character. -/
def space : Build Char (Parser Char) := do collect (← many1 (← whitespace))

/-- A parser of letters, at least one. -/
def word : Build Char (Parser Char) := do collect (← many1 (← letter))

/-- A parser of digits, at least one. -/
def digits : Build Char (Parser Char) := do collect (← many1 (← digit))

/-- The integer that a text of digits stands for. -/
def readNumber (v : Value) : Except String Value :=
  ((Text.readInt64 v.toText).map Value.int).mapError (·.message)

/-- A parser of a number without a sign. -/
def number : Build Char (Parser Char) := do labelled "number" (← tryMap readNumber (← digits))

/-- The integer that an optional sign and a text of digits stand for. -/
def readSigned : Value → Except String Value
  | .pair (.some (.char '-')) v => readNumber (.text ("-" ++ v.toText))
  | v => readNumber v.second

/-- A parser of a number with or without a sign. -/
def integer : Build Char (Parser Char) := do
  let sign ← optional (← or (← just '+') (← just '-'))
  labelled "integer" (← tryMap readSigned (← and sign (← digits)))

/-- A parser of the characters of a text. -/
def string (s : String) : Build Char (Parser Char) := do
  collect (← sequence (← s.toList.mapM just))

/-- A parser of an identifier, where `isStart` says which characters may stand at its start, besides
the underscore, and `isContinue` which ones may follow. -/
def identWhere (isStart isContinue : Char → Bool) : Build Char (Parser Char) := do
  let start ← satisfy "identifier" fun c => c == '_' || isStart c
  let rest ← many (← satisfy "identifier character" isContinue)
  map (fun v => .text (Value.joined (prepended v).items)) (← and start rest)

/-- A parser of an identifier. -/
def ident : Build Char (Parser Char) :=
  identWhere Text.isIdentifierStart Text.isIdentifierContinue

/-- Accepts the keyword among the identifiers. -/
def acceptKeyword (keyword : String) (v : Value) : Except String Value :=
  if v.toText = keyword then .ok .unit
  else .error ("expected keyword `" ++ keyword ++ "`, found `" ++ v.toText ++ "`")

/-- A parser of an identifier that is the keyword, where `isStart` and `isContinue` say which
characters identifiers have. -/
def keywordWhere (isStart isContinue : Char → Bool) (keyword : String) :
    Build Char (Parser Char) := do
  tryMap (acceptKeyword keyword) (← identWhere isStart isContinue)

/-- A parser of an identifier that is the keyword. -/
def keyword (keyword : String) : Build Char (Parser Char) :=
  keywordWhere Text.isIdentifierStart Text.isIdentifierContinue keyword

/-- A parser with any white space on either side. -/
def padded (p : Parser Char) : Build Char (Parser Char) := do
  paddedBy p (← many (← whitespace))

end GuardedParsing.Build
