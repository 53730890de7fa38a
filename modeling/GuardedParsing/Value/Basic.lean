/-!
# Values

What a parser gives on success: one dynamic type, so that the parts of a grammar can be put
together by data that is read at run time.
-/

namespace GuardedParsing

/-- A value given by a parser. Integers are words of 64 bits with a sign. -/
inductive Value where
  | unit
  | bool (b : Bool)
  | int (n : Int64)
  | char (c : Char)
  | text (s : String)
  | list (items : List Value)
  | pair (first second : Value)
  | none
  | some (v : Value)
  | left (v : Value)
  | right (v : Value)
  | node (name : String) (children : List Value)
  deriving Inhabited

namespace Value

/-- The items of a list; no items for any other value. -/
def items : Value → List Value
  | list vs => vs
  | _ => []

/-- The integers of a list of values, in order. -/
def integers (vs : List Value) : List Int64 :=
  vs.filterMap fun
    | int n => Option.some n
    | _ => Option.none

/-- A value as a part of a text: characters and texts are themselves, an integer is its decimal
digits and any other value is a question mark. -/
def toText : Value → String
  | char c => c.toString
  | text s => s
  | int n => toString n.toInt
  | _ => "?"

/-- Values joined to one text. -/
def joined (vs : List Value) : String := vs.foldl (fun s v => s ++ v.toText) ""

/-- The first part of a pair; any other value is itself. -/
def first : Value → Value
  | pair a _ => a
  | v => v

/-- The second part of a pair; any other value is itself. -/
def second : Value → Value
  | pair _ b => b
  | v => v

/-- The value inside an optional one, if there is one; any other value is itself. -/
def getD (default : Value) : Value → Value
  | none => default
  | some v => v
  | v => v

end Value

end GuardedParsing
