import GuardedParsing.Text.Decimal
import GuardedParsing.Value.Basic

/-!
# Functions on values

The functions that a grammar description can name: transforms, which always give a value, checks,
which may refuse one with a message, and operators, which combine two values. A transform leaves
a value of a kind that it is not meant for as it is, and a check refuses it.
-/

namespace GuardedParsing

/-- A function on values that always gives a value. -/
inductive Transform where
  /-- One more than an integer, modulo 2^64. -/
  | increment
  /-- The number of items of a list, or of characters of a text. -/
  | length
  /-- One more than the greatest integer of a list, which counts as 0 if there is none. -/
  | depth
  /-- The sum of the integers of a list, modulo 2^64. -/
  | sum
  | first
  | second
  /-- The value as the only child of a node with the name. -/
  | tag (name : String)
  | constant (v : Value)

namespace Transform

/-- The greatest of some integers, or 0. -/
def greatest : List Int64 → Int64
  | [] => 0
  | n :: ns => ns.foldl max n

/-- Applies a transform. -/
def apply : Transform → Value → Value
  | increment, .int n => .int (n + 1)
  | length, .list vs => .int (Int64.ofNat vs.length)
  | length, .text s => .int (Int64.ofNat s.length)
  | depth, .list vs => .int (1 + greatest (Value.integers vs))
  | sum, .list vs => .int ((Value.integers vs).foldl (· + ·) 0)
  | first, v => v.first
  | second, v => v.second
  | tag name, v => .node name [v]
  | constant v, _ => v
  | _, v => v

end Transform

/-- A function on values that may refuse one. -/
inductive Check where
  | even
  | below (limit : Int64)
  /-- The text of a number from 0 to 255. -/
  | byte
  /-- The text of an integer. -/
  | integer
  | nonempty
  | refuse (message : String)

namespace Check

/-- The message for a value of a kind that the check is not meant for. -/
def wrongType : String := "wrong type"

/-- Applies a check. -/
def apply : Check → Value → Except String Value
  | even, .int n =>
    if n % 2 = 0 then .ok (.int n) else .error (toString n.toInt ++ " is odd")
  | below limit, .int n => if n < limit then .ok (.int n) else .error "too big"
  | byte, .text s => ((Text.readByte s).map .int).mapError (·.message)
  | integer, .text s => ((Text.readInt64 s).map .int).mapError (·.message)
  | nonempty, .list [] => .error "empty"
  | nonempty, .text s => if s.isEmpty then .error "empty" else .ok (.text s)
  | nonempty, v => .ok v
  | refuse message, _ => .error message
  | _, _ => .error wrongType

end Check

namespace Value

/-- The name of the operator that a value stands for. -/
def operatorName : Value → String
  | text s => s
  | char c => c.toString
  | _ => "?"

/-- The value of an operator between two operands: arithmetic modulo 2^64 for sums, differences
and products of integers, and a node with the operator's name otherwise. -/
def combine (operator a b : Value) : Value :=
  match operator.operatorName, a, b with
  | "+", int m, int n => int (m + n)
  | "-", int m, int n => int (m - n)
  | "*", int m, int n => int (m * n)
  | name, a, b => node name [a, b]

end Value

end GuardedParsing
