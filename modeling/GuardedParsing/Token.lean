import GuardedParsing.Text.Quoted
import GuardedParsing.Value.Basic

/-!
# Tokens

What a parser needs to know of the tokens it reads: when two are equal, which of two comes
first, how one is shown in a message and which value stands for one.
-/

namespace GuardedParsing

/-- A type of tokens. -/
class Token (τ : Type) extends BEq τ, LawfulBEq τ where
  /-- Does the first token come before the second, or at the same place? -/
  upTo : τ → τ → Bool
  /-- A token as it is shown in messages. -/
  quoted : τ → String
  /-- The value that stands for a token. -/
  toValue : τ → Value

instance : Token Char where
  upTo a b := a ≤ b
  quoted := Text.quotedChar
  toValue := .char

instance : Token Int64 where
  upTo a b := a ≤ b
  quoted n := toString n.toInt
  toValue := .int

instance : Token String where
  upTo a b := a ≤ b
  quoted := Text.quotedText
  toValue := .text

end GuardedParsing
