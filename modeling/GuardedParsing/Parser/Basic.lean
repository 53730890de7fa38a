import GuardedParsing.Outcome
import GuardedParsing.Token

/-!
# Parsers

A parser is a tree. Its leaves are primitives, which look at one token at most, and references to
rules, by which a grammar closes over itself; the other nodes apply the parsers below them. Each
node has a key: the identity under which an answer about it is remembered. A parser that is used
in two places has one key.

`Primitive.apply` and `Modifier.settle` say what leaves and nodes with one part do to an outcome;
the other nodes are evaluated in `GuardedParsing.Evaluation`.
-/

namespace GuardedParsing

/-- The identity of a node. A key is given out once and never again, so what a question that was broken
off leaves open is never taken for a node that is built later. Where nodes are told apart by their
addresses, a later one may come to have the address of one that was left open, and be answered as if
the question about it were still going on. -/
abbrev Key := Nat

/-- The number of a rule of the grammar. -/
abbrev RuleId := Nat

/-- A parser that looks at one token at most. -/
inductive Primitive (τ : Type) where
  /-- Gives a value and consumes nothing. -/
  | pure (value : Value)
  /-- Fails with a message. -/
  | fail (message : String)
  /-- Accepts the end of the input. -/
  | eof
  /-- Accepts a token with a property, which is called `expected` in errors. -/
  | satisfy (expected : String) (accepts : τ → Bool)
  /-- Accepts one of several tokens. -/
  | oneOf (tokens : List τ)

/-- What a node with one part makes of the outcome of that part. -/
inductive Modifier where
  /-- Changes the value. -/
  | map (f : Value → Value)
  /-- Changes the value, or fails with a message. -/
  | tryMap (f : Value → Except String Value)
  /-- Names the pattern in errors at its start. -/
  | labelled (label : String)
  /-- Adds a note to every error. -/
  | inContext (note : String)
  /-- Matches nothing instead of failing. -/
  | optional
  /-- Matches nothing iff the part fails. -/
  | not

/-- A parser of tokens of type `τ`. -/
inductive Parser (τ : Type) where
  | primitive (key : Key) (leaf : Primitive τ)
  | modified (key : Key) (modifier : Modifier) (part : Parser τ)
  /-- The part under observation: its applications are put on record. -/
  | observed (key : Key) (name : String) (part : Parser τ)
  /-- The first part or, if it fails, the second. -/
  | or (key : Key) (first second : Parser τ)
  /-- The first part and then the second. -/
  | and (key : Key) (first second : Parser τ)
  /-- All parts in order. -/
  | sequence (key : Key) (parts : List (Parser τ))
  /-- The part any number of times. -/
  | many (key : Key) (part : Parser τ)
  /-- The definition of a rule. A reference that does not own the rule lets it be released. -/
  | refer (key : Key) (rule : RuleId) (owning : Bool)

namespace Parser

variable {τ : Type}

/-- The identity of a parser. -/
def key : Parser τ → Key
  | primitive key _ => key
  | modified key _ _ => key
  | observed key _ _ => key
  | or key _ _ => key
  | and key _ _ => key
  | sequence key _ => key
  | many key _ => key
  | refer key _ _ => key

end Parser

namespace Primitive

variable {τ : Type}

/-- Can the primitive match without consuming a token? A failing primitive counts as one that
can, so that it does not stand in the way of the parser around it. -/
def acceptsEmpty : Primitive τ → Bool
  | pure _ => true
  | fail _ => true
  | eof => true
  | satisfy _ _ => false
  | oneOf _ => false

/-- Applies a primitive at a place of the input. -/
def apply [Token τ] (tokens : Array τ) (place : Fin (tokens.size + 1)) :
    Primitive τ → Outcome (Fin (tokens.size + 1)) Value
  | pure v => .success v place
  | fail message => .failure place (.custom place message)
  | eof =>
    match tokens[place.val]? with
    | none => .success .unit place
    | some t => .failure place (.unexpected place "end of input" (Token.quoted t))
  | satisfy expected accepts =>
    if h : place.val < tokens.size then
      if accepts tokens[place.val] then
        .success (Token.toValue tokens[place.val]) ⟨place + 1, by omega⟩
      else .failure place (.unexpected place expected (Token.quoted tokens[place.val]))
    else .failure place (.endOfInput place expected)
  | oneOf accepted =>
    let expected := accepted.map Token.quoted
    if h : place.val < tokens.size then
      if accepted.contains tokens[place.val] then
        .success (Token.toValue tokens[place.val]) ⟨place + 1, by omega⟩
      else .failure place (.expectedFound place expected (some (Token.quoted tokens[place.val])))
    else .failure place (.expectedFound place expected none)

end Primitive

namespace Modifier

/-- The answer of a node to the question whether it accepts empty input, where it does not depend
on its part. -/
def acceptsEmpty? : Modifier → Option Bool
  | optional => some true
  | not => some true
  | _ => none

/-- The message for a match of a pattern that must not match. -/
def notAllowed : String := "matched a pattern that is not allowed here"

/-- The outcome of a node that was applied at `start`, from the outcome of its part. -/
def settle {n : Nat} (start : Fin (n + 1)) :
    Modifier → Outcome (Fin (n + 1)) Value → Outcome (Fin (n + 1)) Value
  | map f, res => res.map f
  | tryMap f, .success v next =>
    match f v with
    | .ok w => .success w next
    | .error message => .failure start (.custom start message)
  | labelled label, .failure p e =>
    if e.position = start.val ∧ !e.isFatal then .failure p (e.withLabel label) else .failure p e
  | inContext note, .failure p e => .failure p (e.withContext note)
  | optional, .success v next => .success (.some v) next
  | optional, .failure p e => if e.isFatal then .failure p e else .success .none start
  | not, .success _ _ => .failure start (.custom start notAllowed)
  | not, .failure p e => if e.isFatal then .failure p e else .success .unit start
  | _, res => res

end Modifier

/-- The answer to the question whether a parser accepts empty input, where it is plain from the
kind of the parser. -/
def Parser.acceptsEmpty? {τ : Type} : Parser τ → Option Bool
  | primitive _ leaf => some leaf.acceptsEmpty
  | modified _ m _ => m.acceptsEmpty?
  | many _ _ => some true
  | _ => none

end GuardedParsing
