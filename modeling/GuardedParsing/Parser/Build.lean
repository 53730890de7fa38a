import GuardedParsing.Error.GrammarError
import GuardedParsing.Grammar
import GuardedParsing.Trampoline.Basic

/-!
# Building parsers

Parsers are built from smaller parsers by combinators. Each node gets a key of its own when it is
built, and each rule the next number, so that building is an effect on a draft of the grammar; it
fails for a grammar that is malformed. Only a few combinators are nodes of their own kind: the
others are compositions, which decides how they fail and where they stop.

A draft is never asked whether a parser accepts empty input.
-/

namespace GuardedParsing

/-- A grammar in the making. -/
structure Draft (τ : Type) where
  grammar : Grammar τ := #[]
  nextKey : Key := 0
  /-- The stand-ins of rules that are to be kept under a name, the latest first. -/
  kept : List (String × Parser τ) := []

/-- The building of a part of a grammar. A failure keeps the draft as it is. -/
abbrev Build (τ α : Type) := Effect (Draft τ) GrammarError α

namespace Build

variable {τ : Type}

/-- A new node. -/
def node (make : Key → Parser τ) : Build τ (Parser τ) :=
  modifyGet fun d => (make d.nextKey, { d with nextKey := d.nextKey + 1 })

/-- A new rule; without a name, it is called by its number. -/
def newRule (name : Option String) : Build τ RuleId :=
  modifyGet fun d =>
    let rule := d.grammar.size
    (rule, { d with grammar := d.grammar.push ⟨name.getD (Grammar.numberName rule), .unset⟩ })

/-- Gives a rule its definition. -/
def define (rule : RuleId) (p : Parser τ) : Build τ Unit :=
  modify fun d => { d with grammar := d.grammar.modify rule ({ · with binding := .bound p }) }

/-- Keeps a parser under a name. -/
def keep (name : String) (p : Parser τ) : Build τ Unit :=
  modify fun d => { d with kept := (name, p) :: d.kept }

/-- A parser that gives a value and consumes nothing. -/
def pure (v : Value) : Build τ (Parser τ) := node (.primitive · (.pure v))

/-- A parser that fails with a message. -/
def fail (message : String) : Build τ (Parser τ) := node (.primitive · (.fail message))

/-- A parser of the end of the input. -/
def eof : Build τ (Parser τ) := node (.primitive · .eof)

/-- A parser of a token with a property, which errors call `expected`. -/
def satisfy (expected : String) (accepts : τ → Bool) : Build τ (Parser τ) :=
  node (.primitive · (.satisfy expected accepts))

/-- A parser of any token. -/
def any : Build τ (Parser τ) := satisfy "any token" fun _ => true

/-- A parser of one token. -/
def just [Token τ] (t : τ) : Build τ (Parser τ) := satisfy (Token.quoted t) (· == t)

/-- A parser of one of several tokens. -/
def oneOf (tokens : List τ) : Build τ (Parser τ) := node (.primitive · (.oneOf tokens))

/-- A parser of any token but several. -/
def noneOf [Token τ] (tokens : List τ) : Build τ (Parser τ) :=
  satisfy ("any token except " ++ Text.listed (tokens.map Token.quoted)) (!tokens.contains ·)

/-- Changes the value of a parser. -/
def map (f : Value → Value) (p : Parser τ) : Build τ (Parser τ) := node (.modified · (.map f) p)

/-- A node of its own around a parser, which leaves the value as it is. -/
def same (p : Parser τ) : Build τ (Parser τ) := map id p

/-- Gives a fixed value on a match. -/
def constant (v : Value) (p : Parser τ) : Build τ (Parser τ) := map (fun _ => v) p

/-- Changes the value of a parser or refuses it, which is a failure where the parser started. -/
def tryMap (f : Value → Except String Value) (p : Parser τ) : Build τ (Parser τ) :=
  node (.modified · (.tryMap f) p)

/-- Names the pattern of a parser. -/
def labelled (label : String) (p : Parser τ) : Build τ (Parser τ) :=
  node (.modified · (.labelled label) p)

/-- Adds a note to every error of a parser. -/
def inContext (note : String) (p : Parser τ) : Build τ (Parser τ) :=
  node (.modified · (.inContext note) p)

/-- Puts a parser under observation. -/
def debug (name : String) (p : Parser τ) : Build τ (Parser τ) := node (.observed · name p)

/-- The first parser or, if it fails, the second. -/
def or (p q : Parser τ) : Build τ (Parser τ) := node (.or · p q)

/-- The first parser and then the second, with a pair of values. -/
def and (p q : Parser τ) : Build τ (Parser τ) := node (.and · p q)

/-- Two parsers in order, with the value of the first. -/
def thenIgnore (p q : Parser τ) : Build τ (Parser τ) := do map Value.first (← and p q)

/-- Two parsers in order, with the value of the second. -/
def ignoreThen (p q : Parser τ) : Build τ (Parser τ) := do map Value.second (← and p q)

/-- The first parser or, if it fails, the second, with the side that matched. -/
def either (p q : Parser τ) : Build τ (Parser τ) := do or (← map .left p) (← map .right q)

/-- The first of several parsers that matches. There has to be one at least. -/
def choice : List (Parser τ) → Build τ (Parser τ)
  | [] => throw .emptyChoice
  | p :: ps => ps.foldlM or p

/-- Several parsers in order, with the list of their values. -/
def sequence (ps : List (Parser τ)) : Build τ (Parser τ) := node (.sequence · ps)

/-- A parser any number of times, with the list of the values. -/
def many (p : Parser τ) : Build τ (Parser τ) := node (.many · p)

/-- A parser that may fail. -/
def optional (p : Parser τ) : Build τ (Parser τ) := node (.modified · .optional p)

/-- Matches nothing iff a parser fails. -/
def not (p : Parser τ) : Build τ (Parser τ) := node (.modified · .not p)

/-- The list of the first part of a pair and the items of the second. -/
def prepended (v : Value) : Value := .list (v.first :: v.second.items)

/-- A parser at least once. -/
def many1 (p : Parser τ) : Build τ (Parser τ) := do map prepended (← and p (← many p))

/-- A parser at least once, with a separator between the times. A separator after the last one
is not consumed. -/
def sepBy1 (p separator : Parser τ) : Build τ (Parser τ) := do
  let rest ← many (← ignoreThen separator p)
  map prepended (← and p rest)

/-- A parser any number of times, with a separator between the times. -/
def sepBy (p separator : Parser τ) : Build τ (Parser τ) := do
  map (Value.getD (.list [])) (← optional (← sepBy1 p separator))

/-- The value of the middle one of three parsers. -/
def middle (v : Value) : Value := v.first.second

/-- A parser between two others. An error says in which of the three it is. -/
def between (opening closing content : Parser τ) : Build τ (Parser τ) := do
  let opening ← inContext "opening delimiter" opening
  let content ← inContext "content" content
  let closing ← inContext "closing delimiter" closing
  map middle (← and (← and opening content) closing)

/-- A parser with padding on either side. -/
def paddedBy (p padding : Parser τ) : Build τ (Parser τ) := do
  thenIgnore (← ignoreThen padding p) padding

/-- Joins the values of a list to a text. -/
def collect (p : Parser τ) : Build τ (Parser τ) := map (fun v => .text (Value.joined v.items)) p

/-- The first operand of a chain, and the operators with the operands after them. -/
def chain (operand operator : Parser τ) : Build τ (Parser τ) := do
  and operand (← many (← and operator operand))

/-- The value of a chain whose operators bind to the left, where `combine` gives the value of an
operator between two operands. -/
def foldLeft (combine : Value → Value → Value → Value) (v : Value) : Value :=
  v.second.items.foldl (fun lhs step => combine step.first lhs step.second) v.first

/-- The value of a chain whose operators bind to the right. -/
def foldRight (combine : Value → Value → Value → Value) (v : Value) : Value :=
  let steps := v.second.items
  let operands := v.first :: steps.map Value.second
  (operands.zip (steps.map Value.first)).foldr (fun (lhs, operator) rhs => combine operator lhs rhs)
    (operands.getLastD v.first)

variable (combine : Value → Value → Value → Value)

/-- Operands with operators between them that bind to the left. -/
def chainLeft1 (operand operator : Parser τ) : Build τ (Parser τ) := do
  map (foldLeft combine) (← chain operand operator)

/-- Operands with operators between them that bind to the right. -/
def chainRight1 (operand operator : Parser τ) : Build τ (Parser τ) := do
  map (foldRight combine) (← chain operand operator)

/-- Operands with operators that bind to the left, or a fixed value for no operand at all. -/
def chainLeft (operand operator : Parser τ) (seed : Value) : Build τ (Parser τ) := do
  or (← chainLeft1 combine operand operator) (← pure seed)

/-- Operands with operators that bind to the right, or a fixed value for no operand at all. -/
def chainRight (operand operator : Parser τ) (seed : Value) : Build τ (Parser τ) := do
  or (← chainRight1 combine operand operator) (← pure seed)

/-- The definition of a rule, which the reference keeps from being released. -/
def reference (rule : RuleId) : Build τ (Parser τ) := node (.refer · rule true)

/-- A parser that is used in its own definition. The definition is built from a stand-in, which
does not keep the rule from being released. -/
def recursive (definition : Parser τ → Build τ (Parser τ)) : Build τ (Parser τ) := do
  let rule ← newRule none
  let standIn ← node (.refer · rule false)
  define rule (← definition standIn)
  reference rule

end Build

end GuardedParsing
