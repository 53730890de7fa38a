import GuardedParsing.Cursor
import GuardedParsing.Emptiness
import GuardedParsing.Event

/-!
# Evaluation

Applying a parser to an input. The evaluation of a parser is a trampoline, so that neither the
depth of a grammar nor the length of an input becomes depth of calls.

* `Parser.evaluate`: a parser at a place of the input, under the guard of the activations that
  are going on around it.
* `Parser.parse`: a parser at a cursor.

Evaluation ends: a rule is entered only if its activation is not going on, and there are finitely
many activations; a repetition goes on only after a match that consumed a token; and every other
step goes to a part of the parser.
-/

namespace GuardedParsing

/-- What an evaluation leaves besides its outcome: what is known about the parsers, and what has
happened. -/
structure Account where
  memory : Memory := {}
  events : Array Event := #[]

namespace Account

/-- Adds an event. -/
def note (a : Account) (e : Event) : Account := { a with events := a.events.push e }

end Account

/-- An evaluation in the making. -/
abbrev Evaluation (α : Type) := Trampoline Account Fault α

/-- Puts an event on record. -/
def record (e : Event) : Evaluation Unit := .update (·.note e)

namespace Parser

variable {τ : Type}

/-- A repetition stops after a match of no tokens. It asks whether its part accepts empty input,
and records the stop with the answer. -/
def stopRepetition (g : Grammar τ) (part : Parser τ) (position : Nat) :
    Account → Except Fault Unit × Account
  | ⟨memory, events⟩ =>
    match part.acceptsEmpty g memory with
    | (.ok empty, memory) => (.ok (), ⟨memory, events.push (.stopped part.key position empty)⟩)
    | (.error fault, memory) => (.error fault, ⟨memory, events⟩)

variable [Token τ]

mutual

/-- Applies a parser at a place of the input. -/
def evaluate (g : Grammar τ) (tokens : Array τ) (active : Guard) (p : Parser τ)
    (start : Fin (tokens.size + 1)) : Evaluation (Outcome (Fin (tokens.size + 1)) Value) :=
  match p with
  | primitive _ leaf => return leaf.apply tokens start
  | modified _ m part => do
    let res ← .more fun _ => part.evaluate g tokens active start
    return m.settle start res
  | observed key name part => do
    record (.observed key name start)
    let res ← .more fun _ => part.evaluate g tokens active start
    record (.ofOutcome key name res)
    return res
  | or _ first second => do
    let res ← .more fun _ => first.evaluate g tokens active start
    if res.isRecoverable then
      let res' ← .more fun _ => second.evaluate g tokens active start
      return res.orElse res'
    else return res
  | and _ first second => do
    match ← .more fun _ => first.evaluate g tokens active start with
    | .success v next =>
      let res ← .more fun _ => second.evaluate g tokens active next
      return res.map (.pair v)
    | .failure position e => return .failure position e
  | sequence _ parts => do
    let res ← inOrder g tokens active parts start
    return res.map .list
  | many _ part => do
    let res ← part.iterate g tokens active start
    return res.map .list
  | refer _ rule _ =>
    match _bound : g.binding rule with
    | .unset => .stop (.unset (g.name rule))
    | .released => .stop .released
    | .bound definition =>
      let activation : Activation := ⟨rule, start⟩
      if _active : activation ∈ active then do
        record (.reentered activation (g.name rule))
        return .failure start (.leftRecursion start (g.name rule))
      else do
        record (.entered activation (g.name rule))
        let res ← .more fun _ => definition.evaluate g tokens (active.insert activation) start
        record (.left activation)
        return res
termination_by (Guard.idle g.size tokens.size active, sizeOf p, 0)
decreasing_by
  rotate_right
  · exact .left _ _ (Guard.idle_insert_lt (Grammar.lt_size_of_bound _bound)
      (Nat.le_of_lt_succ start.isLt) _active)
  all_goals exact .right _ (.left _ _ (by simp +arith))

/-- Applies parsers in order, each where the one before it stopped. -/
def inOrder (g : Grammar τ) (tokens : Array τ) (active : Guard) (parts : List (Parser τ))
    (start : Fin (tokens.size + 1)) : Evaluation (Outcome (Fin (tokens.size + 1)) (List Value)) :=
  match parts with
  | [] => return .success [] start
  | part :: parts => do
    match ← .more fun _ => part.evaluate g tokens active start with
    | .success v next =>
      let res ← inOrder g tokens active parts next
      return res.map (v :: ·)
    | .failure position e => return .failure position e
termination_by (Guard.idle g.size tokens.size active, sizeOf parts, 0)
decreasing_by all_goals exact .right _ (.left _ _ (by simp +arith))

/-- Applies a parser again and again, each time where it stopped before. A failure ends the
repetition where it was tried, unless it is fatal; a match of no tokens is the last one. -/
def iterate (g : Grammar τ) (tokens : Array τ) (active : Guard) (part : Parser τ)
    (start : Fin (tokens.size + 1)) : Evaluation (Outcome (Fin (tokens.size + 1)) (List Value)) :=
  do
    match ← .more fun _ => part.evaluate g tokens active start with
    | .success v next =>
      if _advanced : start < next then
        let res ← part.iterate g tokens active next
        return res.map (v :: ·)
      else
        .perform (.ofFunction (part.stopRepetition g start))
        return .success [v] next
    | .failure position e =>
      if e.isFatal then return .failure position e else return .success [] start
termination_by (Guard.idle g.size tokens.size active, sizeOf part, 1 + (tokens.size - start))
decreasing_by all_goals exact .right _ (.right _ (by omega))

end

/-- **Parses an input from a cursor on.** The account is kept. -/
def parse (g : Grammar τ) (p : Parser τ) (c : Cursor τ) (account : Account) :
    Except Fault (Outcome (Cursor τ) Value) × Account :=
  let (result, account) := (p.evaluate g c.source.tokens ∅ c.place).run account
  (result.map (·.mapPlace c.moveTo), account)

end Parser

end GuardedParsing
