import GuardedParsing.Counting
import GuardedParsing.Emptiness.Opened
import GuardedParsing.Error.GrammarError
import GuardedParsing.Grammar
import GuardedParsing.Trampoline.Run
import Std.Data.HashMap

/-!
# Does a parser accept empty input?

The answer for a parser follows from the answers for its parts, and the rules of a grammar may
refer to each other in cycles. A question that comes back to a parser which is being asked about
assumes that it does not accept empty input. An answer is remembered unless it rests on such an
assumption about a parser that is still being asked about, or on a rule without a definition.

Of the assumptions that an answer rests on, only the one at the least depth is kept: the depth of
the parser that it is about, or 0 for a rule without a definition.

* `acceptsEmpty`: the question.
-/

namespace GuardedParsing

/-- The lesser of two depths, of which one or both may be missing. -/
def shallower : Option Nat → Option Nat → Option Nat
  | none, d => d
  | d, none => d
  | some d, some e => some (min d e)

/-- What is known about the parsers of a grammar. -/
structure Memory where
  /-- The answers that are remembered. -/
  answers : Std.HashMap Key Bool := ∅
  /-- The parsers that were being asked about when a question was broken off. -/
  opened : Opened := .empty
  /-- The least depth of the assumptions that the answer in the making rests on. -/
  assumed : Option Nat := none

/-- A question that is being answered. -/
abbrev Query (α : Type) := Trampoline Memory Fault α

namespace Memory

/-- The answer for a parser that is plain or remembered. -/
def answer? {τ : Type} (m : Memory) (p : Parser τ) : Option Bool :=
  p.acceptsEmpty?.or m.answers[p.key]?

/-- Puts the assumptions of the question around a new one aside. -/
def suspend (m : Memory) : Option Nat × Memory := (m.assumed, { m with assumed := none })

/-- Records an assumption at a depth. -/
def assume (depth : Nat) (m : Memory) : Memory :=
  { m with assumed := shallower m.assumed (some depth) }

/-- Ends the question about a parser at a depth. The answer is remembered unless it rests on an
assumption at a lesser depth; such an assumption is passed on to the question around this one,
together with those that it had made before. -/
def settle (key : Key) (depth : Nat) (outer : Option Nat) (answer : Bool) (m : Memory) : Memory :=
  let settled := m.assumed.all (depth ≤ ·)
  { m with
    answers := if settled then m.answers.insertIfNew key answer else m.answers
    assumed :=
      if depth = 1 then none else if settled then outer else shallower outer m.assumed }

end Memory

namespace Grammar

variable {τ : Type}

/-- The number of rules whose definition is not being asked about. -/
def unasked (g : Grammar τ) (opened : Opened) : Nat :=
  g.toList.countP fun r =>
    match r.binding with
    | .bound p => p.key ∉ opened.keys
    | _ => false

theorem unasked_push_le (g : Grammar τ) (opened : Opened) (key : Key) :
    g.unasked (opened.push key) ≤ g.unasked opened := by
  refine List.countP_mono_left fun r _ h => ?_
  cases hr : r.binding <;> simp_all

theorem unasked_push_lt {g : Grammar τ} {opened : Opened} {rule : RuleId} {p : Parser τ}
    (hb : g.binding rule = .bound p) (h : p.key ∉ opened.keys) :
    g.unasked (opened.push p.key) < g.unasked opened := by
  obtain ⟨r, hr, hrp⟩ : ∃ r, r ∈ g.toList ∧ r.binding = .bound p := by
    unfold binding at hb
    split at hb
    · rename_i r hr
      exact ⟨r, Array.mem_toList_iff.2 (Array.mem_of_getElem? hr), hb⟩
    · simp at hb
  refine countP_lt_of_mem hr ?_ ?_ fun x hx => ?_
  · simp [hrp]
  · simp [hrp, h]
  · cases hx' : x.binding <;> simp_all

end Grammar

namespace Query

/-- Puts a question about a parser whose answer is not plain and not remembered: the question is
answered by `consult` while the parser counts as being asked about. -/
def ask {τ : Type} (opened : Opened) (p : Parser τ)
    (consult : opened.depthOf? p.key = none → Query Bool) : Query Bool :=
  .more fun _ => do
    match ← Trampoline.exchange fun m : Memory => (m.answer? p, m) with
    | some known => return known
    | none =>
      match h : opened.depthOf? p.key with
      | some depth =>
        Trampoline.update (·.assume depth)
        return false
      | none =>
        let outer ← Trampoline.exchange Memory.suspend
        let answer ← consult h
        Trampoline.update (·.settle p.key (opened.size + 1) outer answer)
        return answer

end Query

namespace Parser

variable {τ : Type}

mutual

/-- The answer for a parser from the answers for its parts, asked in order and only as far as they
matter. -/
def consult (g : Grammar τ) (opened : Opened) (p : Parser τ) : Query Bool :=
  match p with
  | primitive _ leaf => return leaf.acceptsEmpty
  | modified _ m p =>
    match m.acceptsEmpty? with
    | some known => return known
    | none => Query.ask opened p fun _ => p.consult g (opened.push p.key)
  | observed _ _ p => Query.ask opened p fun _ => p.consult g (opened.push p.key)
  | or _ p q => do
    if ← Query.ask opened p fun _ => p.consult g (opened.push p.key) then return true
    else Query.ask opened q fun _ => q.consult g (opened.push q.key)
  | and _ p q => do
    if ← Query.ask opened p fun _ => p.consult g (opened.push p.key) then
      Query.ask opened q fun _ => q.consult g (opened.push q.key)
    else return false
  | sequence _ ps => consultAll g opened ps
  | many _ _ => return true
  | refer _ rule _ =>
    match _h : g.binding rule with
    | .bound p => Query.ask opened p fun _ => p.consult g (opened.push p.key)
    | .unset => do
      Trampoline.update fun m => { m with assumed := some 0 }
      return false
    | .released => do
      Trampoline.update fun m => { m with opened }
      Trampoline.stop .released
termination_by (g.unasked opened, sizeOf p)
decreasing_by
  all_goals first
    | exact .left _ _ (Grammar.unasked_push_lt ‹_› (Opened.depthOf?_eq_none_iff.1 ‹_›))
    | exact lex_of_le_of_lt (Nat.le_refl _) (by simp +arith)
    | exact lex_of_le_of_lt (g.unasked_push_le opened _) (by simp +arith)

/-- Do all of some parsers accept empty input? -/
def consultAll (g : Grammar τ) (opened : Opened) (ps : List (Parser τ)) : Query Bool :=
  match ps with
  | [] => return true
  | p :: ps => do
    if ← Query.ask opened p fun _ => p.consult g (opened.push p.key) then consultAll g opened ps
    else return false
termination_by (g.unasked opened, sizeOf ps)
decreasing_by
  · exact lex_of_le_of_lt (g.unasked_push_le opened _) (by simp +arith)
  · exact lex_of_le_of_lt (Nat.le_refl _) (by simp +arith)

end

/-- **Does the parser accept empty input?** The memory keeps what was found out on the way. -/
def acceptsEmpty (g : Grammar τ) (p : Parser τ) (m : Memory) : Except Fault Bool × Memory :=
  (Query.ask m.opened p fun _ => p.consult g (m.opened.push p.key)).run m

end Parser

end GuardedParsing
