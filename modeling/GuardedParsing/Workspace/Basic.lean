import GuardedParsing.Description
import GuardedParsing.Evaluation
import GuardedParsing.Grammar.Holders

/-!
# Workspaces

A workspace holds a grammar, what is known about its parsers, and names for rules and parsers.
Building, defining, parsing and asking change it step by step; a rule that is held by no name and
by no rule any more is released.

* `Workspace.perform`: the answer to a command and the events that led to it.
* `Workspace.script`: the answers to commands in order.
-/

namespace GuardedParsing

/-- A grammar under names. -/
structure Workspace (τ : Type) where
  grammar : Grammar τ := #[]
  nextKey : Key := 0
  memory : Memory := {}
  scope : Scope τ := {}

/-- Gives a name to something, which takes it from what had it before. -/
def rename {α : Type} (name : String) (a : α) (names : List (String × α)) : List (String × α) :=
  (name, a) :: names.filter (·.1 != name)

namespace Workspace

variable {τ : Type}

/-- The rules that are held by names. -/
def holders (w : Workspace τ) : List RuleId :=
  w.scope.rules.map (·.2) ++ Parser.held (w.scope.parsers.map (·.2))

/-- Releases the rules that nothing holds any more. -/
def tidy (w : Workspace τ) : Workspace τ := { w with grammar := w.grammar.release w.holders }

/-- Creates a rule and gives it a name in the workspace. -/
def newRule (w : Workspace τ) (id : String) (name : Option String) : RuleId × Workspace τ :=
  match (Build.newRule name).runFrom { grammar := w.grammar, nextKey := w.nextKey } with
  | (_, d) =>
    (w.grammar.size,
      { w with
        grammar := d.grammar
        scope := { w.scope with rules := rename id w.grammar.size w.scope.rules } })

/-- Gives a name to a parser. -/
def nameParser (w : Workspace τ) (name : String) (p : Parser τ) : Workspace τ :=
  { w with scope := { w.scope with parsers := rename name p w.scope.parsers } }

/-- Gives their names to the stand-ins that are kept, of which the latest comes first. -/
def nameKept (w : Workspace τ) (kept : List (String × Parser τ)) : Workspace τ :=
  kept.foldr (fun (name, p) w => w.nameParser name p) w

/-- Builds a parser, with the stand-ins that are to be kept. -/
def build [Token τ] (w : Workspace τ) (d : Description τ) :
    Except GrammarError (Parser τ × List (String × Parser τ)) × Workspace τ :=
  match (d.build w.scope).runFrom { grammar := w.grammar, nextKey := w.nextKey } with
  | (result, draft) =>
    (result.map (·, draft.kept), { w with grammar := draft.grammar, nextKey := draft.nextKey })

/-- Gives a rule its definition, which it must not have yet. -/
def define (w : Workspace τ) (rule : RuleId) (p : Parser τ) :
    Except GrammarError Unit × Workspace τ :=
  match w.grammar.binding rule with
  | .unset =>
    (.ok (), { w with grammar := w.grammar.modify rule ({ · with binding := .bound p }) })
  | _ => (.error (.alreadySet (w.grammar.name rule)), w)

end Workspace

end GuardedParsing
