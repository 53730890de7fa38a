import GuardedParsing.Parser.Basic

/-!
# Grammars

A grammar is a table of rules. A rule is created without a definition and defined once; when its
last holder is gone it is released, and its definition with it.
-/

namespace GuardedParsing

/-- The state of the definition of a rule. -/
inductive Binding (τ : Type) where
  /-- The rule is not defined yet. -/
  | unset
  /-- The rule is defined. -/
  | bound (definition : Parser τ)
  /-- The rule and its definition are gone. -/
  | released

/-- A rule of a grammar. -/
structure Rule (τ : Type) where
  name : String
  binding : Binding τ

/-- A grammar: the rules in the order of their creation. -/
abbrev Grammar (τ : Type) := Array (Rule τ)

namespace Grammar

variable {τ : Type}

/-- The state of the definition of a rule; a rule that was never created counts as released. -/
def binding (g : Grammar τ) (rule : RuleId) : Binding τ :=
  match g[rule]? with
  | some r => r.binding
  | none => .released

/-- The name of a rule. -/
def name (g : Grammar τ) (rule : RuleId) : String :=
  match g[rule]? with
  | some r => r.name
  | none => ""

/-- A defined rule is one of the table. -/
theorem lt_size_of_bound {g : Grammar τ} {rule : RuleId} {p : Parser τ}
    (h : g.binding rule = .bound p) : rule < g.size := by
  unfold binding at h
  split at h
  · rename_i r hr
    exact (Array.getElem?_eq_some_iff.1 hr).1
  · simp at h

/-- The name that a rule without a name of its own gets from its number. -/
def numberName (rule : RuleId) : String := "#" ++ toString rule

end Grammar

end GuardedParsing
