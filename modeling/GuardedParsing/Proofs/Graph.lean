import GuardedParsing.Grammar.Holders
import Mathlib.Logic.Relation

/-!
# The graph of a grammar

A parser leads to its parts, and a reference leads to the definition of its rule. What a parser
can apply, or ask about, lies in what it reaches.

`Grammar.Only P p` says that every rule that `p` reaches is in a state with the property `P`. It
is handed on to the parts of a parser and to the definition of a rule (`Only.part`,
`Only.definition`), which is how an induction over a run uses it.
-/

namespace GuardedParsing

/-- Does the parser refer to a rule without owning it? -/
def Parser.isStandIn {τ : Type} : Parser τ → Bool
  | refer _ _ owning => !owning
  | _ => false

namespace Grammar

variable {τ : Type}

/-- `g.Leads p q`: the parser `q` is a part of `p`, or the definition of the rule that `p` is. -/
inductive Leads (g : Grammar τ) : Parser τ → Parser τ → Prop
  | part {p q : Parser τ} (h : q ∈ p.parts) : Leads g p q
  | definition {key : Key} {rule : RuleId} {owning : Bool} {q : Parser τ}
      (hb : g.binding rule = .bound q) : Leads g (.refer key rule owning) q

/-- What the rest of a sequence leads to, the sequence leads to. -/
theorem Leads.tail {g : Grammar τ} {key : Key} {p q : Parser τ} {ps : List (Parser τ)}
    (h : g.Leads (.sequence key ps) q) : g.Leads (.sequence key (p :: ps)) q := by
  cases h with
  | part hq => exact .part (.tail _ hq)

/-- The parser `q` is `p`, or `p` leads to it in some steps. -/
abbrev Reaches (g : Grammar τ) : Parser τ → Parser τ → Prop := Relation.ReflTransGen g.Leads

/-- Every rule that the parser reaches is in a state with the property. -/
def Only (g : Grammar τ) (P : Binding τ → Prop) (p : Parser τ) : Prop :=
  ∀ key rule owning, g.Reaches p (.refer key rule owning) → P (g.binding rule)

/-- Every rule that the parser reaches is defined. -/
abbrev Closed (g : Grammar τ) : Parser τ → Prop := g.Only fun b => ∃ d, b = .bound d

/-- No rule that the parser reaches was released. -/
abbrev Unreleased (g : Grammar τ) : Parser τ → Prop := g.Only (· ≠ .released)

variable {g : Grammar τ} {P Q : Binding τ → Prop} {p q : Parser τ}

theorem Only.mono (h : g.Only P p) (hPQ : ∀ b, P b → Q b) : g.Only Q p :=
  fun key rule owning hr => hPQ _ (h key rule owning hr)

theorem Closed.unreleased (h : g.Closed p) : g.Unreleased p := by
  refine h.mono fun b hb => ?_
  obtain ⟨d, rfl⟩ := hb
  simp

theorem Only.leads (h : g.Only P p) (hq : g.Leads p q) : g.Only P q :=
  fun key rule owning hr => h key rule owning (.head hq hr)

theorem Only.part (h : g.Only P p) (hq : q ∈ p.parts) : g.Only P q := h.leads (.part hq)

theorem Only.binding {key : Key} {rule : RuleId} {owning : Bool}
    (h : g.Only P (.refer key rule owning)) : P (g.binding rule) := h key rule owning .refl

theorem Only.definition {key : Key} {rule : RuleId} {owning : Bool}
    (h : g.Only P (.refer key rule owning)) (hb : g.binding rule = .bound q) : g.Only P q :=
  h.leads (.definition hb)

/-- What a parser reaches has the property too. -/
theorem Only.reaches (h : g.Only P p) (hq : g.Reaches p q) : g.Only P q :=
  fun key rule owning hr => h key rule owning (hq.trans hr)

/-- A node that is no reference has the property of its parts. -/
theorem only_of_parts (hp : ∀ key rule owning, p ≠ .refer key rule owning)
    (h : ∀ q ∈ p.parts, g.Only P q) : g.Only P p := by
  intro key rule owning hr
  rcases Relation.ReflTransGen.cases_head hr with rfl | ⟨q, hl, hr⟩
  · exact absurd rfl (hp key rule owning)
  · cases hl with
    | part hq => exact h q hq key rule owning hr
    | definition hb => exact absurd rfl (hp _ _ _)

theorem only_primitive {key : Key} {leaf : Primitive τ} : g.Only P (.primitive key leaf) :=
  only_of_parts (fun _ _ _ => nofun) fun _ hq => nomatch hq

theorem only_modified {key : Key} {m : Modifier} : g.Only P (.modified key m p) ↔ g.Only P p :=
  ⟨fun h => h.part (.head _),
    fun h => only_of_parts (fun _ _ _ => nofun) fun _ hq => List.mem_singleton.1 hq ▸ h⟩

theorem only_and {key : Key} : g.Only P (.and key p q) ↔ g.Only P p ∧ g.Only P q := by
  refine ⟨fun h => ⟨h.part (.head _), h.part (.tail _ (.head _))⟩, fun h => ?_⟩
  refine only_of_parts (fun _ _ _ => nofun) fun r hr => ?_
  rcases List.mem_cons.1 hr with rfl | hr
  · exact h.1
  · exact List.mem_singleton.1 hr ▸ h.2

theorem Only.tail {key : Key} {ps : List (Parser τ)} (h : g.Only P (.sequence key (p :: ps))) :
    g.Only P (.sequence key ps) :=
  only_of_parts (fun _ _ _ => nofun) fun _ hq => h.part (List.mem_cons_of_mem p hq)

/-- What a grammar defines, the other one defines in the same way. -/
def Extends (g' g : Grammar τ) : Prop :=
  ∀ rule d, g.binding rule = .bound d → g'.binding rule = .bound d

/-- What a grammar has not released, the other one has as it is. -/
def Keeps (g' g : Grammar τ) : Prop :=
  ∀ rule, g.binding rule ≠ .released → g'.binding rule = g.binding rule

variable {g' : Grammar τ}

theorem Keeps.extends (h : g'.Keeps g) : g'.Extends g := by
  intro rule d hb
  rw [h rule (by simp [hb]), hb]

theorem Extends.leads (h : g'.Extends g) (hl : g.Leads p q) : g'.Leads p q := by
  cases hl with
  | part hq => exact .part hq
  | definition hb => exact .definition (h _ _ hb)

theorem Extends.reaches (h : g'.Extends g) (hr : g.Reaches p q) : g'.Reaches p q :=
  Relation.ReflTransGen.mono (fun _ _ => h.leads) _ _ hr

/-- From a parser that reaches no released rule, the definitions of released rules lead nowhere. -/
theorem Keeps.reaches (h : g'.Keeps g) (hp : g.Unreleased p) (hr : g'.Reaches p q) :
    g.Reaches p q := by
  induction hr with
  | refl => exact .refl
  | tail _ hl ih =>
    refine ih.tail ?_
    cases hl with
    | part hq => exact .part hq
    | definition hb =>
      rw [h _ (hp _ _ _ ih)] at hb
      exact .definition hb

/-- Releasing rules does not take released rules away from what is reached. -/
theorem Keeps.unreleased (h : g'.Keeps g) (hp : g.Unreleased p) : g'.Unreleased p := by
  intro key rule owning hr
  have hb := hp key rule owning (h.reaches hp hr)
  rw [h rule hb]
  exact hb

end Grammar

end GuardedParsing
