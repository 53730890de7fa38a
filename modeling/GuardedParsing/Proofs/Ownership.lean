import GuardedParsing.Proofs.Holding
import GuardedParsing.Proofs.Session

/-!
# Ownership

A stand-in refers to its rule without owning it. What keeps the rule from being released while the
stand-in is used is an owner on the way to it: the path from a parser that is held to the stand-in
leads through a reference that owns the rule, and whoever holds the parser holds that reference.

* `Loose g owners p`: some path from `p` comes to a stand-in of a rule that is neither among `owners`
  nor owned on the way, or to an owner whose rule was released.
* `unreleased_of_not_loose`: **a parser that is not loose reaches no released rule.**
* `Loose.of_define`, `Loose.of_binding_eq`, `Loose.of_release`: what makes no parser loose: the
  definition of a rule by a parser that is not, the building of other rules, and the release of rules
  that it does not own.
-/

namespace GuardedParsing

variable {τ : Type}

/-- `Loose g owners p`: a path of parts and owned rules from `p` comes to a stand-in that no owner is
responsible for, be it one of `owners` or on the path, or to an owner whose rule was released. -/
inductive Loose (g : Grammar τ) : List RuleId → Parser τ → Prop
  | standIn {owners key rule} (h : rule ∉ owners) : Loose g owners (.refer key rule false)
  | released {owners key rule} (hb : g.binding rule = .released) :
      Loose g owners (.refer key rule true)
  | part {owners} {p q : Parser τ} (hq : q ∈ p.parts) (h : Loose g owners q) : Loose g owners p
  | definition {owners key rule d} (hb : g.binding rule = .bound d)
      (h : Loose g (rule :: owners) d) : Loose g owners (.refer key rule true)

namespace Session.Valid

variable {s : Session τ} {p q : Parser τ}

/-- The nodes of a session are known by their keys. -/
theorem keyed (h : s.Valid) : Parser.Keyed (· ∈ s.nodes) := ⟨h.pool.eq_of_key_eq, h.parts_mem⟩

theorem mem_of_hasNode (h : s.Valid) (hp : p ∈ s.nodes) (hq : p.HasNode q) : q ∈ s.nodes := by
  induction hq with
  | refl => exact hp
  | tail _ hpart ih => exact h.parts_mem ih hpart

end Session.Valid

namespace Loose

variable {g g' : Grammar τ} {owners owners' : List RuleId} {p q d : Parser τ} {rule : RuleId}
  {key : Key}

/-- With fewer owners, more parsers are loose. -/
theorem anti (h : Loose g owners' p) (hsub : owners ⊆ owners') : Loose g owners p := by
  induction h generalizing owners with
  | standIn hrule => exact .standIn fun hmem => hrule (hsub hmem)
  | released hb => exact .released hb
  | part hq _ ih => exact .part hq (ih hsub)
  | definition hb _ ih => exact .definition hb (ih (List.cons_subset_cons _ hsub))

/-- A node that is no reference is loose by one of its parts. -/
theorem exists_part (hp : ∀ key rule owning, p ≠ .refer key rule owning) (h : Loose g owners p) :
    ∃ q ∈ p.parts, Loose g owners q := by
  cases h with
  | standIn | released | definition => exact absurd rfl (hp _ _ _)
  | part hq h => exact ⟨_, hq, h⟩

/-- A stand-in among the nodes of a parser makes it loose. -/
theorem of_hasNode (hnode : p.HasNode q) (hq : q.isStandIn = true) : Loose g [] p := by
  induction hnode using Relation.ReflTransGen.head_induction_on with
  | refl =>
    unfold Parser.isStandIn at hq
    split at hq
    · rename_i key rule owning
      obtain rfl : owning = false := by simpa using hq
      exact .standIn List.not_mem_nil
    · cases hq
  | head hpart _ ih => exact .part hpart ih

/-- An owner of a rule without a definition is not loose. -/
theorem not_of_unset (hb : g.binding rule = .unset) : ¬Loose g owners (.refer key rule true) := by
  intro h
  cases h with
  | released hb' | definition hb' =>
    rw [hb] at hb'
    cases hb'
  | part hq => cases hq

/-- What is loose once a rule is defined was loose before, or the definition is loose, with the rule
for an owner. -/
theorem of_define (hb : g.binding rule = .unset) {owners : List RuleId} {q : Parser τ}
    (h : Loose (g.modify rule ({ · with binding := .bound p })) owners q) :
    Loose g owners q ∨ Loose g (rule :: owners) p := by
  have hbinding : ∀ r, Grammar.binding (g.modify rule ({ · with binding := .bound p })) r =
      if r = rule then .bound p else g.binding r :=
    fun r => Grammar.binding_modify (Grammar.lt_size_of_unset hb)
  induction h with
  | standIn hrule => exact .inl (.standIn hrule)
  | @released _ _ r hr =>
    rw [hbinding] at hr
    split at hr
    · cases hr
    · exact .inl (.released hr)
  | part hq _ ih => exact ih.imp (.part hq) id
  | @definition owners _ r d hr _ ih =>
    rw [hbinding] at hr
    split at hr
    · cases hr
      subst r
      -- the definition is loose with the rule as an owner, once or twice
      have hsub : rule :: owners ⊆ rule :: rule :: owners := List.subset_cons_self _ _
      exact .inr (ih.elim id fun h => h.anti hsub)
    · have hsub : rule :: owners ⊆ rule :: r :: owners :=
        List.cons_subset_cons _ (List.subset_cons_self _ _)
      exact ih.imp (.definition hr) fun h => h.anti hsub

/-- Rules that are kept, with all that their definitions own, make nothing loose when the others are
released. -/
theorem of_release {keep : RuleId → Bool}
    (hclosed : ∀ rule d, keep rule = true → g.binding rule = .bound d →
      ∀ key r, d.HasNode (.refer key r true) → keep r = true)
    (h : Loose (g.mapIdx fun i r => if keep i then r else { r with binding := .released }) owners p) :
    (∀ key r, p.HasNode (.refer key r true) → keep r = true) → Loose g owners p := by
  induction h with
  | standIn hrule => exact fun _ => .standIn hrule
  | released hb =>
    intro hp
    rw [Grammar.binding_release, if_pos (hp _ _ .refl)] at hb
    exact .released hb
  | part hq _ ih => exact fun hp => .part hq (ih fun key r hr => hp key r (.head hq hr))
  | definition hb _ ih =>
    intro hp
    have hkeep := hp _ _ .refl
    rw [Grammar.binding_release, if_pos hkeep] at hb
    exact .definition hb (ih (hclosed _ _ hkeep hb))

/-- Of a parser of a session, only the rules that were there decide whether it is loose. -/
theorem of_binding_eq {s : Session τ} (hs : s.Valid)
    (hbinding : ∀ rule < s.grammar.size, g.binding rule = s.grammar.binding rule)
    (h : Loose g owners p) : p ∈ s.nodes → Loose s.grammar owners p := by
  induction h with
  | standIn hrule => exact fun _ => .standIn hrule
  | released hb =>
    intro hp
    rw [hbinding _ (hs.rule_lt hp)] at hb
    exact .released hb
  | part hq _ ih => exact fun hp => .part hq (ih (hs.parts_mem hp hq))
  | definition hb _ ih =>
    intro hp
    rw [hbinding _ (hs.rule_lt hp)] at hb
    exact .definition hb (ih (hs.mem_of_leads hp (.definition hb)))

/-- The same of a reference that owns a rule that was there. -/
theorem owner_of_binding_eq {s : Session τ} (hs : s.Valid) (hlt : rule < s.grammar.size)
    (hbinding : ∀ rule < s.grammar.size, g.binding rule = s.grammar.binding rule)
    (h : Loose g owners (.refer key rule true)) :
    Loose s.grammar owners (.refer key rule true) := by
  cases h with
  | released hb =>
    rw [hbinding rule hlt] at hb
    exact .released hb
  | definition hb h =>
    rw [hbinding rule hlt] at hb
    have hd := hs.definition_mem (hs.keeps.extends _ _ hb)
    exact .definition hb (h.of_binding_eq hs hbinding hd)
  | part hq => cases hq

end Loose

/-- The owners on the way to a parser are defined, and their definitions are not loose with them. -/
def Grammar.Backed (g : Grammar τ) (owners : List RuleId) : Prop :=
  ∀ rule ∈ owners, ∃ d, g.binding rule = .bound d ∧ ¬Loose g owners d

section Reached

variable {g : Grammar τ} {owners : List RuleId} {p q : Parser τ}

/-- What a parser that is not loose leads to is not loose either, with the owners on the way. -/
theorem Grammar.Backed.leads (hb : g.Backed owners) (hp : ¬Loose g owners p) (hl : g.Leads p q) :
    ∃ owners', g.Backed owners' ∧ ¬Loose g owners' q := by
  cases hl with
  | part hq => exact ⟨owners, hb, fun h => hp (.part hq h)⟩
  | @definition key rule owning _ hd =>
    cases owning with
    | true =>
      have hq : ¬Loose g (rule :: owners) q := fun h => hp (.definition hd h)
      refine ⟨rule :: owners, fun r hr => ?_, hq⟩
      rcases List.mem_cons.1 hr with rfl | hr
      · exact ⟨q, hd, hq⟩
      · obtain ⟨d, hr, hloose⟩ := hb r hr
        exact ⟨d, hr, fun h => hloose (h.anti (List.subset_cons_self _ _))⟩
    -- the rule of a stand-in was entered by an owner before
    | false =>
      have hrule : rule ∈ owners := Decidable.not_not.1 fun h => hp (.standIn h)
      obtain ⟨d, hd', hloose⟩ := hb rule hrule
      obtain rfl : q = d := Binding.bound.inj (hd.symm.trans hd')
      exact ⟨owners, hb, hloose⟩

/-- **A parser that is not loose reaches no released rule.** -/
theorem unreleased_of_not_loose (hp : ¬Loose g [] p) : g.Unreleased p := by
  have hreached : ∀ q, g.Reaches p q → ∃ owners, g.Backed owners ∧ ¬Loose g owners q := by
    intro q hr
    induction hr with
    | refl => exact ⟨[], (fun _ h => nomatch h), hp⟩
    | tail _ hl ih =>
      obtain ⟨owners, hb, hloose⟩ := ih
      exact hb.leads hloose hl
  intro key rule owning hr hreleased
  obtain ⟨owners, hb, hloose⟩ := hreached _ hr
  cases owning with
  | true => exact hloose (.released hreleased)
  | false =>
    have hrule : rule ∈ owners := Decidable.not_not.1 fun h => hloose (.standIn h)
    obtain ⟨d, hd, -⟩ := hb rule hrule
    rw [hreleased] at hd
    cases hd

end Reached

end GuardedParsing
