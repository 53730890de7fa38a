import GuardedParsing.Proofs.Graph
import Mathlib.Order.FixedPoints

/-!
# The equations of a grammar

Whether the parsers of a grammar accept empty input is a system of boolean equations, one for each
parser, and the answer is its least solution.

The answers on the way to it are those of other systems: parsers that are being asked about are
taken for ones that do not accept empty input, and a rule without a definition may turn out either
way. `Grammar.solutionUnder S unset` is the least solution where the parsers with a key in `S` do
not accept empty input and a rule without a definition has the value `unset`.

* `Grammar.leastSolution`: the least solution of the equations.
* `not_solutionUnder_of_insert`: **a parser that does not accept empty input if it is assumed not to
  does not accept it without the assumption.**
* `leastSolution_mono`, `solutionUnder_anti`: what more definitions change.
* `leastSolution_congr`: the solution depends on what is reached only.
-/

namespace GuardedParsing

/-- The value of a rule: that of its definition or, without one, `unset`. -/
def Binding.value {τ : Type} (unset : Prop) (v : Parser τ → Prop) : Binding τ → Prop
  | bound p => v p
  | _ => unset

namespace Grammar

variable {τ : Type}

/-- The equation of a parser: its value from the values `v` of the parsers that it leads to, where a
rule without a definition has the value `unset`. -/
def equation (g : Grammar τ) (unset : Prop) (v : Parser τ → Prop) : Parser τ → Prop
  | .primitive _ (.satisfy _ _) => False
  | .primitive _ (.oneOf _) => False
  | .primitive _ _ => True
  | .modified _ .optional _ => True
  | .modified _ .not _ => True
  | .modified _ _ p => v p
  | .observed _ _ p => v p
  | .or _ p q => v p ∨ v q
  | .and _ p q => v p ∧ v q
  | .sequence _ ps => ∀ p ∈ ps, v p
  | .many _ _ => True
  | .refer _ rule _ => (g.binding rule).value unset v

variable {g g' : Grammar τ} {u u' : Prop} {v v' : Parser τ → Prop} {p q : Parser τ} {S S' : Set Key}

/-- An equation reads the values of the parsers that are led to, and of those it is monotone. -/
theorem equation_mono (hu : u → u') (hv : ∀ q, g.Leads p q → v q → v' q)
    (h : g.equation u v p) : g.equation u' v' p := by
  cases p with
  | primitive key leaf => cases leaf <;> exact h
  | modified key m part =>
    cases m with
    | optional | not => exact h
    | map f | tryMap f | labelled label | inContext note => exact hv part (.part (.head _)) h
  | observed key name part => exact hv part (.part (.head _)) h
  | or key first second =>
    exact h.imp (hv first (.part (.head _))) (hv second (.part (.tail _ (.head _))))
  | and key first second =>
    exact ⟨hv first (.part (.head _)) h.1, hv second (.part (.tail _ (.head _))) h.2⟩
  | sequence key parts => exact fun q hq => hv q (.part hq) (h q hq)
  | many key part => exact h
  | refer key rule owning =>
    rw [equation] at h ⊢
    rcases hb : g.binding rule with _ | d | _ <;> rw [hb] at h
    · exact hu h
    · exact hv d (.definition hb) h
    · exact hu h

/-- Only the equation of a reference reads the grammar. -/
theorem equation_of_bindings
    (h : ∀ key rule owning, p = .refer key rule owning →
      (g.binding rule).value u v → (g'.binding rule).value u v)
    (hp : g.equation u v p) : g'.equation u v p := by
  cases p with
  | primitive key leaf => cases leaf <;> exact hp
  | modified key m part => cases m <;> exact hp
  | refer key rule owning => exact h key rule owning rfl hp
  | _ => exact hp

/-- The equations of a grammar. -/
def equations (g : Grammar τ) : (Parser τ → Prop) →o (Parser τ → Prop) where
  toFun := g.equation False
  monotone' _ _ hv _ := equation_mono id fun q _ => hv q

/-- The least solution of the equations of a grammar. -/
def leastSolution (g : Grammar τ) : Parser τ → Prop := OrderHom.lfp g.equations

/-- The equations where the parsers with a key in `S` do not accept empty input. -/
def equationsUnder (g : Grammar τ) (S : Set Key) (unset : Prop) :
    (Parser τ → Prop) →o (Parser τ → Prop) where
  toFun v p := p.key ∉ S ∧ g.equation unset v p
  monotone' _ _ hv _ h := ⟨h.1, equation_mono id (fun q _ => hv q) h.2⟩

/-- The least solution where the parsers with a key in `S` do not accept empty input. -/
def solutionUnder (g : Grammar τ) (S : Set Key) (unset : Prop) : Parser τ → Prop :=
  OrderHom.lfp (g.equationsUnder S unset)

/-- Without assumptions, it is the least solution of the equations. -/
theorem solutionUnder_empty : g.solutionUnder ∅ False = g.leastSolution := by
  have h : g.equationsUnder ∅ False = g.equations := by
    ext v p
    exact and_iff_right (Set.notMem_empty _)
  rw [solutionUnder, h, leastSolution]

theorem solutionUnder_iff :
    g.solutionUnder S u p ↔ p.key ∉ S ∧ g.equation u (g.solutionUnder S u) p :=
  Iff.of_eq (congrFun (OrderHom.map_lfp (g.equationsUnder S u)).symm p)

theorem leastSolution_iff : g.leastSolution p ↔ g.equation False g.leastSolution p :=
  Iff.of_eq (congrFun (OrderHom.map_lfp g.equations).symm p)

/-- What the equations preserve holds of the least solution. -/
theorem solutionUnder_induction
    (h : ∀ p, p.key ∉ S → g.equation u v p → v p) (hp : g.solutionUnder S u p) : v p :=
  OrderHom.lfp_le (g.equationsUnder S u) (fun p hp => h p hp.1 hp.2) p hp

/-- Fewer assumptions make for a greater solution. -/
theorem solutionUnder_mono (hS : S' ⊆ S) (hu : u → u') (hp : g.solutionUnder S u p) :
    g.solutionUnder S' u' p := by
  refine solutionUnder_induction (fun p hp h => ?_) hp
  exact solutionUnder_iff.2 ⟨fun hS' => hp (hS hS'), equation_mono hu (fun _ _ => id) h⟩

/-- Some parsers of a grammar, with all that they lead to, each known by its key. -/
structure Pool (g : Grammar τ) (D : Parser τ → Prop) : Prop where
  eq_of_key_eq {p q : Parser τ} : D p → D q → p.key = q.key → p = q
  leads {p q : Parser τ} : D p → g.Leads p q → D q

theorem Pool.reaches {D : Parser τ → Prop} (hD : g.Pool D) (hp : D p) (h : g.Reaches p q) : D q := by
  induction h with
  | refl => exact hp
  | tail _ hl ih => exact hD.leads ih hl

/-- **The assumption about a parser is void.** If the equation of a parser does not hold on the
assumption that it does not accept empty input, then the parser does not accept empty input without
that assumption either. -/
theorem not_solutionUnder_of_insert {D : Parser τ → Prop} (hD : g.Pool D) (hp : D p)
    (h : ¬g.equation u (g.solutionUnder (insert p.key S) u) p) : ¬g.solutionUnder S u p := by
  intro hs
  -- the assumption changes nothing: `p` is the only parser with its key
  have hle : ∀ q, g.solutionUnder S u q → D q → g.solutionUnder (insert p.key S) u q := by
    intro q hq
    refine solutionUnder_induction (v := fun q => D q → g.solutionUnder (insert p.key S) u q)
      (fun q hkey heq hDq => ?_) hq
    have heq' : g.equation u (g.solutionUnder (insert p.key S) u) q :=
      equation_mono id (fun r hr hv => hv (hD.leads hDq hr)) heq
    refine solutionUnder_iff.2 ⟨?_, heq'⟩
    rintro (hk | hk)
    · obtain rfl := hD.eq_of_key_eq hDq hp hk
      exact h heq'
    · exact hkey hk
  exact (solutionUnder_iff.1 (hle p hs hp)).1 (Set.mem_insert _ _)

/-- Assumptions about parsers that are not reached change nothing. -/
theorem solutionUnder_of_avoids (havoid : ∀ q, g.Reaches p q → q.key ∉ S)
    (hp : g.solutionUnder ∅ u p) : g.solutionUnder S u p := by
  -- the solution is followed on what `p` reaches, where no assumption is made
  have h : ∀ q, g.solutionUnder ∅ u q → g.Reaches p q → g.solutionUnder S u q := by
    intro q hq
    refine solutionUnder_induction (v := fun q => g.Reaches p q → g.solutionUnder S u q)
      (fun q _ heq hr => ?_) hq
    exact solutionUnder_iff.2
      ⟨havoid q hr, equation_mono id (fun r hl hv => hv (hr.tail hl)) heq⟩
  exact h p hp .refl

/-- More definitions keep what accepts empty input. -/
theorem leastSolution_mono (hg : g'.Extends g) (hp : g.leastSolution p) : g'.leastSolution p := by
  refine OrderHom.lfp_le g.equations (a := g'.leastSolution) (fun q hq => ?_) p hp
  rw [leastSolution_iff]
  change g.equation False g'.leastSolution q at hq
  refine equation_of_bindings (fun _ rule _ _ h => ?_) hq
  rcases hb : g.binding rule with _ | d | _ <;> rw [hb] at h
  · exact h.elim
  · rw [hg rule d hb]
    exact h
  · exact h.elim

/-- More definitions keep what does not accept empty input, whatever the rules without a definition
turn out to be. -/
theorem solutionUnder_anti (hg : g'.Extends g) (hp : g'.solutionUnder S True p) :
    g.solutionUnder S True p := by
  refine solutionUnder_induction (fun q hkey hq => solutionUnder_iff.2 ⟨hkey, ?_⟩) hp
  refine equation_of_bindings (fun _ rule _ _ h => ?_) hq
  rcases hb : g.binding rule with _ | d | _
  · trivial
  · rwa [hg rule d hb] at h
  · trivial

/-- The definitions of released rules do not matter to a parser that reaches none of them. -/
theorem leastSolution_congr (hg : g'.Keeps g) (hp : g.Unreleased p) :
    g'.leastSolution p ↔ g.leastSolution p := by
  refine ⟨fun h => ?_, leastSolution_mono hg.extends⟩
  have h' : g'.leastSolution ≤ fun q => g.Unreleased q → g.leastSolution q := by
    refine OrderHom.lfp_le g'.equations fun q hq hun => ?_
    rw [leastSolution_iff]
    change g'.equation False (fun q => g.Unreleased q → g.leastSolution q) q at hq
    refine equation_mono (v := fun q => g.Unreleased q → g.leastSolution q) id
      (fun r hl hv => hv (hun.leads hl)) ?_
    refine equation_of_bindings (fun _ rule _ hr h => ?_) hq
    subst hr
    rwa [hg rule hun.binding] at h
  exact h' p h hp

end Grammar

end GuardedParsing
