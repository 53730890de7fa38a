import GuardedParsing.Proofs.Bookkeeping

/-!
# One depth stands for all assumptions

While a question is answered, other questions are put, and some of them are answered with an
assumption: about a parser that is being asked about already, or at a rule without a definition. Of
the assumptions of an answer the memory keeps the least depth alone. This is enough. The parsers
around a question are those at lesser depths, so whether the answer rests on one of them can be read
off the least depth; and what the question discharges is at its own depth or deeper.

* `Inquiry.Prompts`: which question is put on the way to the answer of which; what an answer rests on
  is read off it, one lemma for each kind of question (`Inquiry.restsBelow_of_asked` and so on).
* `Answers.below_iff`: **what is kept of the assumptions says of each depth whether one of them is
  less.**
* `Inquiry.restsBelow_iff`: an assumption at a lesser depth than that of a question is one about a
  parser around it, or at a rule without a definition.
* `Answers.answers_getElem?`: an answer is remembered iff it rests on no assumption at a depth less
  than its own.
* `Inquiry.Exact`: what is remembered, and what is kept of the assumptions, is exact.
* `memoisation_exact`: **whatever a question leaves that is put on the way to an answer is exact**,
  and between the steps of a session, a parser is remembered unless a rule without a definition was
  consulted.
* `mislaid_answer`: a session in which an answer that rests on nothing is not remembered.
-/

namespace GuardedParsing

/-! ## Depths -/

/-- The depth is there, and less than `k`. -/
def Below (d : Option Nat) (k : Nat) : Prop := ∃ j, d = some j ∧ j < k

section Below

variable {d e : Option Nat} {j k : Nat}

theorem not_below_none : ¬Below none k := by
  rintro ⟨j, ⟨⟩, -⟩

theorem below_some : Below (some j) k ↔ j < k :=
  ⟨fun ⟨_, hj, hk⟩ => Option.some.inj hj ▸ hk, fun hk => ⟨j, rfl, hk⟩⟩

theorem below_shallower : Below (shallower d e) k ↔ Below d k ∨ Below e k := by
  rcases d with _ | d
  · rw [or_iff_right not_below_none]
    rfl
  · rcases e with _ | e
    · rw [or_iff_left not_below_none]
      rfl
    · rw [shallower, below_some, below_some, below_some, min_lt_iff]

theorem all_iff_not_below : d.all (k ≤ ·) = true ↔ ¬Below d k := by
  cases d with
  | none => exact iff_of_true rfl not_below_none
  | some j =>
    rw [below_some, Nat.not_lt]
    exact decide_eq_true_iff

end Below

/-- At the depths of the parsers of `o`, the same parsers are being asked about in `o'`. -/
structure Opened.Extends (o' o : Opened) : Prop where
  size_le : o.size ≤ o'.size
  depthOf?_iff {key : Key} {d : Nat} : d ≤ o.size →
    (o'.depthOf? key = some d ↔ o.depthOf? key = some d)

namespace Opened

variable {o o₁ o₂ : Opened} {key : Key} {d : Nat}

theorem Extends.refl (o : Opened) : o.Extends o := ⟨Nat.le_refl _, fun _ => Iff.rfl⟩

theorem Extends.trans (h : o₂.Extends o₁) (h' : o₁.Extends o) : o₂.Extends o :=
  ⟨Nat.le_trans h'.size_le h.size_le, fun hd =>
    (h.depthOf?_iff (Nat.le_trans hd h'.size_le)).trans (h'.depthOf?_iff hd)⟩

theorem extends_push (h : o.depthOf? key = none) : (o.push key).Extends o := by
  refine ⟨Nat.le_succ _, fun {k d} hd => ?_⟩
  by_cases hk : k = key
  · subst hk
    rw [depthOf?_push, Function.update_self, h]
    refine iff_of_false (fun heq => ?_) nofun
    have hsize : o.size + 1 = d := Option.some.inj heq
    omega
  · rw [depthOf?_push_of_ne hk]

/-- The parsers of `o` are those at its depths. -/
theorem Extends.le_size_iff (h : o₁.Extends o) (hd : o₁.depthOf? key = some d) :
    d ≤ o.size ↔ key ∈ o.keys := by
  constructor
  · intro hle
    by_contra hkey
    have hd' := (h.depthOf?_iff hle).1 hd
    rw [depthOf?_eq_none_iff.2 hkey] at hd'
    cases hd'
  · intro hkey
    rcases he : o.depthOf? key with _ | e
    · exact absurd hkey (depthOf?_eq_none_iff.1 he)
    · have hle := le_size_of_depthOf? he
      rw [(h.depthOf?_iff hle).2 he] at hd
      exact Option.some.inj hd ▸ hle

end Opened

/-! ## The questions on the way to an answer -/

variable {τ : Type}

/-- A question, with the parsers that are being asked about and the memory when it is put. -/
structure Inquiry (τ : Type) where
  opened : Opened
  question : Question τ
  memory : Memory

namespace Inquiry

open Question in
/-- The second question is put on the way to the answer of the first one, by the first one itself. -/
inductive Prompts (g : Grammar τ) : Inquiry τ → Inquiry τ → Prop
  | asked {o p m} (h : m.answer? p = none) (hd : o.depthOf? p.key = none) :
      Prompts g ⟨o, ask p, m⟩ ⟨o.push p.key, consult p, m.suspend.2⟩
  | passed {o q p m} (hq : q.Passes g p) : Prompts g ⟨o, q, m⟩ ⟨o, ask p, m⟩
  | first {o q p b rest m} (hq : q.Splits p b rest) : Prompts g ⟨o, q, m⟩ ⟨o, ask p, m⟩
  | second {o q p b rest m m'} (hq : q.Splits p b rest)
      (hp : Answers g o (ask p) m (.ok b) m') : Prompts g ⟨o, q, m⟩ ⟨o, rest, m'⟩

/-- The second question is the first one, or is put on the way to its answer. -/
abbrev Within (g : Grammar τ) : Inquiry τ → Inquiry τ → Prop := Relation.ReflTransGen (Prompts g)

/-- The question is answered with an assumption at a depth: that of a parser that is being asked about
already, or 0 for a rule without a definition. -/
inductive Assumes (g : Grammar τ) : Inquiry τ → Nat → Prop
  | again {o p m d} (h : m.answer? p = none) (hd : o.depthOf? p.key = some d) :
      Assumes g ⟨o, .ask p, m⟩ d
  | unset {o key rule owning m} (hb : g.binding rule = .unset) :
      Assumes g ⟨o, .consult (.refer key rule owning), m⟩ 0

variable {g : Grammar τ} {x y z : Inquiry τ} {o : Opened} {q rest : Question τ} {m m' : Memory}
  {p : Parser τ} {b : Bool} {res : Except Fault Bool} {d k : Nat}

/-- On the way to the answer, a rule without a definition is consulted. -/
def ConsultsUnset (g : Grammar τ) (x : Inquiry τ) : Prop :=
  ∃ o key rule owning m, x.Within g ⟨o, .consult (.refer key rule owning), m⟩ ∧
    g.binding rule = .unset

/-- On the way to the answer, one of these parsers is assumed not to accept empty input, because it is
being asked about. -/
def AssumesOneOf (g : Grammar τ) (x : Inquiry τ) (keys : List Key) : Prop :=
  ∃ o p m, x.Within g ⟨o, .ask p, m⟩ ∧ m.answer? p = none ∧ p.key ∈ o.keys ∧ p.key ∈ keys

/-- On the way to the answer, an assumption is made at a depth less than `k`. -/
def RestsBelow (g : Grammar τ) (x : Inquiry τ) (k : Nat) : Prop :=
  ∃ y d, x.Within g y ∧ y.Assumes g d ∧ d < k

/-- The parsers that are being asked about stay so, at their depths, on the way to the answer. -/
theorem Prompts.extends (h : x.Prompts g y) : y.opened.Extends x.opened := by
  cases h with
  | asked _ hd => exact Opened.extends_push hd
  | _ => exact .refl _

theorem Within.extends (h : x.Within g y) : y.opened.Extends x.opened := by
  induction h with
  | refl => exact .refl _
  | tail _ hstep ih => exact hstep.extends.trans ih

/-- **The assumptions at the depths around a question** are those about the parsers around it, and
those at rules without a definition. -/
theorem restsBelow_iff :
    x.RestsBelow g (x.opened.size + 1) ↔
      x.ConsultsUnset g ∨ x.AssumesOneOf g x.opened.keys := by
  constructor
  · rintro ⟨y, d, hy, hd, hlt⟩
    cases hd with
    | unset hb => exact .inl ⟨_, _, _, _, _, hy, hb⟩
    | @again o p m _ hnone hdepth =>
      have hopened : p.key ∈ o.keys := (Opened.Extends.refl o).le_size_iff hdepth |>.1
        (Opened.le_size_of_depthOf? hdepth)
      have hkey := (hy.extends.le_size_iff hdepth).1 (Nat.le_of_lt_succ hlt)
      exact .inr ⟨o, p, m, hy, hnone, hopened, hkey⟩
  · rintro (⟨o, key, rule, owning, m, hy, hb⟩ | ⟨o, p, m, hy, hnone, hopened, hkey⟩)
    · exact ⟨_, 0, hy, .unset hb, Nat.succ_pos _⟩
    · rcases hdepth : o.depthOf? p.key with _ | d
      · exact absurd hopened (Opened.depthOf?_eq_none_iff.1 hdepth)
      · exact ⟨_, d, hy, .again hnone hdepth,
          Nat.lt_succ_of_le ((hy.extends.le_size_iff hdepth).2 hkey)⟩

/-- What a question rests on, by its own assumption and the questions that it prompts. -/
theorem restsBelow_iff_prompts :
    x.RestsBelow g k ↔ (∃ d, x.Assumes g d ∧ d < k) ∨ ∃ y, x.Prompts g y ∧ y.RestsBelow g k := by
  constructor
  · rintro ⟨z, d, hz, hd, hlt⟩
    rcases hz.cases_head with rfl | ⟨y, hy, hz⟩
    · exact .inl ⟨d, hd, hlt⟩
    · exact .inr ⟨y, hy, z, d, hz, hd, hlt⟩
  · rintro (⟨d, hd, hlt⟩ | ⟨y, hy, z, d, hz, hd, hlt⟩)
    · exact ⟨x, d, .refl, hd, hlt⟩
    · exact ⟨z, d, .head hy hz, hd, hlt⟩

/-- A question that prompts none. -/
theorem not_restsBelow (hassumes : ∀ d, ¬x.Assumes g d) (hnone : ∀ y, ¬x.Prompts g y) :
    ¬x.RestsBelow g k := by
  rw [restsBelow_iff_prompts]
  rintro (⟨d, hd, -⟩ | ⟨y, hy, -⟩)
  · exact hassumes d hd
  · exact hnone y hy

/-- A question that prompts one other. -/
theorem restsBelow_of_one (hassumes : ∀ d, ¬x.Assumes g d) (hy : x.Prompts g y)
    (hone : ∀ z, x.Prompts g z → z = y) : x.RestsBelow g k ↔ y.RestsBelow g k := by
  rw [restsBelow_iff_prompts]
  constructor
  · rintro (⟨d, hd, -⟩ | ⟨z, hz, h⟩)
    · exact absurd hd (hassumes d)
    · rwa [← hone z hz]
  · exact fun h => .inr ⟨y, hy, h⟩

/-- A question that prompts two others. -/
theorem restsBelow_of_two (hassumes : ∀ d, ¬x.Assumes g d) (hy : x.Prompts g y)
    (hz : x.Prompts g z) (htwo : ∀ u, x.Prompts g u → u = y ∨ u = z) :
    x.RestsBelow g k ↔ y.RestsBelow g k ∨ z.RestsBelow g k := by
  rw [restsBelow_iff_prompts]
  constructor
  · rintro (⟨d, hd, -⟩ | ⟨u, hu, h⟩)
    · exact absurd hd (hassumes d)
    · rcases htwo u hu with rfl | rfl
      · exact .inl h
      · exact .inr h
  · rintro (h | h)
    · exact .inr ⟨y, hy, h⟩
    · exact .inr ⟨z, hz, h⟩

/-- An answer that is known rests on nothing. -/
theorem not_restsBelow_of_known (h : m.answer? p = some b) :
    ¬(⟨o, .ask p, m⟩ : Inquiry τ).RestsBelow g k := by
  refine not_restsBelow (fun d hd => ?_) fun y hy => ?_
  · cases hd with
    | again hnone => cases h.symm.trans hnone
  · cases hy with
    | asked hnone => cases h.symm.trans hnone
    | passed hq | first hq | second hq => cases hq

/-- A question about a parser that is being asked about rests on the assumption about it. -/
theorem restsBelow_of_again (h : m.answer? p = none) (hd : o.depthOf? p.key = some d) :
    (⟨o, .ask p, m⟩ : Inquiry τ).RestsBelow g k ↔ d < k := by
  rw [restsBelow_iff_prompts]
  constructor
  · rintro (⟨e, he, hlt⟩ | ⟨y, hy, -⟩)
    · cases he with
      | again _ hd' => exact Option.some.inj (hd'.symm.trans hd) ▸ hlt
    · cases hy with
      | asked _ hd' => cases hd.symm.trans hd'
      | passed hq | first hq | second hq => cases hq
  · exact fun hlt => .inl ⟨d, .again h hd, hlt⟩

/-- A question whose answer has to be found out rests on what the answer from the parts rests on. -/
theorem restsBelow_of_asked (hnone : m.answer? p = none) (hd : o.depthOf? p.key = none) :
    (⟨o, .ask p, m⟩ : Inquiry τ).RestsBelow g k ↔
      (⟨o.push p.key, .consult p, m.suspend.2⟩ : Inquiry τ).RestsBelow g k := by
  refine restsBelow_of_one (fun d hd' => ?_) (.asked hnone hd) fun z hz => ?_
  · cases hd' with
    | again _ hd' => cases hd.symm.trans hd'
  · cases hz with
    | asked => rfl
    | passed hq | first hq | second hq => cases hq

/-- An answer that is plain from the kind of the parser rests on nothing. -/
theorem not_restsBelow_of_plain (h : p.acceptsEmpty? = some b) :
    ¬(⟨o, .consult p, m⟩ : Inquiry τ).RestsBelow g k := by
  refine not_restsBelow (fun d hd => ?_) fun y hy => ?_
  · cases hd
    cases h
  · cases hy with
    | passed hq =>
      cases hq with
      | modified hmod => cases h.symm.trans hmod
      | observed | bound => cases h
    | first hq | second hq => cases hq <;> cases h

theorem restsBelow_of_passes (hq : q.Passes g p) :
    (⟨o, q, m⟩ : Inquiry τ).RestsBelow g k ↔ (⟨o, .ask p, m⟩ : Inquiry τ).RestsBelow g k := by
  refine restsBelow_of_one (fun d hd => ?_) (.passed hq) fun z hz => ?_
  · cases hq with
    | modified | observed => cases hd
    | bound hb =>
      cases hd with
      | unset hb' => cases hb.symm.trans hb'
  · cases hz with
    | asked => cases hq
    | passed hq' =>
      cases hq with
      | modified | observed =>
        cases hq'
        rfl
      | bound hb =>
        cases hq' with
        | bound hb' =>
          cases hb.symm.trans hb'
          rfl
    | first hq' | second hq' => cases hq <;> cases hq'

/-- The question about the first part decides, and the second question is not put. -/
theorem restsBelow_of_first (hq : q.Splits p b rest) (hp : Answers g o (.ask p) m res m')
    (hres : res ≠ .ok b) :
    (⟨o, q, m⟩ : Inquiry τ).RestsBelow g k ↔ (⟨o, .ask p, m⟩ : Inquiry τ).RestsBelow g k := by
  refine restsBelow_of_one (fun d hd => ?_) (.first hq) fun z hz => ?_
  · cases hq <;> cases hd
  · cases hz with
    | asked => cases hq
    | passed hq' => cases hq <;> cases hq'
    | first hq' =>
      cases hq <;> cases hq' <;> rfl
    | second hq' hp' =>
      cases hq <;> cases hq' <;> exact absurd (hp.functional hp').1 hres

/-- Both questions are put, the second one with the memory that the first one leaves. -/
theorem restsBelow_of_second (hq : q.Splits p b rest) (hp : Answers g o (.ask p) m (.ok b) m') :
    (⟨o, q, m⟩ : Inquiry τ).RestsBelow g k ↔
      (⟨o, .ask p, m⟩ : Inquiry τ).RestsBelow g k ∨ (⟨o, rest, m'⟩ : Inquiry τ).RestsBelow g k := by
  refine restsBelow_of_two (fun d hd => ?_) (.first hq) (.second hq hp) fun u hu => ?_
  · cases hq <;> cases hd
  · cases hu with
    | asked => cases hq
    | passed hq' => cases hq <;> cases hq'
    | first hq' =>
      cases hq <;> cases hq' <;> exact .inl rfl
    | second hq' hp' =>
      cases hq <;> cases hq' <;> obtain ⟨-, rfl⟩ := hp.functional hp' <;> exact .inr rfl

theorem restsBelow_of_unset {key : Key} {rule : RuleId} {owning : Bool}
    (hb : g.binding rule = .unset) :
    (⟨o, .consult (.refer key rule owning), m⟩ : Inquiry τ).RestsBelow g k ↔ 0 < k := by
  constructor
  · rintro ⟨-, d, -, -, hlt⟩
    exact Nat.lt_of_le_of_lt (Nat.zero_le d) hlt
  · exact fun hlt => ⟨_, 0, .refl, .unset hb, hlt⟩

end Inquiry

/-! ## The least depth -/

open Inquiry in
/-- **What is kept of the assumptions is exact.** At the end of a question that is not the outermost
one, and for every depth up to its own, there is an assumption at a lesser depth iff there was one
before, or one is made on the way to the answer. -/
theorem Answers.below_iff {g : Grammar τ} {o : Opened} {q : Question τ} {m m' : Memory}
    {res : Except Fault Bool} (h : Answers g o q m res m') :
    ∀ b, res = .ok b → o.keys ≠ [] → ∀ k ≤ o.size + 1,
      (Below m'.assumed k ↔ Below m.assumed k ∨ (⟨o, q, m⟩ : Inquiry τ).RestsBelow g k) := by
  induction h with
  | known h =>
    intro _ _ _ k _
    rw [or_iff_left (not_restsBelow_of_known h)]
  | assumed h hd =>
    intro _ _ _ k _
    rw [restsBelow_of_again h hd, Memory.assume, below_shallower, below_some]
  | @asked o p m b m' h hd _ ih =>
    intro _ _ ho k hk
    have hinner : Below m'.assumed k ↔ (⟨o, .ask p, m⟩ : Inquiry τ).RestsBelow g k := by
      have hsize : k ≤ (o.push p.key).size + 1 := Nat.le_succ_of_le hk
      have hsuspend : ¬Below m.suspend.2.assumed k := not_below_none
      rw [ih b rfl (by simp) k hsize, or_iff_right hsuspend, restsBelow_of_asked h hd]
    have hdepth : o.size + 1 ≠ 1 := by
      rw [o.size_eq]
      have := List.length_pos_iff.2 ho
      omega
    by_cases hs : m'.assumed.all (o.size + 1 ≤ ·) = true
    · -- what the question rests on is not at a lesser depth than its own
      have hnot : ¬Below m'.assumed k := fun ⟨j, hj, hlt⟩ =>
        all_iff_not_below.1 hs ⟨j, hj, Nat.lt_of_lt_of_le hlt hk⟩
      rw [Memory.assumed_settle_of_all hdepth hs, ← hinner, or_iff_left hnot]
    · rw [Memory.assumed_settle_of_not_all hdepth hs, below_shallower, hinner]
  | plain h =>
    intro _ _ _ k _
    rw [or_iff_left (not_restsBelow_of_plain h)]
  | modified hmod _ ih =>
    intro b hb ho k hk
    rw [ih b hb ho k hk, restsBelow_of_passes (.modified hmod)]
  | observed _ ih =>
    intro b hb ho k hk
    rw [ih b hb ho k hk, restsBelow_of_passes .observed]
  | bound hb _ ih =>
    intro b hres ho k hk
    rw [ih b hres ho k hk, restsBelow_of_passes (.bound hb)]
  | orFirst hp hres ih =>
    intro b hb ho k hk
    rw [ih b hb ho k hk, restsBelow_of_first .or hp hres]
  | andFirst hp hres ih =>
    intro b hb ho k hk
    rw [ih b hb ho k hk, restsBelow_of_first .and hp hres]
  | sequenceFirst hp hres ih =>
    intro b hb ho k hk
    rw [ih b hb ho k hk, restsBelow_of_first .sequence hp hres]
  | orSecond hp _ ihp ihq =>
    intro b hb ho k hk
    rw [ihq b hb ho k hk, ihp false rfl ho k hk, or_assoc, restsBelow_of_second .or hp]
  | andSecond hp _ ihp ihq =>
    intro b hb ho k hk
    rw [ihq b hb ho k hk, ihp true rfl ho k hk, or_assoc, restsBelow_of_second .and hp]
  | sequenceNext hp _ ihp ihps =>
    intro b hb ho k hk
    rw [ihps b hb ho k hk, ihp true rfl ho k hk, or_assoc, restsBelow_of_second .sequence hp]
  | @sequenceNil o key m =>
    intro _ _ _ k _
    have hnot : ¬(⟨o, .consult (.sequence key []), m⟩ : Inquiry τ).RestsBelow g k := by
      refine not_restsBelow (by rintro d ⟨⟩) fun y hy => ?_
      cases hy with
      | passed hq | first hq | second hq => cases hq
    rw [or_iff_left hnot]
  -- an assumption at depth 0 is at a lesser depth than any other
  | unset hb =>
    intro _ _ _ k _
    rw [below_some, restsBelow_of_unset hb, iff_comm, or_iff_right_of_imp]
    exact fun ⟨j, _, hlt⟩ => Nat.lt_of_le_of_lt (Nat.zero_le j) hlt
  | askedFault | released => rintro _ ⟨⟩

/-! ## What is remembered -/

namespace Inquiry

variable {g : Grammar τ} {x y : Inquiry τ} {b : Bool} {m' : Memory}

/-- The question is answered with `b`, and leaves the memory `m'`. -/
abbrev Gives (g : Grammar τ) (x : Inquiry τ) (b : Bool) (m' : Memory) : Prop :=
  Answers g x.opened x.question x.memory (.ok b) m'

/-- The questions on the way to an answer are answered. -/
theorem Prompts.gives (hxy : x.Prompts g y) (h : x.Gives g b m') : ∃ c m₁, y.Gives g c m₁ := by
  cases hxy with
  | asked hnone hd =>
    cases h with
    | known h' => cases hnone.symm.trans h'
    | assumed _ hd' => cases hd.symm.trans hd'
    | asked _ _ hc => exact ⟨_, _, hc⟩
  | passed hq => exact ⟨_, _, hq.answers h⟩
  | first hq =>
    rcases hq.answers h with ⟨hp, -⟩ | ⟨m₁, hp, -⟩ <;> exact ⟨_, _, hp⟩
  | second hq hp =>
    rcases hq.answers h with ⟨hp', hres⟩ | ⟨m₁, hp', hrest⟩
    · exact absurd (hp'.functional hp).1 hres
    · obtain ⟨-, rfl⟩ := hp'.functional hp
      exact ⟨_, _, hrest⟩

theorem Within.gives (hxy : x.Within g y) (h : x.Gives g b m') : ∃ c m₁, y.Gives g c m₁ := by
  induction hxy with
  | refl => exact ⟨b, m', h⟩
  | tail _ hstep ih =>
    obtain ⟨c, m₁, hc⟩ := ih
    exact hstep.gives hc

end Inquiry

theorem Memory.answers_settle (key : Key) (depth : Nat) (outer : Option Nat) (b : Bool)
    (m : Memory) :
    (m.settle key depth outer b).answers =
      if m.assumed.all (depth ≤ ·) then m.answers.insertIfNew key b else m.answers := rfl

open Inquiry in
/-- **An answer is remembered iff it rests on no assumption at a depth less than its own.** -/
theorem Answers.answers_getElem? {g : Grammar τ} {o : Opened} {p : Parser τ} {m m' : Memory}
    {b : Bool} (h : Answers g o (.ask p) m (.ok b) m') (hnone : m.answer? p = none)
    (hkey : p.key ∉ o.keys) :
    (m'.answers[p.key]? = some b ↔ ¬(⟨o, .ask p, m⟩ : Inquiry τ).RestsBelow g (o.size + 1)) ∧
    (m'.answers[p.key]? = none ↔ (⟨o, .ask p, m⟩ : Inquiry τ).RestsBelow g (o.size + 1)) := by
  cases h with
  | known h => cases hnone.symm.trans h
  | assumed _ hd => exact absurd hkey fun hkey => by simp [Opened.depthOf?_eq_none_iff.2 hkey] at hd
  | @asked _ _ _ _ m₁ _ hd hc =>
    have hrests : Below m₁.assumed (o.size + 1) ↔
        (⟨o, .ask p, m⟩ : Inquiry τ).RestsBelow g (o.size + 1) := by
      have hsize : o.size + 1 ≤ (o.push p.key).size + 1 := Nat.le_succ _
      have hsuspend : ¬Below m.suspend.2.assumed (o.size + 1) := not_below_none
      rw [hc.below_iff b rfl (by simp) _ hsize, or_iff_right hsuspend, restsBelow_of_asked hnone hd]
    -- the answer is the first one to be remembered about the parser
    have hfirst : m₁.answers[p.key]? = none :=
      hc.answers_eq_none (.head _) (Option.or_eq_none_iff.1 hnone).2
    rw [Memory.answers_settle, ← hrests]
    by_cases hbelow : Below m₁.assumed (o.size + 1)
    · rw [if_neg fun hall => all_iff_not_below.1 hall hbelow, hfirst]
      simp [hbelow]
    · rw [if_pos (all_iff_not_below.2 hbelow), Std.HashMap.getElem?_insertIfNew, if_pos]
      · simp [hbelow]
      · exact ⟨by simp, fun hmem => by simp [Std.HashMap.mem_iff_isSome_getElem?, hfirst] at hmem⟩

namespace Inquiry

/-- What the answer to a question leaves is exact: what is remembered, and what is kept of its
assumptions. -/
structure Exact (g : Grammar τ) (x : Inquiry τ) (b : Bool) (m' : Memory) : Prop where
  gives : x.Gives g b m'
  /-- A parser whose answer is found out is remembered iff on the way no rule without a definition was
  consulted, and none of the parsers that were being asked about before was assumed not to accept
  empty input. -/
  remembered {p : Parser τ} : x.question = .ask p → x.memory.answer? p = none →
    p.key ∉ x.opened.keys →
    (m'.answers[p.key]? = some b ↔ ¬x.ConsultsUnset g ∧ ¬x.AssumesOneOf g x.opened.keys)
  /-- Otherwise nothing is remembered about it. -/
  forgotten {p : Parser τ} : x.question = .ask p → x.memory.answer? p = none →
    p.key ∉ x.opened.keys →
    (m'.answers[p.key]? = none ↔ x.ConsultsUnset g ∨ x.AssumesOneOf g x.opened.keys)
  /-- Of each depth up to that of the question, the least depth says whether an assumption was made
  at a lesser one. -/
  counter : x.opened.keys ≠ [] → ∀ k ≤ x.opened.size + 1,
    (Below m'.assumed k ↔ Below x.memory.assumed k ∨ x.RestsBelow g k)

variable {g : Grammar τ} {x y : Inquiry τ} {b : Bool} {m' : Memory}

theorem Gives.exact (h : x.Gives g b m') : x.Exact g b m' where
  gives := h
  remembered {p} hq hnone hkey := by
    obtain ⟨o, q, m⟩ := x
    obtain rfl : q = .ask p := hq
    rw [← not_or, ← restsBelow_iff]
    exact (Answers.answers_getElem? h hnone hkey).1
  forgotten {p} hq hnone hkey := by
    obtain ⟨o, q, m⟩ := x
    obtain rfl : q = .ask p := hq
    rw [← restsBelow_iff]
    exact (Answers.answers_getElem? h hnone hkey).2
  counter := Answers.below_iff h b rfl

end Inquiry

variable [Token τ]

open Inquiry in
/-- Between the steps of a session in which no released rule was used, a parser whose question is
answered is known afterwards, unless a rule without a definition was consulted. -/
theorem Session.QuietlyReachable.answer?_iff {s : Session τ} (hs : s.QuietlyReachable) {p : Parser τ}
    {b : Bool} (hb : (p.acceptsEmpty s.grammar s.memory).1 = .ok b) :
    ((p.acceptsEmpty s.grammar s.memory).2.answer? p = some b ↔
      ¬(⟨s.memory.opened, .ask p, s.memory⟩ : Inquiry τ).ConsultsUnset s.grammar) ∧
    ((p.acceptsEmpty s.grammar s.memory).2.answer? p = none ↔
      (⟨s.memory.opened, .ask p, s.memory⟩ : Inquiry τ).ConsultsUnset s.grammar) := by
  have hkeys : s.memory.opened.keys = [] := hs.opened_eq
  have hans := answers_ask s.grammar p s.memory
  rw [hb] at hans
  generalize (p.acceptsEmpty s.grammar s.memory).2 = m' at hans ⊢
  rcases hknown : s.memory.answer? p with _ | c
  · have hout : p.key ∉ s.memory.opened.keys := by simp [hkeys]
    have hplain := (Option.or_eq_none_iff.1 hknown).1
    have hnever : ¬(⟨s.memory.opened, .ask p, s.memory⟩ : Inquiry τ).AssumesOneOf s.grammar [] := by
      rintro ⟨_, _, _, _, _, _, ⟨⟩⟩
    have hexact : Inquiry.Exact s.grammar ⟨s.memory.opened, .ask p, s.memory⟩ b m' := Gives.exact hans
    have hremembered := hexact.remembered rfl hknown hout
    have hforgotten := hexact.forgotten rfl hknown hout
    rw [hkeys, and_iff_left hnever] at hremembered
    rw [hkeys, or_iff_left hnever] at hforgotten
    rw [Memory.answer?, hplain, Option.none_or]
    exact ⟨hremembered, hforgotten⟩
  · obtain ⟨hc, rfl⟩ := hans.functional (.known hknown)
    obtain rfl := Except.ok.inj hc
    have hnot : ¬(⟨s.memory.opened, .ask p, s.memory⟩ : Inquiry τ).ConsultsUnset s.grammar :=
      fun h => not_restsBelow_of_known hknown (restsBelow_iff.2 (.inl h))
    rw [hknown]
    exact ⟨iff_of_true rfl hnot, iff_of_false nofun hnot⟩

open Inquiry in
/-- **What is remembered is exact.** Whatever was asked before, a question that is answered prompts
questions that are answered. A parser whose answer is found out on the way is remembered when it is
there iff meanwhile no rule without a definition was consulted, and none of the parsers that were
being asked about before was assumed not to accept empty input; and the one depth that is kept says of
every depth around the question whether there is an assumption at a lesser one. Between the steps of a
session in which no released rule was used, the parser that was asked about is known afterwards iff no
rule without a definition was consulted. -/
theorem memoisation_exact :
    (∀ (g : Grammar τ) (p : Parser τ) (m : Memory) (b : Bool), (p.acceptsEmpty g m).1 = .ok b →
      (⟨m.opened, .ask p, m⟩ : Inquiry τ).Exact g b (p.acceptsEmpty g m).2 ∧
      ∀ x, Within g ⟨m.opened, .ask p, m⟩ x → ∃ c m', x.Exact g c m') ∧
    ∀ (s : Session τ) (p : Parser τ) (b : Bool), s.QuietlyReachable →
      (p.acceptsEmpty s.grammar s.memory).1 = .ok b →
      ((p.acceptsEmpty s.grammar s.memory).2.answer? p = some b ↔
        ¬(⟨s.memory.opened, .ask p, s.memory⟩ : Inquiry τ).ConsultsUnset s.grammar) ∧
      ((p.acceptsEmpty s.grammar s.memory).2.answer? p = none ↔
        (⟨s.memory.opened, .ask p, s.memory⟩ : Inquiry τ).ConsultsUnset s.grammar) := by
  refine ⟨fun g p m b hb => ?_, fun s p b hs hb => hs.answer?_iff hb⟩
  have hans : Gives g ⟨m.opened, .ask p, m⟩ b (p.acceptsEmpty g m).2 := by
    have h := answers_ask g p m
    rwa [hb] at h
  refine ⟨hans.exact, fun x hx => ?_⟩
  obtain ⟨c, m', hc⟩ := hx.gives hans
  exact ⟨c, m', hc.exact⟩

/-! ## An answer that is not remembered -/

namespace Session

/-- A choice between a rule that has no definition yet and a stand-in. -/
def strandedChoice : Parser Char := .or 2 (.refer 1 0 true) (.refer 0 1 false)

/-- A session with this choice, in which the rule of the stand-in was released. -/
def stranded : Session Char where
  nodes := [.refer 0 1 false, .refer 1 0 true, strandedChoice, .primitive 3 (.pure .unit)]
  grammar := #[⟨"a", .unset⟩, ⟨"#1", .released⟩]
  written := #[⟨"a", .unset⟩, ⟨"#1", .unset⟩]

theorem quietlyReachable_stranded : stranded.QuietlyReachable := by
  have hbuilt : QuietlyReachable ⟨stranded.nodes, stranded.written, stranded.written, {}⟩ :=
    quietlyReachable_of_inOrder
      (by simp [InOrder, stranded, strandedChoice, Parser.key, Parser.parts]) (by simp [stranded])
  exact hbuilt.tail ⟨none, by simp, Step.release (· == 0)⟩

/-- The question about the choice comes to the stand-in, as the other rule is not defined. -/
theorem acceptsEmpty_stranded :
    (strandedChoice.acceptsEmpty stranded.grammar stranded.memory).1 = .error .released := by
  have hnone : ∀ key : Key, ({} : Memory).answers[key]? = none := by simp
  have hfirst : Answers stranded.grammar (Opened.empty.push 2) (.ask (.refer 1 0 true)) {}
      (.ok false) _ := .asked (hnone 1) rfl (.unset rfl)
  exact (answers_ask _ _ _).unique (.askedFault (hnone 2) rfl
    (.orSecond hfirst (.askedFault (hnone 0) rfl (.released rfl))))

/-- The session after the question, with a definition for the other rule. -/
def strandedDefined : Session Char where
  nodes := stranded.nodes
  grammar := #[⟨"a", .bound (.primitive 3 (.pure .unit))⟩, ⟨"#1", .released⟩]
  written := #[⟨"a", .bound (.primitive 3 (.pure .unit))⟩, ⟨"#1", .unset⟩]
  memory := (strandedChoice.acceptsEmpty stranded.grammar stranded.memory).2

theorem reachable_strandedDefined : strandedDefined.Reachable := by
  have hask := Step.ask (s := stranded) (p := strandedChoice) (by simp [stranded])
  have hb : stranded.grammar.binding 0 = .unset := rfl
  have hdefine := Step.define (s := { stranded with
    memory := (strandedChoice.acceptsEmpty stranded.grammar stranded.memory).2 })
    (p := .primitive 3 (.pure .unit)) hb (by simp [stranded])
  exact (quietlyReachable_stranded.reachable.tail ⟨_, hask⟩).tail ⟨_, hdefine⟩

/-- Every rule is defined or was released. -/
theorem binding_strandedDefined (rule : RuleId) :
    strandedDefined.grammar.binding rule ≠ .unset := by
  match rule with
  | 0 | 1 => exact nofun
  | rule + 2 =>
    rw [Grammar.binding_eq_released_of_size_le (by simp [strandedDefined])]
    exact nofun

end Session

open Session in
/-- **An answer that rests on nothing is not remembered.** The question about a choice was broken off by
a released rule; then the rule of its first alternative is defined, so that the choice accepts empty
input without anything else being asked about. The same question is answered in the negative, and not
remembered, though no rule is without a definition. -/
theorem mislaid_answer :
    ∃ s : Session Char, s.Reachable ∧ ∃ p ∈ s.nodes,
      (p.acceptsEmpty s.grammar s.memory).1 = .ok false ∧
      ¬(⟨s.memory.opened, .ask p, s.memory⟩ : Inquiry Char).ConsultsUnset s.grammar ∧
      (p.acceptsEmpty s.grammar s.memory).2.answer? p = none ∧
      s.grammar.leastSolution p := by
  obtain ⟨hkey, hnone⟩ := open_of_error acceptsEmpty_stranded
  obtain ⟨hfalse, hforgotten⟩ :=
    acceptsEmpty_of_mem_opened (g := strandedDefined.grammar) hnone hkey
  refine ⟨strandedDefined, reachable_strandedDefined, strandedChoice,
    by simp [strandedDefined, stranded], hfalse, ?_, hforgotten, ?_⟩
  · rintro ⟨_, _, rule, _, _, -, hb⟩
    exact binding_strandedDefined rule hb
  · refine Grammar.leastSolution_iff.2 (.inl (Grammar.leastSolution_iff.2 ?_))
    exact Grammar.leastSolution_iff.2 trivial

end GuardedParsing
