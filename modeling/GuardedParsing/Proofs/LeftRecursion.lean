import GuardedParsing.Proofs.Unguarded

/-!
# The guard finds left recursion, and nothing else

The guard refuses a rule where it is being applied already. Where it never does so, the evaluation
is the one without a guard (`Applies.derives`). Where it does, the evaluation without a guard would
have to evaluate the definition of an active rule at its position as a part of itself
(`Applies.endsBelow_of_isFatal`), which no finite evaluation does.

* `parse_exact`: **a parse of a grammar without undefined rules reports left recursion iff the
  evaluation without a guard never ends, and otherwise gives the outcome of that evaluation.**
-/

namespace GuardedParsing

/-- Is it a failure that no parser recovers from? -/
def Outcome.isFatal {κ α : Type} : Outcome κ α → Bool
  | success _ _ => false
  | failure _ e => e.isFatal

theorem Outcome.isFatal_of_isRecoverable {κ α : Type} {out : Outcome κ α}
    (h : out.isRecoverable = true) : out.isFatal = false := by
  cases out with
  | success v next => rfl
  | failure position e => simpa [isRecoverable, isFatal] using h

theorem Outcome.isFatal_map {κ α β : Type} (f : α → β) (out : Outcome κ α) :
    (out.map f).isFatal = out.isFatal := by
  cases out <;> rfl

theorem ParseError.isFatal_withLabel (e : ParseError) (label : String) :
    (e.withLabel label).isFatal = e.isFatal := by
  rw [withLabel]; split <;> rfl

/-- Two errors at one position are joined to a fatal one iff the first one is fatal, or gives way to
a fatal one. -/
theorem ParseError.isFatal_join {e other : ParseError} (h : other.isFatal = false) :
    (e.join other).isFatal = e.isFatal := by
  unfold join
  simp only
  split
  · rename_i hk
    simp_all [isFatal]
  · rfl

/-- The error of two alternatives is fatal iff one of theirs is. -/
theorem ParseError.isFatal_merge (e other : ParseError) :
    (e.merge other).isFatal = (e.isFatal || other.isFatal) := by
  rcases he : e.isFatal with _ | _
  · rcases ho : other.isFatal with _ | _
    · simp only [merge, he, ho]
      simp only [Bool.false_eq_true, if_false, Bool.or_self]
      split
      · exact he
      · split
        · exact ho
        · rw [isFatal_join ho, he]
    · simp [merge, he, ho]
  · simp [merge, he]

/-- A primitive never fails fatally. -/
theorem Primitive.isFatal_apply {τ : Type} [Token τ] {tokens : Array τ} (leaf : Primitive τ)
    (start : Fin (tokens.size + 1)) : (leaf.apply tokens start).isFatal = false := by
  cases leaf with
  | pure v | fail message => rfl
  | eof | satisfy expected accepts =>
    rw [apply]
    repeat' split
    all_goals rfl
  | oneOf accepted =>
    simp only [apply]
    repeat' split
    all_goals rfl

/-- A node with one part fails fatally iff its part does. -/
theorem Modifier.isFatal_settle {n : Nat} (start : Fin (n + 1)) (m : Modifier)
    (out : Outcome (Fin (n + 1)) Value) : (m.settle start out).isFatal = out.isFatal := by
  cases out with
  | success v next =>
    cases m with
    | map f | labelled label | inContext note | optional | not => rfl
    | tryMap f =>
      simp only [settle]
      split <;> rfl
  | failure p e =>
    cases m with
    | map f | tryMap f | inContext note => rfl
    | labelled label =>
      simp only [settle]
      split
      · exact e.isFatal_withLabel label
      · rfl
    | optional | not =>
      simp only [settle]
      split
      · rfl
      · simp_all [Outcome.isFatal]

/-- Without a fatal failure, a node with one part does what it does without a guard. -/
theorem Modifier.settle_eq_settlePlain {n : Nat} {start : Fin (n + 1)} {m : Modifier}
    {out : Outcome (Fin (n + 1)) Value} (h : out.isFatal = false) :
    m.settle start out = m.settlePlain start out := by
  cases out with
  | success v next => cases m <;> rfl
  | failure p e =>
    have he : e.isFatal = false := h
    cases m <;> simp [settle, settlePlain, he, Outcome.map]

/-- Without a fatal failure, the second alternative follows the first one as it does without a
guard. -/
theorem Outcome.orElse_eq_afterFailure {κ α : Type} {p₁ : κ} {e₁ : ParseError} {out : Outcome κ α}
    (h : out.isFatal = false) : (failure p₁ e₁).orElse out = out.afterFailure p₁ e₁ := by
  cases out with
  | success v next => rfl
  | failure p₂ e₂ =>
    have he : e₂.isFatal = false := h
    simp [orElse, afterFailure, he]

/-- Two alternatives of which the first failed fail fatally iff the second one does. -/
theorem Outcome.isFatal_orElse {κ α : Type} {first : Outcome κ α} (h : first.isRecoverable = true)
    (out : Outcome κ α) : (first.orElse out).isFatal = out.isFatal := by
  cases first with
  | success v next => cases h
  | failure p₁ e₁ =>
    cases out with
    | success v next => rfl
    | failure p₂ e₂ =>
      have h₁ : e₁.isFatal = false := by simpa [isRecoverable] using h
      rw [orElse]
      split
      · rfl
      · rename_i h₂
        simp_all [isFatal, ParseError.isFatal_merge]

variable {τ : Type} [Token τ] {g : Grammar τ} {tokens : Array τ} {active : Guard} {p : Parser τ}
  {start : Fin (tokens.size + 1)} {a a' : Account}

namespace Applies

/-- An application that does not fail fatally is one without a guard. -/
theorem derives {res : Result tokens} (h : Applies g tokens active p start a res a') :
    ∀ out, res = .ok out → out.isFatal = false → Derives g tokens p start out := by
  induction h with
  | primitive =>
    rintro out ⟨⟩ -
    exact .primitive
  | @modified _ _ m _ start _ _ _ _ ih =>
    intro out h hf
    obtain ⟨out', rfl, rfl⟩ := map_eq_ok h
    rw [Modifier.isFatal_settle] at hf
    rw [Modifier.settle_eq_settlePlain hf]
    exact .modified (ih out' rfl hf)
  | observed _ ih => exact fun out h hf => .observed (ih out h hf)
  | orFirst _ hres ih =>
    rintro (⟨v, next⟩ | ⟨position, e⟩) rfl hf
    · exact .orFirst (ih _ rfl rfl)
    · exact absurd ⟨_, rfl, by simpa [Outcome.isRecoverable, Outcome.isFatal] using hf⟩ hres
  | @orSecond _ _ _ _ _ _ out₁ _ _ _ _ hout _ ihp ihq =>
    intro out h hf
    obtain ⟨out₂, rfl, rfl⟩ := map_eq_ok h
    rw [Outcome.isFatal_orElse hout] at hf
    cases out₁ with
    | success v next => cases hout
    | failure position e =>
      rw [Outcome.orElse_eq_afterFailure hf]
      exact .orSecond (ihp _ rfl (Outcome.isFatal_of_isRecoverable hout)) (ihq out₂ rfl hf)
  | andFirst _ hres ih =>
    rintro (⟨v, next⟩ | ⟨position, e⟩) rfl hf
    · exact absurd ⟨v, next, rfl⟩ hres
    · exact .andFirst (ih _ rfl hf)
  | andSecond _ _ ihp ihq =>
    intro out h hf
    obtain ⟨out', rfl, rfl⟩ := map_eq_ok h
    rw [Outcome.isFatal_map] at hf
    exact .andSecond (ihp _ rfl rfl) (ihq out' rfl hf)
  | sequenceNil =>
    rintro out ⟨⟩ -
    exact .sequenceNil
  | sequenceFirst _ hres ih =>
    rintro (⟨v, next⟩ | ⟨position, e⟩) rfl hf
    · exact absurd ⟨v, next, rfl⟩ hres
    · exact .sequenceFirst (ih _ rfl hf)
  | sequenceNext _ _ ihp ihps =>
    intro out h hf
    obtain ⟨out', rfl, rfl⟩ := map_eq_ok h
    rw [Outcome.isFatal_map] at hf
    exact .sequenceNext (ihp _ rfl rfl) (ihps out' rfl hf)
  | manyFatal _ he =>
    rintro out ⟨⟩ hf
    exact absurd hf (by simp [Outcome.isFatal, he])
  | manyEnd _ he ih =>
    rintro out ⟨⟩ -
    exact .manyEnd (ih _ rfl he)
  | manyNext _ hlt _ ihp ihrest =>
    intro out h hf
    obtain ⟨out', rfl, rfl⟩ := map_eq_ok h
    rw [Outcome.isFatal_map] at hf
    exact .manyNext (ihp _ rfl rfl) (Fin.ne_of_gt hlt) (ihrest out' rfl hf)
  | @manyStopped _ _ _ start _ _ next _ hpart hlt ih =>
    intro out h _
    obtain ⟨-, -, rfl⟩ := map_eq_ok h
    have hle : start ≤ next := hpart.le _ _ rfl
    obtain rfl : next = start := by omega
    exact .manyStopped (ih _ rfl rfl)
  | reentered =>
    rintro out ⟨⟩ hf
    cases hf
  | entered hb _ _ ih => exact fun out h hf => .bound hb (ih out h hf)
  | _ => exact fun out h => by cases h

end Applies

/-- The definition of the rule of an activation has an outcome at its position without a guard,
within a depth of `n`. -/
def Activation.EndsWithin (g : Grammar τ) (tokens : Array τ) (n : Nat) (x : Activation) : Prop :=
  ∃ d place out, g.binding x.rule = .bound d ∧ place.val = x.position ∧
    Parser.unguarded g tokens n d place = some out

/-- One of the activations that are going on has an outcome within a depth less than `n`. -/
def Guard.EndsBelow (g : Grammar τ) (tokens : Array τ) (n : Nat) (active : Guard) : Prop :=
  ∃ x ∈ active, ∃ k < n, x.EndsWithin g tokens k

theorem Guard.EndsBelow.mono {n k : Nat} (h : active.EndsBelow g tokens n) (hk : n ≤ k) :
    active.EndsBelow g tokens k := by
  obtain ⟨x, hx, j, hj, h⟩ := h
  exact ⟨x, hx, j, Nat.lt_of_lt_of_le hj hk, h⟩

namespace Applies

/-- An outcome that is not fatal comes up without a guard too. -/
theorem unguarded_eq {out out' : Outcome (Fin (tokens.size + 1)) Value} {n : Nat}
    (h : Applies g tokens active p start a (.ok out) a') (hf : out.isFatal = false)
    (hn : Parser.unguarded g tokens n p start = some out') : out' = out :=
  derives_unique (Parser.derives_of_unguarded hn) (h.derives _ rfl hf)

/-- **A re-entry is an infinite descent.** If an application fails fatally, an evaluation without a
guard contains one of the definition of an active rule at its position. -/
theorem endsBelow_of_isFatal {res : Result tokens} (h : Applies g tokens active p start a res a') :
    ∀ out, res = .ok out → out.isFatal = true →
      ∀ n out', Parser.unguarded g tokens n p start = some out' → active.EndsBelow g tokens n := by
  induction h with
  | @primitive _ _ leaf start =>
    rintro out ⟨⟩ hf
    exact absurd hf (by simp [leaf.isFatal_apply])
  -- the first part failed fatally: the evaluation without a guard has to come to its outcome
  | modified _ ih =>
    intro out h hf n out' hn
    obtain ⟨out₁, rfl, rfl⟩ := map_eq_ok h
    obtain ⟨k, hk, out₂, hn⟩ := Parser.exists_unguarded_head rfl hn
    rw [Modifier.isFatal_settle] at hf
    exact (ih _ rfl hf k out₂ hn).mono (Nat.le_of_lt hk)
  | observed _ ih | orFirst _ _ ih | andFirst _ _ ih | sequenceFirst _ _ ih | manyFatal _ _ ih =>
    intro out h hf n out' hn
    obtain ⟨k, hk, out₂, hn⟩ := Parser.exists_unguarded_head rfl hn
    exact (ih out h hf k out₂ hn).mono (Nat.le_of_lt hk)
  -- a later part failed fatally: the ones before it have the outcome that they have without a guard
  | @orSecond _ _ _ _ _ _ out₁ _ _ _ hp hout _ _ ihq =>
    rintro out h hf (_ | n) out' hn
    · cases hn
    obtain ⟨out₂, rfl, rfl⟩ := map_eq_ok h
    rw [Outcome.isFatal_orElse hout] at hf
    obtain ⟨out₃, hn, hn'⟩ := Option.bind_eq_some_iff.1 hn
    obtain rfl := hp.unguarded_eq (Outcome.isFatal_of_isRecoverable hout) hn
    cases out₃ with
    | success v next => cases hout
    | failure position e =>
      obtain ⟨out₄, hn', -⟩ := Option.map_eq_some_iff.1 hn'
      exact (ihq out₂ rfl hf n out₄ hn').mono n.le_succ
  | andSecond hp _ _ ihq | sequenceNext hp _ _ ihq =>
    rintro out h hf (_ | n) out' hn
    · cases hn
    obtain ⟨out₁, rfl, rfl⟩ := map_eq_ok h
    rw [Outcome.isFatal_map] at hf
    obtain ⟨out₂, hn, hn'⟩ := Option.bind_eq_some_iff.1 hn
    obtain rfl := hp.unguarded_eq rfl hn
    obtain ⟨out₃, hn', -⟩ := Option.map_eq_some_iff.1 hn'
    exact (ihq out₁ rfl hf n out₃ hn').mono n.le_succ
  | manyNext hp hlt _ _ ihrest =>
    rintro out h hf (_ | n) out' hn
    · cases hn
    obtain ⟨out₁, rfl, rfl⟩ := map_eq_ok h
    rw [Outcome.isFatal_map] at hf
    obtain ⟨out₂, hn, hn'⟩ := Option.bind_eq_some_iff.1 hn
    obtain rfl := hp.unguarded_eq rfl hn
    simp only [if_neg (Fin.ne_of_gt hlt)] at hn'
    obtain ⟨out₃, hn', -⟩ := Option.map_eq_some_iff.1 hn'
    exact (ihrest out₁ rfl hf n out₃ hn').mono n.le_succ
  | manyStopped =>
    rintro out h hf
    obtain ⟨-, -, rfl⟩ := map_eq_ok h
    cases hf
  | @reentered _ _ _ _ _ d start hb hin =>
    rintro out - - (_ | n) out' hn
    · cases hn
    rw [Parser.unguarded, hb] at hn
    exact ⟨_, hin, n, Nat.lt_succ_self n, d, start, out', hb, rfl, hn⟩
  | @entered active _ rule _ _ d _ _ start hb _ _ ih =>
    rintro out h hf (_ | n) out' hn
    · cases hn
    rw [Parser.unguarded, hb] at hn
    refine Guard.EndsBelow.mono ?_ n.le_succ
    -- by induction on the depth: what is found may be the rule itself, but then less deep
    induction n using Nat.strongRecOn generalizing out' with
    | _ n ihn =>
      obtain ⟨x, hx, k, hk, hends⟩ := ih out h hf n out' hn
      rcases Guard.mem_insert.1 hx with rfl | hx
      · obtain ⟨d', place, out'', hb', hplace, hk'⟩ := hends
        obtain rfl : d = d' := Binding.bound.inj (hb.symm.trans hb')
        obtain rfl : place = start := Fin.ext hplace
        exact (ihn k hk out'' hk').mono (Nat.le_of_lt hk)
      · exact ⟨x, hx, k, hk, hends⟩
  | sequenceNil | manyEnd =>
    rintro out ⟨⟩ hf
    cases hf
  | _ => exact fun out h => by cases h

end Applies

/-- Without a guard, the parser `p` has the outcome `out` at the cursor `c`. -/
def DerivesAt (g : Grammar τ) (p : Parser τ) (c : Cursor τ) (out : Outcome (Cursor τ) Value) :
    Prop :=
  ∃ out', Derives g c.source.tokens p c.place out' ∧ out = out'.mapPlace c.moveTo

theorem Outcome.isFatal_mapPlace {κ κ' α : Type} (f : κ → κ') (out : Outcome κ α) :
    (out.mapPlace f).isFatal = out.isFatal := by
  cases out <;> rfl

/-- A parse of a parser that reaches defined rules only is an application that gives an outcome. -/
theorem exists_applies_of_parse (hp : g.Closed p) (c : Cursor τ) (a : Account) :
    ∃ out a', Applies g c.source.tokens ∅ p c.place a (.ok out) a' ∧
      (p.parse g c a).1 = .ok (out.mapPlace c.moveTo) := by
  obtain ⟨res, h, hres⟩ := applies_parse g p c a
  obtain ⟨out, rfl⟩ := h.exists_ok hp
  exact ⟨out, _, h, hres⟩

theorem not_endsBelow_empty (n : Nat) : ¬(∅ : Guard).EndsBelow g tokens n := by
  rintro ⟨x, hx, -⟩
  exact absurd hx (by simp)

/-- **The guard is exact.** In a grammar without undefined rules, a parse that does not report left
recursion has exactly the outcome of the evaluation without a guard; it reports left recursion iff
that evaluation has no outcome, that is, iff it comes to none at any depth. -/
theorem parse_exact (hp : g.Closed p) (c : Cursor τ) (a : Account) :
    (∀ out, ((p.parse g c a).1 = .ok out ∧ out.isFatal = false) ↔ DerivesAt g p c out) ∧
      ((∃ out, (p.parse g c a).1 = .ok out ∧ out.isFatal = true) ↔ ¬∃ out, DerivesAt g p c out) ∧
      ((∃ out, (p.parse g c a).1 = .ok out ∧ out.isFatal = true) ↔
        ∀ n, Parser.unguarded g c.source.tokens n p c.place = none) := by
  obtain ⟨out, a', happ, hparse⟩ := exists_applies_of_parse hp c a
  have hends : (∃ out', Derives g c.source.tokens p c.place out') ↔ out.isFatal = false := by
    constructor
    · rintro ⟨out', h'⟩
      obtain ⟨n, hn⟩ := Parser.exists_unguarded h'
      rcases hf : out.isFatal with _ | _
      · rfl
      · exact absurd (happ.endsBelow_of_isFatal out rfl hf n out' hn) (not_endsBelow_empty n)
    · exact fun hf => ⟨out, happ.derives out rfl hf⟩
  have hfatal : (∃ out', (p.parse g c a).1 = .ok out' ∧ out'.isFatal = true) ↔
      ¬∃ out', Derives g c.source.tokens p c.place out' := by
    rw [hends, hparse]
    constructor
    · rintro ⟨out', h, hf⟩
      cases h
      rw [Outcome.isFatal_mapPlace] at hf
      simp [hf]
    · intro hf
      exact ⟨_, rfl, by rw [Outcome.isFatal_mapPlace]; simpa using hf⟩
  refine ⟨fun out' => ?_, hfatal.trans (not_congr ?_), hfatal.trans ?_⟩
  · constructor
    · rintro ⟨h, hf⟩
      rw [hparse] at h
      cases h
      rw [Outcome.isFatal_mapPlace] at hf
      exact ⟨out, happ.derives out rfl hf, rfl⟩
    · rintro ⟨out'', hd, rfl⟩
      have hf := hends.1 ⟨out'', hd⟩
      obtain rfl := derives_unique hd (happ.derives out rfl hf)
      exact ⟨hparse, by rw [Outcome.isFatal_mapPlace, hf]⟩
  · constructor
    · rintro ⟨out', h⟩
      exact ⟨_, out', h, rfl⟩
    · rintro ⟨-, out', h, -⟩
      exact ⟨out', h⟩
  · constructor
    · intro h n
      rcases hn : Parser.unguarded g c.source.tokens n p c.place with _ | out'
      · rfl
      · exact absurd ⟨out', Parser.derives_of_unguarded hn⟩ h
    · rintro h ⟨out', hd⟩
      obtain ⟨n, hn⟩ := Parser.exists_unguarded hd
      rw [h n] at hn
      cases hn

namespace Grammar

/-- The definition of a rule that is itself or an `x`. -/
def selfOrX : Parser Char := .or 0 (.refer 1 0 true) (.primitive 2 (.satisfy "x" (· == 'x')))

/-- The grammar with the rule that is itself or an `x`. -/
def selfReferring : Grammar Char := #[⟨"expr", .bound selfOrX⟩]

theorem closed_selfReferring (key : Key) : selfReferring.Closed (.refer key 0 true) := by
  intro key' rule owning hr
  -- the rule, its definition and the leaf of the definition are all that is reached
  have hinv : ∀ q, selfReferring.Reaches (.refer key 0 true) q →
      (∃ k, q = .refer k 0 true) ∨ q = selfOrX ∨
        q = .primitive 2 (.satisfy "x" (· == 'x')) := by
    intro q hq
    induction hq with
    | refl => exact .inl ⟨key, rfl⟩
    | tail _ hl ih =>
      obtain ⟨k, rfl⟩ | rfl | rfl := ih
      · cases hl with
        | part h => cases h
        | definition hb => exact .inr (.inl (Binding.bound.inj hb).symm)
      · cases hl with
        | part h =>
          obtain rfl | rfl : _ = _ ∨ _ = _ := by simpa [selfOrX, Parser.parts] using h
          · exact .inl ⟨1, rfl⟩
          · exact .inr (.inr rfl)
      · cases hl with
        | part h => cases h
  obtain ⟨k, hk⟩ | hk | hk := hinv _ hr
  · cases hk
    exact ⟨selfOrX, rfl⟩
  · cases hk
  · cases hk

theorem unguarded_selfReferring (n : Nat) (key : Key) {tokens : Array Char}
    (place : Fin (tokens.size + 1)) :
    Parser.unguarded selfReferring tokens n (.refer key 0 true) place = none := by
  induction n using Nat.strongRecOn generalizing key with
  | _ n ih =>
    obtain _ | _ | n := n
    · rfl
    · rfl
    · have h := ih n (by omega) 1
      change (Parser.unguarded selfReferring tokens n (.refer 1 0 true) place).bind _ = none
      rw [h]
      rfl

end Grammar

/-- The rule that is itself or an `x` is reported on the input `x`, although its second
alternative would match. -/
theorem parse_exact_selfReferring :
    Grammar.selfReferring.Closed (.refer 3 0 true) ∧
      ∃ out, ((Parser.refer 3 0 true).parse Grammar.selfReferring
        (Cursor.start ⟨0, #['x']⟩) {}).1 = .ok out ∧ out.isFatal = true :=
  ⟨Grammar.closed_selfReferring 3, (parse_exact (Grammar.closed_selfReferring 3) _ {}).2.2.2
    fun n => Grammar.unguarded_selfReferring n 3 _⟩

end GuardedParsing
