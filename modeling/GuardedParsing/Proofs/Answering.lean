import GuardedParsing.Proofs.LeastSolution
import GuardedParsing.Proofs.Query

/-!
# What the answers mean

An answer that a parser accepts empty input is never wrong: taking a parser for one that does not
can only make for fewer such answers. An answer that it does not is right on the assumptions that
were made on the way, which are those at the least depth that the memory keeps, or deeper.

The question about a parser that no other answer depends on discharges the assumption about the
parser itself, and what is left are the assumptions about the parsers around it. If there are none,
the answer is right in every grammar that has more definitions, and may be remembered.

* `Memory.Sound`: what is remembered is right, and stays right.
* `Answers.sound`: **the answers on the way are right on their assumptions.**
* `sound_acceptsEmpty`, `Question.Meets.iff`: the answer to a question is the value of the parser in
  the least solution.
* `Answers.answers_eq`: what is remembered is never changed.
-/

namespace GuardedParsing

/-- The assumption `d` is at least as shallow as `e`, if there is one. -/
def Covers (d e : Option Nat) : Prop := ∀ k, e = some k → ∃ j, d = some j ∧ j ≤ k

theorem Covers.refl (d : Option Nat) : Covers d d := fun k hk => ⟨k, hk, Nat.le_refl k⟩

theorem Covers.trans {d e f : Option Nat} (h : Covers d e) (h' : Covers e f) : Covers d f := by
  intro k hk
  obtain ⟨j, hj, hjk⟩ := h' k hk
  obtain ⟨i, hi, hij⟩ := h j hj
  exact ⟨i, hi, Nat.le_trans hij hjk⟩

theorem covers_zero (d : Option Nat) : Covers (some 0) d := fun k _ => ⟨0, rfl, Nat.zero_le k⟩

theorem covers_shallower_left (d e : Option Nat) : Covers (shallower d e) d := by
  rintro k rfl
  cases e with
  | none => exact ⟨k, rfl, Nat.le_refl k⟩
  | some j => exact ⟨min k j, rfl, Nat.min_le_left k j⟩

theorem covers_shallower_right (d e : Option Nat) : Covers (shallower d e) e := by
  rintro k rfl
  cases d with
  | none => exact ⟨k, rfl, Nat.le_refl k⟩
  | some j => exact ⟨min j k, rfl, Nat.min_le_right j k⟩

theorem le_length_of_depthIn? {key : Key} {keys : List Key} {d : Nat}
    (h : depthIn? key keys = some d) : d ≤ keys.length := by
  induction keys with
  | nil => cases h
  | cons k keys ih =>
    rw [depthIn?] at h
    rw [List.length_cons]
    split at h
    · have := Option.some.inj h
      omega
    · have := ih h
      omega

namespace Opened

/-- The depths go from the innermost parser outwards, down to 1. -/
theorem le_size_of_depthOf? {o : Opened} {key : Key} {d : Nat} (h : o.depthOf? key = some d) :
    d ≤ o.size := by
  rw [depthOf?_eq] at h
  rw [o.size_eq]
  exact le_length_of_depthIn? h

/-- The keys of the parsers that are assumed not to accept empty input, where the least depth of the
assumptions is `d`. -/
def assumptions (o : Opened) (d : Option Nat) : Set Key :=
  fun key => ∃ j e, d = some j ∧ o.depthOf? key = some e ∧ j ≤ e

variable {o : Opened} {d e : Option Nat} {key : Key}

theorem assumptions_mono (h : Covers d e) : o.assumptions e ⊆ o.assumptions d := by
  rintro key ⟨k, f, hk, hf, hkf⟩
  obtain ⟨j, hj, hjk⟩ := h k hk
  exact ⟨j, f, hj, hf, Nat.le_trans hjk hkf⟩

theorem assumptions_push : (o.push key).assumptions d ⊆ insert key (o.assumptions d) := by
  rintro k ⟨j, f, hj, hf, hjf⟩
  by_cases hk : k = key
  · exact .inl hk
  · rw [depthOf?_eq, keys_push, depthIn?, if_neg (Ne.symm hk), ← depthOf?_eq] at hf
    exact .inr ⟨j, f, hj, hf, hjf⟩

/-- Every parser that is being asked about is among the assumptions at depth 0, and no other. -/
theorem mem_assumptions_zero : key ∈ o.assumptions (some 0) ↔ key ∈ o.keys := by
  constructor
  · rintro ⟨-, f, -, hf, -⟩
    by_contra h
    rw [depthOf?_eq_none_iff.2 h] at hf
    cases hf
  · intro h
    rcases hd : o.depthOf? key with _ | f
    · exact absurd h (depthOf?_eq_none_iff.1 hd)
    · exact ⟨0, f, rfl, hd, Nat.zero_le f⟩

/-- Assumptions that are deeper than every parser that is being asked about are none. -/
theorem assumptions_eq_empty (h : d.all (o.size + 1 ≤ ·) = true) : o.assumptions d = ∅ := by
  ext k
  constructor
  · rintro ⟨j, f, rfl, hf, hjf⟩
    have hle := le_size_of_depthOf? hf
    have hj : o.size + 1 ≤ j := of_decide_eq_true h
    omega
  · rintro ⟨⟩

end Opened

variable {τ : Type}

namespace Grammar

variable {g w : Grammar τ} {D : Parser τ → Prop} {o : Opened} {d e : Option Nat} {p : Parser τ}
  {b : Bool}

/-- The parsers that may accept empty input on the assumptions at depth `d` or deeper; an assumption
at depth 0 is about a rule without a definition. -/
def possibleUnder (w : Grammar τ) (o : Opened) (d : Option Nat) : Parser τ → Prop :=
  w.solutionUnder (o.assumptions d) (d ≠ some 0)

theorem ne_some_zero_of_covers (h : Covers d e) (hd : d ≠ some 0) : e ≠ some 0 := by
  rintro rfl
  obtain ⟨j, rfl, hj⟩ := h 0 rfl
  exact hd (by rw [Nat.le_zero.1 hj])

theorem possibleUnder_anti (h : Covers d e) (hp : w.possibleUnder o d p) : w.possibleUnder o e p :=
  solutionUnder_mono (Opened.assumptions_mono h) (ne_some_zero_of_covers h) hp

/-- An answer that does not depend on assumptions: it is right, and stays right in a grammar with
more definitions. -/
def Settled (w : Grammar τ) (p : Parser τ) : Bool → Prop
  | true => w.leastSolution p
  | false => ¬w.solutionUnder ∅ True p

theorem Settled.not_possibleUnder (h : w.Settled p false) : ¬w.possibleUnder o d p :=
  fun hp => h (solutionUnder_mono (Set.empty_subset _) (fun _ => trivial) hp)

/-- An answer that is settled is the value of the parser in the least solution. -/
theorem Settled.iff (h : w.Settled p b) : b = true ↔ w.leastSolution p := by
  cases b with
  | true => exact iff_of_true rfl h
  | false =>
    refine iff_of_false (by simp) fun hp => h ?_
    rw [← solutionUnder_empty] at hp
    exact solutionUnder_mono (le_refl _) False.elim hp

/-- More definitions leave an answer settled. -/
theorem Settled.extends (hg : g.Extends w) (h : w.Settled p b) : g.Settled p b := by
  cases b with
  | true => exact leastSolution_mono hg h
  | false => exact fun hp => h (solutionUnder_anti hg hp)

/-- Where the kind of a parser decides its answer, so does its equation. -/
theorem equation_iff_of_acceptsEmpty? (h : p.acceptsEmpty? = some b) (u : Prop)
    (v : Parser τ → Prop) : w.equation u v p ↔ b = true := by
  cases p with
  | primitive key leaf =>
    cases leaf <;> simp_all [Parser.acceptsEmpty?, Primitive.acceptsEmpty, equation]
  | modified key m part =>
    cases m <;> simp_all [Parser.acceptsEmpty?, Modifier.acceptsEmpty?, equation]
  | many key part => simp_all [Parser.acceptsEmpty?, equation]
  | _ => cases h

/-- The answer for a parser whose kind decides it is settled. -/
theorem settled_of_acceptsEmpty? (h : p.acceptsEmpty? = some b) : w.Settled p b := by
  cases b with
  | true => exact leastSolution_iff.2 ((equation_iff_of_acceptsEmpty? h _ _).2 rfl)
  | false =>
    intro hp
    have hfalse := (equation_iff_of_acceptsEmpty? h _ _).1 (solutionUnder_iff.1 hp).2
    cases hfalse

/-- The question about a parser discharges the assumption about the parser itself. -/
theorem not_possibleUnder_of_consult (hD : w.Pool D) (hp : D p)
    (h : ¬w.equation (d ≠ some 0) (w.possibleUnder (o.push p.key) d) p) :
    ¬w.possibleUnder o d p := by
  refine not_solutionUnder_of_insert hD hp fun hp' => h ?_
  exact equation_mono id (fun q _ => solutionUnder_mono Opened.assumptions_push id) hp'

/-- Without assumptions about the parsers around it, the answer for a parser is settled. -/
theorem settled_of_not_possibleUnder (hd : d.all (o.size + 1 ≤ ·) = true)
    (h : ¬w.possibleUnder o d p) : w.Settled p false := by
  intro hp
  refine h ?_
  rw [possibleUnder, Opened.assumptions_eq_empty hd]
  refine solutionUnder_mono (le_refl _) (fun _ => ?_) hp
  rintro rfl
  simp at hd

end Grammar

open Grammar

/-- Every remembered answer is about a parser of `D`, and settled. -/
def Memory.Sound (w : Grammar τ) (D : Parser τ → Prop) (m : Memory) : Prop :=
  ∀ (key : Key) (b : Bool), m.answers[key]? = some b → ∃ p, D p ∧ p.key = key ∧ w.Settled p b

namespace Memory

variable {w : Grammar τ} {D : Parser τ → Prop} {m : Memory} {p : Parser τ} {b : Bool}

/-- A plain or remembered answer is settled. -/
theorem Sound.settled (hD : w.Pool D) (hm : m.Sound w D) (hp : D p) (h : m.answer? p = some b) :
    w.Settled p b := by
  unfold answer? at h
  rcases Option.or_eq_some_iff.1 h with h | ⟨-, h⟩
  · exact settled_of_acceptsEmpty? h
  · obtain ⟨q, hq, hkey, hb⟩ := hm _ _ h
    rwa [← hD.eq_of_key_eq hq hp hkey]

/-- The end of a question that is not the outermost one, on no assumptions about those around it. -/
theorem assumed_settle_of_all {key depth : Nat} {outer : Option Nat} (hdepth : depth ≠ 1)
    (hs : m.assumed.all (depth ≤ ·) = true) : (m.settle key depth outer b).assumed = outer := by
  simp only [Memory.settle, if_neg hdepth, if_pos hs]

/-- The end of a question that is not the outermost one, on assumptions about those around it. -/
theorem assumed_settle_of_not_all {key depth : Nat} {outer : Option Nat} (hdepth : depth ≠ 1)
    (hs : ¬m.assumed.all (depth ≤ ·) = true) :
    (m.settle key depth outer b).assumed = shallower outer m.assumed := by
  simp only [Memory.settle, if_neg hdepth, if_neg hs]

/-- A question leaves the memory sound if the answer that it remembers is settled. -/
theorem Sound.settle (hm : m.Sound w D) (hp : D p) {depth : Nat}
    (h : m.assumed.all (depth ≤ ·) = true → w.Settled p b) (outer : Option Nat) :
    (m.settle p.key depth outer b).Sound w D := by
  intro key c hc
  unfold Memory.settle at hc
  simp only at hc
  split at hc
  · rename_i hs
    rw [Std.HashMap.getElem?_insertIfNew] at hc
    split at hc
    · rename_i hkey
      cases hc
      exact ⟨p, hp, by simpa using hkey.1, h hs⟩
    · exact hm key c hc
  · exact hm key c hc

end Memory

namespace Question

/-- What a question is about lies in `D`. -/
def In (w : Grammar τ) (D : Parser τ → Prop) : Question τ → Prop
  | ask p => D p
  | consult p => ∀ q, w.Leads p q → D q

/-- The value of what a question is about, where `v` gives the values of parsers. -/
def value (w : Grammar τ) (unset : Prop) (v : Parser τ → Prop) : Question τ → Prop
  | ask p => v p
  | consult p => w.equation unset v p

/-- An answer is right on the assumptions at depth `d` or deeper. -/
def Meets (w : Grammar τ) (o : Opened) (d : Option Nat) (q : Question τ) : Bool → Prop
  | true => q.value w False w.leastSolution
  | false => ¬q.value w (d ≠ some 0) (w.possibleUnder o d)

variable {w : Grammar τ} {o : Opened} {d e : Option Nat} {q : Question τ} {b : Bool}

/-- An answer stays right on more assumptions. -/
theorem Meets.covers (h : q.Meets w o e b) (hd : Covers d e) : q.Meets w o d b := by
  cases b with
  | true => exact h
  | false =>
    refine fun hp => h ?_
    cases q with
    | ask p => exact possibleUnder_anti hd hp
    | consult p =>
      exact equation_mono (ne_some_zero_of_covers hd) (fun _ _ => possibleUnder_anti hd) hp

theorem meets_of_acceptsEmpty? {p : Parser τ} (h : p.acceptsEmpty? = some b) :
    (consult p).Meets w o d b := by
  cases b with
  | true => exact (equation_iff_of_acceptsEmpty? h _ _).2 rfl
  | false => exact fun hp => absurd ((equation_iff_of_acceptsEmpty? h _ _).1 hp) (by simp)

theorem meets_of_settled {p : Parser τ} (h : w.Settled p b) : (ask p).Meets w o d b := by
  cases b with
  | true => exact h
  | false => exact h.not_possibleUnder

end Question

/-- The answer to a question about a parser from the answer from its parts. -/
theorem Question.Meets.ask {w : Grammar τ} {D : Parser τ → Prop} {o : Opened} {d : Option Nat}
    {p : Parser τ} {b : Bool} (hD : w.Pool D) (hp : D p)
    (h : (consult p).Meets w (o.push p.key) d b) : (Question.ask p).Meets w o d b := by
  cases b with
  | true => exact leastSolution_iff.2 h
  | false => exact not_possibleUnder_of_consult hD hp h

/-- An answer on no assumptions about the parsers around the question is settled. -/
theorem Question.Meets.settled {w : Grammar τ} {o : Opened} {d : Option Nat} {p : Parser τ}
    {b : Bool} (h : (Question.ask p).Meets w o d b) (hd : d.all (o.size + 1 ≤ ·) = true) :
    w.Settled p b := by
  cases b with
  | true => exact h
  | false => exact settled_of_not_possibleUnder hd h

/-- **The answers on the way are right on their assumptions**, and what is remembered is right. The
assumptions at hand get no deeper. -/
theorem Answers.sound {g w : Grammar τ} {D : Parser τ → Prop} (hw : w.Keeps g) (hD : w.Pool D)
    {o : Opened} {q : Question τ} {m m' : Memory} {res : Except Fault Bool}
    (h : Answers g o q m res m') :
    o.keys ≠ [] → q.In w D → m.Sound w D →
      m'.Sound w D ∧ ∀ b, res = .ok b → Covers m'.assumed m.assumed ∧ q.Meets w o m'.assumed b := by
  induction h with
  | known h =>
    intro _ hp hm
    refine ⟨hm, ?_⟩
    rintro b ⟨⟩
    exact ⟨.refl _, Question.meets_of_settled (hm.settled hD hp h)⟩
  | @assumed o p m depth h hd =>
    intro _ hp hm
    refine ⟨hm, ?_⟩
    rintro b ⟨⟩
    have hcovers : Covers (shallower m.assumed (some depth)) (some depth) :=
      covers_shallower_right _ _
    obtain ⟨j, hj, hjd⟩ := hcovers depth rfl
    refine ⟨covers_shallower_left _ _, fun hp' => ?_⟩
    -- the parser is itself among the assumptions
    exact (solutionUnder_iff.1 hp').1 ⟨j, depth, hj, hd, hjd⟩
  | @asked o p m b m' h hd _ ih =>
    intro ho hp hm
    obtain ⟨hm', hres⟩ := ih (by simp) (fun r hr => hD.leads hp hr) hm
    have hmeets := (hres b rfl).2.ask hD hp
    refine ⟨hm'.settle hp (fun hs => hmeets.settled hs) m.assumed, ?_⟩
    rintro c ⟨⟩
    -- the outermost question is the only one that forgets its assumptions
    have hsize : o.size + 1 ≠ 1 := by
      rw [o.size_eq]
      have := List.length_pos_iff.2 ho
      omega
    by_cases hs : m'.assumed.all (o.size + 1 ≤ ·) = true
    · rw [Memory.assumed_settle_of_all hsize hs]
      exact ⟨.refl _, Question.meets_of_settled (hmeets.settled hs)⟩
    · rw [Memory.assumed_settle_of_not_all hsize hs]
      exact ⟨covers_shallower_left _ _, hmeets.covers (covers_shallower_right _ _)⟩
  | askedFault h hd _ ih =>
    intro _ hp hm
    obtain ⟨hm', -⟩ := ih (by simp) (fun r hr => hD.leads hp hr) hm
    exact ⟨hm', by rintro b ⟨⟩⟩
  | plain h =>
    intro _ _ hm
    refine ⟨hm, ?_⟩
    rintro b ⟨⟩
    exact ⟨.refl _, Question.meets_of_acceptsEmpty? h⟩
  | @modified o key mod p m res m' hmod _ ih =>
    intro ho hp hm
    obtain ⟨hm', hres⟩ := ih ho (hp p (.part (.head _))) hm
    refine ⟨hm', fun b hb => ⟨(hres b hb).1, ?_⟩⟩
    have hb' := (hres b hb).2
    cases mod with
    | optional | not => cases hmod
    | map f | tryMap f | labelled label | inContext note => cases b <;> exact hb'
  | @observed o key name p m res m' _ ih =>
    intro ho hp hm
    obtain ⟨hm', hres⟩ := ih ho (hp p (.part (.head _))) hm
    refine ⟨hm', fun b hb => ⟨(hres b hb).1, ?_⟩⟩
    have hb' := (hres b hb).2
    cases b <;> exact hb'
  | @orFirst o key p q m res m' _ hne ih =>
    intro ho hp hm
    obtain ⟨hm', hres⟩ := ih ho (hp p (.part (.head _))) hm
    refine ⟨hm', fun b hb => ⟨(hres b hb).1, ?_⟩⟩
    cases b with
    | true => exact .inl (hres true hb).2
    | false => exact absurd hb hne
  | @orSecond o key p q m m' res m'' _ _ ihp ihq =>
    intro ho hp hm
    obtain ⟨hm', hresp⟩ := ihp ho (hp p (.part (.head _))) hm
    obtain ⟨hm'', hresq⟩ := ihq ho (hp q (.part (.tail _ (.head _)))) hm'
    refine ⟨hm'', fun b hb => ⟨(hresq b hb).1.trans (hresp false rfl).1, ?_⟩⟩
    obtain ⟨hcovers, hq⟩ := hresq b hb
    cases b with
    | true => exact .inr hq
    -- the answer for the first part stays right on the assumptions that the second one added
    | false => exact not_or.2 ⟨(hresp false rfl).2.covers hcovers, hq⟩
  | @andFirst o key p q m res m' _ hne ih =>
    intro ho hp hm
    obtain ⟨hm', hres⟩ := ih ho (hp p (.part (.head _))) hm
    refine ⟨hm', fun b hb => ⟨(hres b hb).1, ?_⟩⟩
    cases b with
    | true => exact absurd hb hne
    | false => exact fun h => (hres false hb).2 h.1
  | @andSecond o key p q m m' res m'' _ _ ihp ihq =>
    intro ho hp hm
    obtain ⟨hm', hresp⟩ := ihp ho (hp p (.part (.head _))) hm
    obtain ⟨hm'', hresq⟩ := ihq ho (hp q (.part (.tail _ (.head _)))) hm'
    refine ⟨hm'', fun b hb => ⟨(hresq b hb).1.trans (hresp true rfl).1, ?_⟩⟩
    obtain ⟨-, hq⟩ := hresq b hb
    cases b with
    | true => exact ⟨(hresp true rfl).2, hq⟩
    | false => exact fun h => hq h.2
  | sequenceNil =>
    intro _ _ hm
    refine ⟨hm, ?_⟩
    rintro b ⟨⟩
    exact ⟨.refl _, fun p hp => nomatch hp⟩
  | @sequenceFirst o key p ps m res m' _ hne ih =>
    intro ho hp hm
    obtain ⟨hm', hres⟩ := ih ho (hp p (.part (.head _))) hm
    refine ⟨hm', fun b hb => ⟨(hres b hb).1, ?_⟩⟩
    cases b with
    | true => exact absurd hb hne
    | false => exact fun h => (hres false hb).2 (h p (.head _))
  | @sequenceNext o key p ps m m' res m'' _ _ ihp ihps =>
    intro ho hp hm
    obtain ⟨hm', hresp⟩ := ihp ho (hp p (.part (.head _))) hm
    obtain ⟨hm'', hresq⟩ := ihps ho (fun r hr => hp r hr.tail) hm'
    refine ⟨hm'', fun b hb => ⟨(hresq b hb).1.trans (hresp true rfl).1, ?_⟩⟩
    obtain ⟨-, hq⟩ := hresq b hb
    cases b with
    | true => exact List.forall_mem_cons.2 ⟨(hresp true rfl).2, hq⟩
    | false => exact fun h => hq (List.forall_mem_cons.1 h).2
  | @bound o key rule owning p m res m' hb _ ih =>
    intro ho hp hm
    have hbw : w.binding rule = .bound p := by rw [hw rule (by simp [hb]), hb]
    obtain ⟨hm', hres⟩ := ih ho (hp p (.definition hbw)) hm
    refine ⟨hm', fun b hb' => ⟨(hres b hb').1, ?_⟩⟩
    have hb'' := (hres b hb').2
    cases b with
    | true =>
      change (w.binding rule).value _ _
      rw [hbw]
      exact hb''
    | false =>
      change ¬(w.binding rule).value _ _
      rw [hbw]
      exact hb''
  | @unset o key rule owning m hb =>
    intro _ _ hm
    refine ⟨hm, ?_⟩
    rintro b ⟨⟩
    have hbw : w.binding rule = .unset := by rw [hw rule (by simp [hb]), hb]
    -- at depth 0, a rule without a definition counts as one that does not accept empty input
    refine ⟨covers_zero _, ?_⟩
    change ¬(w.binding rule).value _ _
    rw [hbw]
    exact fun h => h rfl
  | released =>
    intro _ _ hm
    exact ⟨hm, by rintro b ⟨⟩⟩

/-- The answer to a question is right on the assumption that the parsers that were being asked about
when an earlier question was broken off do not accept empty input. -/
theorem sound_acceptsEmpty {g w : Grammar τ} {D : Parser τ → Prop} (hw : w.Keeps g)
    (hD : w.Pool D) {p : Parser τ} (hp : D p) {m : Memory} (hm : m.Sound w D) :
    (p.acceptsEmpty g m).2.Sound w D ∧ ∀ b, (p.acceptsEmpty g m).1 = .ok b →
      (Question.ask p).Meets w m.opened (some 0) b := by
  have h := answers_ask g p m
  generalize (p.acceptsEmpty g m).1 = res at h
  generalize (p.acceptsEmpty g m).2 = m' at h
  -- the outermost question is not one of the induction: it forgets its assumptions
  cases h with
  | known h =>
    refine ⟨hm, ?_⟩
    rintro b ⟨⟩
    exact Question.meets_of_settled (hm.settled hD hp h)
  | assumed h hd =>
    refine ⟨hm, ?_⟩
    rintro b ⟨⟩
    exact fun hp' => (solutionUnder_iff.1 hp').1 ⟨0, _, rfl, hd, Nat.zero_le _⟩
  | asked h hd hc =>
    obtain ⟨hm', hres⟩ := hc.sound hw hD (by simp) (fun r hr => hD.leads hp hr) hm
    have hmeets := (hres _ rfl).2.ask hD hp
    refine ⟨hm'.settle hp (fun hs => hmeets.settled hs) m.assumed, ?_⟩
    rintro b ⟨⟩
    exact hmeets.covers (covers_zero _)
  | askedFault h hd hc =>
    obtain ⟨hm', -⟩ := hc.sound hw hD (by simp) (fun r hr => hD.leads hp hr) hm
    exact ⟨hm', by rintro b ⟨⟩⟩

/-- An answer is the value in the least solution unless it may rest on a question that was broken
off. -/
theorem Question.Meets.iff {w : Grammar τ} {o : Opened} {p : Parser τ} {b : Bool}
    (h : (Question.ask p).Meets w o (some 0) b)
    (havoid : ∀ q, w.Reaches p q → q.key ∉ o.keys) : b = true ↔ w.leastSolution p := by
  cases b with
  | true => exact iff_of_true rfl h
  | false =>
    refine iff_of_false (by simp) fun hp => h ?_
    rw [← solutionUnder_empty] at hp
    have hp' : w.solutionUnder ∅ (some 0 ≠ some 0) p := solutionUnder_mono (le_refl _) False.elim hp
    exact solutionUnder_of_avoids
      (fun q hq hmem => havoid q hq (Opened.mem_assumptions_zero.1 hmem)) hp'

/-- What is remembered is never changed. -/
theorem Answers.answers_eq {g : Grammar τ} {o : Opened} {q : Question τ} {m m' : Memory}
    {res : Except Fault Bool} (h : Answers g o q m res m') {key : Key} {b : Bool} :
    m.answers[key]? = some b → m'.answers[key]? = some b := by
  induction h with
  | known | assumed | plain | sequenceNil | unset | released => exact id
  | @asked _ p _ c m' _ _ _ ih =>
    intro hb
    have hb' := ih hb
    unfold Memory.settle
    simp only
    split
    · rw [Std.HashMap.getElem?_insertIfNew, if_neg, hb']
      rintro ⟨hkey, hnew⟩
      obtain rfl : p.key = key := by simpa using hkey
      exact hnew (Std.HashMap.mem_iff_isSome_getElem?.2 (by rw [hb']; rfl))
    · exact hb'
  | askedFault _ _ _ ih | modified _ _ ih | observed _ ih | orFirst _ _ ih | andFirst _ _ ih
  | sequenceFirst _ _ ih | bound _ _ ih => exact ih
  | orSecond _ _ ihp ihq | andSecond _ _ ihp ihq | sequenceNext _ _ ihp ihq =>
    exact fun hb => ihq (ihp hb)

end GuardedParsing
