import GuardedParsing.Emptiness
import GuardedParsing.Proofs.Graph

/-!
# Asking whether a parser accepts empty input, rule by rule

The answering of questions as a relation, with one rule for each way in which a question is
answered. As the rules say all that a question can do, a fact about all questions is an induction
over them.

* `answers_ask`: putting a question is one of the ways of answering it.
* `Question.Passes`, `Question.Splits`: the questions that one part settles, and those that one
  part settles or leaves to another.
* `Answers.functional`: there is only one way of answering a question.
* `Answers.exists_ok`: a question about a parser that reaches no released rule is not broken off.
-/

namespace GuardedParsing

/-- What is being worked on: a question about a parser, or the answer for a parser from the
answers for its parts. -/
inductive Question (τ : Type) where
  | ask (p : Parser τ)
  | consult (p : Parser τ)

/-- The parser that a question is about. -/
def Question.parser {τ : Type} : Question τ → Parser τ
  | ask p => p
  | consult p => p

variable {τ : Type}

open GuardedParsing.Parser Question in
/-- `Answers g opened question m res m'`: while the parsers of `opened` are being asked about, the
answer to the question is `res`, and the memory `m` becomes `m'`. -/
inductive Answers (g : Grammar τ) :
    Opened → Question τ → Memory → Except Fault Bool → Memory → Prop
  -- a question: an answer that is known, an assumption, or the answer from the parts
  | known {opened p m b} (h : m.answer? p = some b) : Answers g opened (ask p) m (.ok b) m
  | assumed {opened p m depth} (h : m.answer? p = none)
      (hd : opened.depthOf? p.key = some depth) :
      Answers g opened (ask p) m (.ok false) (m.assume depth)
  | asked {opened p m b m'} (h : m.answer? p = none) (hd : opened.depthOf? p.key = none)
      (hc : Answers g (opened.push p.key) (consult p) m.suspend.2 (.ok b) m') :
      Answers g opened (ask p) m (.ok b) (m'.settle p.key (opened.size + 1) m.assumed b)
  | askedFault {opened p m fault m'} (h : m.answer? p = none)
      (hd : opened.depthOf? p.key = none)
      (hc : Answers g (opened.push p.key) (consult p) m.suspend.2 (.error fault) m') :
      Answers g opened (ask p) m (.error fault) m'
  -- the parts are asked in order, and only as far as they matter
  | plain {opened p m b} (h : p.acceptsEmpty? = some b) :
      Answers g opened (consult p) m (.ok b) m
  | modified {opened key mod p m res m'} (hmod : mod.acceptsEmpty? = none)
      (hp : Answers g opened (ask p) m res m') :
      Answers g opened (consult (modified key mod p)) m res m'
  | observed {opened key name p m res m'} (hp : Answers g opened (ask p) m res m') :
      Answers g opened (consult (observed key name p)) m res m'
  | orFirst {opened key p q m res m'} (hp : Answers g opened (ask p) m res m')
      (hres : res ≠ .ok false) : Answers g opened (consult (or key p q)) m res m'
  | orSecond {opened key p q m m' res m''} (hp : Answers g opened (ask p) m (.ok false) m')
      (hq : Answers g opened (ask q) m' res m'') :
      Answers g opened (consult (or key p q)) m res m''
  | andFirst {opened key p q m res m'} (hp : Answers g opened (ask p) m res m')
      (hres : res ≠ .ok true) : Answers g opened (consult (and key p q)) m res m'
  | andSecond {opened key p q m m' res m''} (hp : Answers g opened (ask p) m (.ok true) m')
      (hq : Answers g opened (ask q) m' res m'') :
      Answers g opened (consult (and key p q)) m res m''
  | sequenceNil {opened key m} : Answers g opened (consult (sequence key [])) m (.ok true) m
  | sequenceFirst {opened key p ps m res m'} (hp : Answers g opened (ask p) m res m')
      (hres : res ≠ .ok true) : Answers g opened (consult (sequence key (p :: ps))) m res m'
  | sequenceNext {opened key p ps m m' res m''} (hp : Answers g opened (ask p) m (.ok true) m')
      (hps : Answers g opened (consult (sequence key ps)) m' res m'') :
      Answers g opened (consult (sequence key (p :: ps))) m res m''
  -- a reference asks the definition of its rule
  | bound {opened key rule owning p m res m'} (hb : g.binding rule = .bound p)
      (hp : Answers g opened (ask p) m res m') :
      Answers g opened (consult (refer key rule owning)) m res m'
  | unset {opened key rule owning m} (hb : g.binding rule = .unset) :
      Answers g opened (consult (refer key rule owning)) m (.ok false) { m with assumed := some 0 }
  | released {opened key rule owning m} (hb : g.binding rule = .released) :
      Answers g opened (consult (refer key rule owning)) m (.error .released) { m with opened }

/-- A question is answered if the consultation that it may start is. -/
theorem answers_ask_of_consult {g : Grammar τ} {opened : Opened} {p : Parser τ}
    (hc : opened.depthOf? p.key = none → ∀ m, Answers g (opened.push p.key) (.consult p) m
      ((p.consult g (opened.push p.key)).value.runFrom m).1
      ((p.consult g (opened.push p.key)).value.runFrom m).2) (m : Memory) :
    Answers g opened (.ask p) m
      ((Query.ask opened p fun _ => p.consult g (opened.push p.key)).value.runFrom m).1
      ((Query.ask opened p fun _ => p.consult g (opened.push p.key)).value.runFrom m).2 := by
  rw [Query.ask, Trampoline.value_more, Trampoline.runFrom_bind, Trampoline.value_exchange,
    Effect.runFrom_modifyGet]
  rcases h : m.answer? p with _ | b
  · simp only
    split
    · rename_i depth hd
      exact .assumed h hd
    · rename_i hd
      have hm := hc hd m.suspend.2
      rw [Trampoline.runFrom_bind, Trampoline.value_exchange, Effect.runFrom_modifyGet]
      simp only
      rw [Trampoline.runFrom_bind]
      rcases hr : (p.consult g (opened.push p.key)).value.runFrom m.suspend.2 with ⟨fault | b, m'⟩ <;>
        rw [hr] at hm
      · exact .askedFault h hd hm
      · exact .asked h hd hm
  · exact .known h

/-- Consulting the parts of a parser gives its answer. -/
theorem answers_consult (g : Grammar τ) (opened : Opened) (p : Parser τ) (m : Memory) :
    Answers g opened (.consult p) m ((p.consult g opened).value.runFrom m).1
      ((p.consult g opened).value.runFrom m).2 := by
  refine Parser.consult.induct g
    (fun opened p => ∀ m, Answers g opened (.consult p) m ((p.consult g opened).value.runFrom m).1
      ((p.consult g opened).value.runFrom m).2)
    (fun opened ps => ∀ key m, Answers g opened (.consult (.sequence key ps)) m
      ((Parser.consultAll g opened ps).value.runFrom m).1
      ((Parser.consultAll g opened ps).value.runFrom m).2)
    ?primitive ?constant ?modified ?observed ?or ?and ?sequence ?many ?bound ?unset ?released
    ?nil ?cons opened p m
  case primitive =>
    intro opened key leaf m
    rw [Parser.consult]
    exact .plain rfl
  case constant =>
    intro opened key mod p known hmod m
    rw [Parser.consult]
    simp only [hmod]
    exact .plain hmod
  case modified =>
    intro opened key mod p hmod ih m
    rw [Parser.consult]
    simp only [hmod]
    exact .modified hmod (answers_ask_of_consult (fun _ => ih) m)
  case observed =>
    intro opened key name p ih m
    rw [Parser.consult]
    exact .observed (answers_ask_of_consult (fun _ => ih) m)
  case or =>
    intro opened key p q ihp ihq m
    have hp := answers_ask_of_consult (fun _ => ihp) m
    rw [Parser.consult, Trampoline.runFrom_bind]
    rcases hr : (Query.ask opened p fun _ => p.consult g (opened.push p.key)).value.runFrom m with
      ⟨fault | _ | _, m'⟩ <;> rw [hr] at hp
    · exact .orFirst hp (by simp)
    · exact .orSecond hp (answers_ask_of_consult (fun _ => ihq) m')
    · exact .orFirst hp (by simp)
  case and =>
    intro opened key p q ihp ihq m
    have hp := answers_ask_of_consult (fun _ => ihp) m
    rw [Parser.consult, Trampoline.runFrom_bind]
    rcases hr : (Query.ask opened p fun _ => p.consult g (opened.push p.key)).value.runFrom m with
      ⟨fault | _ | _, m'⟩ <;> rw [hr] at hp
    · exact .andFirst hp (by simp)
    · exact .andFirst hp (by simp)
    · exact .andSecond hp (answers_ask_of_consult (fun _ => ihq) m')
  case sequence =>
    intro opened key ps ih m
    rw [Parser.consult]
    exact ih key m
  case many =>
    intro opened key p m
    rw [Parser.consult]
    exact .plain rfl
  case bound =>
    intro opened key rule owning p hb ih m
    rw [Parser.consult]
    split
    · rename_i p' hb'
      rw [hb] at hb'
      cases hb'
      exact .bound hb (answers_ask_of_consult ih m)
    · simp_all
    · simp_all
  case unset =>
    intro opened key rule owning hb m
    rw [Parser.consult]
    split
    · simp_all
    · exact .unset hb
    · simp_all
  case released =>
    intro opened key rule owning hb m
    rw [Parser.consult]
    split
    · simp_all
    · simp_all
    · exact .released hb
  case nil =>
    intro opened key m
    rw [Parser.consultAll]
    exact .sequenceNil
  case cons =>
    intro opened p ps ihp ihps key m
    have hp := answers_ask_of_consult (fun _ => ihp) m
    rw [Parser.consultAll, Trampoline.runFrom_bind]
    rcases hr : (Query.ask opened p fun _ => p.consult g (opened.push p.key)).value.runFrom m with
      ⟨fault | _ | _, m'⟩ <;> rw [hr] at hp
    · exact .sequenceFirst hp (by simp)
    · exact .sequenceFirst hp (by simp)
    · exact .sequenceNext hp (ihps key m')

/-- **Putting a question is answering it.** -/
theorem answers_ask (g : Grammar τ) (p : Parser τ) (m : Memory) :
    Answers g m.opened (.ask p) m (p.acceptsEmpty g m).1 (p.acceptsEmpty g m).2 := by
  rw [Parser.acceptsEmpty, Trampoline.run_eq_value]
  exact answers_ask_of_consult (fun _ => answers_consult g _ p) m

namespace Question

/-- The answer is that to the question about one other parser. -/
inductive Passes (g : Grammar τ) : Question τ → Parser τ → Prop
  | modified {key mod p} (hmod : mod.acceptsEmpty? = none) :
      Passes g (consult (.modified key mod p)) p
  | observed {key name p} : Passes g (consult (.observed key name p)) p
  | bound {key rule owning p} (hb : g.binding rule = .bound p) :
      Passes g (consult (.refer key rule owning)) p

/-- The question about `p` comes first. Its answer is the answer, unless it is `b`: then the
question `rest` is put as well, and decides. -/
inductive Splits : Question τ → Parser τ → Bool → Question τ → Prop
  | or {key p q} : Splits (consult (.or key p q)) p false (ask q)
  | and {key p q} : Splits (consult (.and key p q)) p true (ask q)
  | sequence {key p ps} :
      Splits (consult (.sequence key (p :: ps))) p true (consult (.sequence key ps))

variable {g : Grammar τ} {opened : Opened} {q rest : Question τ} {p : Parser τ} {b : Bool}
  {m m' : Memory} {res : Except Fault Bool}

theorem Passes.answers (hq : q.Passes g p) (h : Answers g opened q m res m') :
    Answers g opened (ask p) m res m' := by
  cases hq with
  | modified hmod =>
    cases h with
    | plain h' => cases hmod.symm.trans h'
    | modified _ hp => exact hp
  | observed =>
    cases h with
    | plain h' => cases h'
    | observed hp => exact hp
  | bound hb =>
    cases h with
    | plain h' => cases h'
    | bound hb' hp =>
      cases hb.symm.trans hb'
      exact hp
    | unset hb' | released hb' => cases hb.symm.trans hb'

theorem Splits.answers (hq : q.Splits p b rest) (h : Answers g opened q m res m') :
    (Answers g opened (ask p) m res m' ∧ res ≠ .ok b) ∨
      ∃ m₁, Answers g opened (ask p) m (.ok b) m₁ ∧ Answers g opened rest m₁ res m' := by
  cases hq with
  | or =>
    cases h with
    | plain h' => cases h'
    | orFirst hp hres => exact .inl ⟨hp, hres⟩
    | orSecond hp hrest => exact .inr ⟨_, hp, hrest⟩
  | and =>
    cases h with
    | plain h' => cases h'
    | andFirst hp hres => exact .inl ⟨hp, hres⟩
    | andSecond hp hrest => exact .inr ⟨_, hp, hrest⟩
  | sequence =>
    cases h with
    | plain h' => cases h'
    | sequenceFirst hp hres => exact .inl ⟨hp, hres⟩
    | sequenceNext hp hrest => exact .inr ⟨_, hp, hrest⟩

end Question

/-- **A question has one answer, and leaves one memory.** -/
theorem Answers.functional {g : Grammar τ} {opened : Opened} {q : Question τ} {m m₁ : Memory}
    {res₁ : Except Fault Bool} (h₁ : Answers g opened q m res₁ m₁) :
    ∀ {res₂ m₂}, Answers g opened q m res₂ m₂ → res₁ = res₂ ∧ m₁ = m₂ := by
  induction h₁ with
  | known h | assumed h hd =>
    intro res₂ m₂ h₂
    cases h₂ <;> simp_all
  | asked h hd _ ih =>
    intro res₂ m₂ h₂
    cases h₂ with
    | known h' | assumed _ h' => simp_all
    | asked _ _ hc' =>
      obtain ⟨hres, rfl⟩ := ih hc'
      cases hres
      exact ⟨rfl, rfl⟩
    | askedFault _ _ hc' => cases (ih hc').1
  | askedFault h hd _ ih =>
    intro res₂ m₂ h₂
    cases h₂ with
    | known h' | assumed _ h' => simp_all
    | asked _ _ hc' => cases (ih hc').1
    | askedFault _ _ hc' => exact ih hc'
  | plain h =>
    intro res₂ m₂ h₂
    cases h₂ <;> simp_all [Parser.acceptsEmpty?]
  | modified hmod _ ih => exact fun h₂ => ih (Question.Passes.answers (.modified hmod) h₂)
  | observed _ ih => exact fun h₂ => ih (Question.Passes.answers .observed h₂)
  | bound hb _ ih => exact fun h₂ => ih (Question.Passes.answers (.bound hb) h₂)
  -- the answer for the first part decides whether there is a second question
  | orFirst _ hres ih =>
    intro res₂ m₂ h₂
    rcases Question.Splits.or.answers h₂ with ⟨hp, -⟩ | ⟨m', hp, -⟩
    · exact ih hp
    · exact absurd (ih hp).1 hres
  | andFirst _ hres ih =>
    intro res₂ m₂ h₂
    rcases Question.Splits.and.answers h₂ with ⟨hp, -⟩ | ⟨m', hp, -⟩
    · exact ih hp
    · exact absurd (ih hp).1 hres
  | sequenceFirst _ hres ih =>
    intro res₂ m₂ h₂
    rcases Question.Splits.sequence.answers h₂ with ⟨hp, -⟩ | ⟨m', hp, -⟩
    · exact ih hp
    · exact absurd (ih hp).1 hres
  | orSecond _ _ ihp ihq =>
    intro res₂ m₂ h₂
    rcases Question.Splits.or.answers h₂ with ⟨hp, hres⟩ | ⟨m', hp, hq⟩
    · exact absurd (ihp hp).1.symm hres
    · obtain ⟨-, rfl⟩ := ihp hp
      exact ihq hq
  | andSecond _ _ ihp ihq =>
    intro res₂ m₂ h₂
    rcases Question.Splits.and.answers h₂ with ⟨hp, hres⟩ | ⟨m', hp, hq⟩
    · exact absurd (ihp hp).1.symm hres
    · obtain ⟨-, rfl⟩ := ihp hp
      exact ihq hq
  | sequenceNext _ _ ihp ihps =>
    intro res₂ m₂ h₂
    rcases Question.Splits.sequence.answers h₂ with ⟨hp, hres⟩ | ⟨m', hp, hps⟩
    · exact absurd (ihp hp).1.symm hres
    · obtain ⟨-, rfl⟩ := ihp hp
      exact ihps hps
  | sequenceNil =>
    intro res₂ m₂ h₂
    cases h₂ with
    | plain h' => cases h'
    | sequenceNil => exact ⟨rfl, rfl⟩
  | unset hb =>
    intro res₂ m₂ h₂
    cases h₂ with
    | plain h' => cases h'
    | bound hb' | released hb' => cases hb.symm.trans hb'
    | unset => exact ⟨rfl, rfl⟩
  | released hb =>
    intro res₂ m₂ h₂
    cases h₂ with
    | plain h' => cases h'
    | bound hb' | unset hb' => cases hb.symm.trans hb'
    | released => exact ⟨rfl, rfl⟩

/-- A question that is answered leaves nothing open. -/
theorem Answers.opened_eq {g : Grammar τ} {opened : Opened} {q : Question τ} {m m' : Memory}
    {res : Except Fault Bool} (h : Answers g opened q m res m') :
    ∀ b, res = .ok b → m'.opened = m.opened := by
  induction h with
  | known | assumed | plain | sequenceNil | unset => exact fun _ _ => rfl
  | asked _ _ _ ih => exact fun _ _ => ih _ rfl
  | askedFault _ _ _ ih => exact ih
  | modified _ _ ih | observed _ ih | orFirst _ _ ih | andFirst _ _ ih | sequenceFirst _ _ ih
  | bound _ _ ih => exact ih
  | orSecond _ _ ihp ihq | andSecond _ _ ihp ihq | sequenceNext _ _ ihp ihq =>
    exact fun b hb => (ihq b hb).trans (ihp _ rfl)
  | released => rintro b ⟨⟩

theorem Answers.exists_ok {g : Grammar τ} {opened : Opened} {q : Question τ} {m m' : Memory}
    {res : Except Fault Bool} (h : Answers g opened q m res m') (hq : g.Unreleased q.parser) :
    ∃ b, res = .ok b := by
  induction h with
  | known | assumed | plain | sequenceNil | unset => exact ⟨_, rfl⟩
  | asked => exact ⟨_, rfl⟩
  | askedFault _ _ _ ih => exact ih hq
  | modified _ _ ih => exact ih (hq.part (.head _))
  | observed _ ih => exact ih (hq.part (.head _))
  | orFirst _ _ ih => exact ih (hq.part (.head _))
  | orSecond _ _ _ ih => exact ih (hq.part (.tail _ (.head _)))
  | andFirst _ _ ih => exact ih (hq.part (.head _))
  | andSecond _ _ _ ih => exact ih (hq.part (.tail _ (.head _)))
  | sequenceFirst _ _ ih => exact ih (hq.part (.head _))
  | sequenceNext _ _ _ ih => exact ih hq.tail
  | bound hb _ ih => exact ih (hq.definition hb)
  | released hb => exact absurd hb hq.binding

/-- Only a released rule breaks a question off. -/
theorem Answers.eq_released {g : Grammar τ} {opened : Opened} {q : Question τ} {m m' : Memory}
    {res : Except Fault Bool} (h : Answers g opened q m res m') :
    ∀ fault, res = .error fault → fault = .released := by
  induction h with
  | known | assumed | asked | plain | sequenceNil | unset => exact fun _ h => by cases h
  | askedFault _ _ _ ih | modified _ _ ih | observed _ ih | orFirst _ _ ih | andFirst _ _ ih
  | sequenceFirst _ _ ih | bound _ _ ih => exact ih
  | orSecond _ _ _ ih | andSecond _ _ _ ih | sequenceNext _ _ _ ih => exact ih
  | released => exact fun _ h => (Except.error.inj h).symm

/-- The parsers that a broken off question leaves open reach a released rule, all of them. -/
theorem Answers.opened_of_error {g : Grammar τ} {opened : Opened} {q : Question τ} {m m' : Memory}
    {res : Except Fault Bool} (h : Answers g opened q m res m') :
    ∀ fault, res = .error fault → ∀ key ∈ m'.opened.keys,
      key ∈ opened.keys ∨ ∃ p, g.Reaches q.parser p ∧ p.key = key ∧ ¬g.Unreleased p := by
  induction h with
  | known | assumed | asked | plain | sequenceNil | unset => exact fun _ h => by cases h
  | @askedFault opened p m fault m' h hd hc ih =>
    intro fault' _ key hkey
    rcases ih fault rfl key hkey with hmem | hp
    · rcases List.mem_cons.1 hmem with rfl | hmem
      · refine .inr ⟨p, .refl, rfl, fun hp => ?_⟩
        obtain ⟨b, hb⟩ := hc.exists_ok hp
        cases hb
      · exact .inl hmem
    · exact .inr hp
  | modified _ _ ih | observed _ ih | orFirst _ _ ih | andFirst _ _ ih | sequenceFirst _ _ ih =>
    exact fun fault hf key hkey => (ih fault hf key hkey).imp_right fun ⟨p, hp, h⟩ =>
      ⟨p, .head (.part (.head _)) hp, h⟩
  | orSecond _ _ _ ih | andSecond _ _ _ ih =>
    exact fun fault hf key hkey => (ih fault hf key hkey).imp_right fun ⟨p, hp, h⟩ =>
      ⟨p, .head (.part (.tail _ (.head _))) hp, h⟩
  | @sequenceNext opened key p ps m m' res m'' _ _ _ ih =>
    intro fault hf k hk
    refine (ih fault hf k hk).imp_right fun ⟨r, hr, hkey, hun⟩ => ?_
    -- the rest of the sequence is no parser of its own: the sequence stands for it
    rcases Relation.ReflTransGen.cases_head hr with rfl | ⟨r', hl, hr'⟩
    · exact ⟨_, .refl, hkey, fun h => hun h.tail⟩
    · exact ⟨r, .head hl.tail hr', hkey, hun⟩
  | bound hb _ ih =>
    exact fun fault hf key hkey => (ih fault hf key hkey).imp_right fun ⟨p, hp, h⟩ =>
      ⟨p, .head (.definition hb) hp, h⟩
  | released => exact fun _ _ key hkey => .inl hkey

end GuardedParsing
