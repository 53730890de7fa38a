import GuardedParsing.Proofs.Interruption
import GuardedParsing.Proofs.Remembering

/-!
# What a question leaves behind

While a question is answered, the memory says which parsers are being asked about and how deep the
assumptions of the answer in the making go. An answer takes all of this back. A question that a
released rule breaks off takes nothing back: its parser stays among those that are being asked
about, and the same question, put again, is answered with the assumption about itself.

* `Memory.AtRest.acceptsEmpty`: a question that is answered leaves a memory at rest as it finds it.
* `asked_again`: **after a question was broken off, the same question is answered**, in whatever
  grammar.
* `bookkeeping_restored_by_answers`: the same of sessions, questions, stops and parses.
* `broken_question_is_answered_again`: a session in which this happens.
-/

namespace GuardedParsing

variable {τ : Type}

/-- No parser is being asked about, and no assumption is on record. -/
structure Memory.AtRest (m : Memory) : Prop where
  keys_eq : m.opened.keys = []
  assumed_eq : m.assumed = none

section Questions

variable {g : Grammar τ} {p : Parser τ} {m : Memory}

/-- **A question that is answered leaves a memory at rest at rest.** -/
theorem Memory.AtRest.acceptsEmpty (hm : m.AtRest) {b : Bool}
    (hb : (p.acceptsEmpty g m).1 = .ok b) : (p.acceptsEmpty g m).2.AtRest := by
  have hans := answers_ask g p m
  have hopened := hans.opened_eq b hb
  generalize (p.acceptsEmpty g m).1 = res at hb hans
  generalize (p.acceptsEmpty g m).2 = m' at hopened hans ⊢
  refine ⟨by rw [hopened, hm.keys_eq], ?_⟩
  cases hans with
  | known => exact hm.assumed_eq
  | assumed _ hd =>
    rw [Opened.depthOf?_eq, hm.keys_eq] at hd
    cases hd
  -- the outermost question, at depth 1, forgets its assumptions
  | asked =>
    have hsize : m.opened.size + 1 = 1 := by rw [m.opened.size_eq, hm.keys_eq]; rfl
    simp only [Memory.settle, hsize, if_true]
  | askedFault => cases hb

/-- A question that is broken off closes none of the questions around it. -/
theorem Answers.subset_opened {opened : Opened} {q : Question τ} {m m' : Memory}
    {res : Except Fault Bool} (h : Answers g opened q m res m') :
    ∀ fault, res = .error fault → opened.keys ⊆ m'.opened.keys := by
  induction h with
  | known | assumed | asked | plain | sequenceNil | unset => exact fun _ h => by cases h
  | @askedFault _ p _ _ _ _ _ _ ih =>
    exact fun fault hf => List.Subset.trans (List.subset_cons_self p.key _) (ih fault hf)
  | modified _ _ ih | observed _ ih | orFirst _ _ ih | andFirst _ _ ih | sequenceFirst _ _ ih
  | bound _ _ ih => exact ih
  | orSecond _ _ _ ih | andSecond _ _ _ ih | sequenceNext _ _ _ ih => exact ih
  | released => exact fun _ _ => fun _ h => h

/-- Nothing is remembered about a parser while it is being asked about. -/
theorem Answers.answers_eq_none {opened : Opened} {q : Question τ} {m m' : Memory}
    {res : Except Fault Bool} (h : Answers g opened q m res m') {key : Key} :
    key ∈ opened.keys → m.answers[key]? = none → m'.answers[key]? = none := by
  induction h with
  | known | assumed | plain | sequenceNil | unset | released => exact fun _ h => h
  | @asked opened p _ b m' _ hd _ ih =>
    intro hkey hnone
    have hnone' := ih (.tail _ hkey) hnone
    -- what is settled is the question about another parser
    have hne : p.key ≠ key := by
      rintro rfl
      exact Opened.depthOf?_eq_none_iff.1 hd hkey
    simp only [Memory.settle]
    split
    · rw [Std.HashMap.getElem?_insertIfNew, if_neg, hnone']
      rintro ⟨heq, -⟩
      exact hne (by simpa using heq)
    · exact hnone'
  | askedFault _ _ _ ih => exact fun hkey => ih (.tail _ hkey)
  | modified _ _ ih | observed _ ih | orFirst _ _ ih | andFirst _ _ ih | sequenceFirst _ _ ih
  | bound _ _ ih => exact ih
  | orSecond _ _ ihp ihq | andSecond _ _ ihp ihq | sequenceNext _ _ ihp ihq =>
    exact fun hkey hnone => ihq hkey (ihp hkey hnone)

/-- A question about a parser that is being asked about already is answered with the assumption that
it does not accept empty input, and nothing is remembered about it. -/
theorem acceptsEmpty_of_mem_opened (h : m.answer? p = none) (hkey : p.key ∈ m.opened.keys) :
    (p.acceptsEmpty g m).1 = .ok false ∧ (p.acceptsEmpty g m).2.answer? p = none := by
  rcases hd : m.opened.depthOf? p.key with _ | depth
  · exact absurd hkey (Opened.depthOf?_eq_none_iff.1 hd)
  · obtain ⟨hres, hm⟩ := (answers_ask g p m).functional (.assumed h hd)
    rw [hres, hm]
    exact ⟨rfl, h⟩

/-- A question that is broken off leaves its parser open and not remembered. -/
theorem open_of_error {fault : Fault} (h : (p.acceptsEmpty g m).1 = .error fault) :
    p.key ∈ (p.acceptsEmpty g m).2.opened.keys ∧ (p.acceptsEmpty g m).2.answer? p = none := by
  have hans := answers_ask g p m
  rw [h] at hans
  generalize (p.acceptsEmpty g m).2 = m' at hans ⊢
  cases hans with
  | askedFault hnone hd hc =>
    obtain ⟨hplain, hanswer⟩ := Option.or_eq_none_iff.1 hnone
    have hanswer' := hc.answers_eq_none (.head _) hanswer
    exact ⟨hc.subset_opened fault rfl (.head _), Option.or_eq_none_iff.2 ⟨hplain, hanswer'⟩⟩

/-- **A question that was broken off is answered when it is put again**, whatever became of the
grammar: its parser still counts as being asked about. -/
theorem asked_again {fault : Fault} (h : (p.acceptsEmpty g m).1 = .error fault) :
    p.key ∈ (p.acceptsEmpty g m).2.opened.keys ∧
      ∀ g' : Grammar τ, (p.acceptsEmpty g' (p.acceptsEmpty g m).2).1 = .ok false := by
  obtain ⟨hkey, hnone⟩ := open_of_error h
  exact ⟨hkey, fun g' => (acceptsEmpty_of_mem_opened hnone hkey).1⟩

end Questions

variable [Token τ]

/-- A parse that no released rule breaks off leaves a memory at rest at rest. -/
theorem Memory.AtRest.parse {g : Grammar τ} {p : Parser τ} {c : Cursor τ} {a : Account}
    (ha : a.memory.AtRest) (h : (p.parse g c a).1 ≠ .error .released) :
    (p.parse g c a).2.memory.AtRest := by
  obtain ⟨res, happ, hres⟩ := applies_parse g p c a
  refine happ.preserves_of_ne_released (fun part m b hb hm => hm.acceptsEmpty hb) ?_ ha
  rintro rfl
  exact h hres

namespace Session

variable {s s' : Session τ}

/-- A step without the use of a released rule leaves a memory at rest at rest. -/
theorem Step.atRest {f : Option Fault} (h : Step s f s') (hf : f ≠ some .released)
    (hs : s.memory.AtRest) : s'.memory.AtRest := by
  cases h with
  | node | newRule | define | release => exact hs
  | @ask p _ =>
    rcases hr : (p.acceptsEmpty s.grammar s.memory).1 with fault | b
    · obtain rfl := (answers_ask s.grammar p s.memory).eq_released fault hr
      rw [hr] at hf
      exact absurd rfl hf
    · exact hs.acceptsEmpty hr
  | parse =>
    refine Memory.AtRest.parse (a := { memory := s.memory }) hs fun h => hf ?_
    rw [h]
    rfl

/-- **Without the use of a released rule, the memory is at rest between the steps of a session.** -/
theorem QuietlyReachable.atRest (h : s.QuietlyReachable) : s.memory.AtRest := by
  induction h with
  | refl => exact ⟨rfl, rfl⟩
  | tail _ hstep ih =>
    obtain ⟨f, hf, hstep⟩ := hstep
    exact hstep.atRest hf ih

end Session

/-- **Answers restore the bookkeeping, and nothing else does.** Between the steps of a session in
which no released rule was used, no question is open and no assumption is on record. A question that
is answered leaves open what was open before it, and a memory at rest at rest. A question that is
broken off, by a released rule, leaves its parser open, and the same question is answered from then
on, in whatever grammar. The stop of a repetition treats the memory as a question does, so that a
parse that is not broken off leaves a memory at rest at rest. -/
theorem bookkeeping_restored_by_answers (g : Grammar τ) (p : Parser τ) :
    (∀ s : Session τ, s.QuietlyReachable → s.memory.AtRest) ∧
    (∀ m b, (p.acceptsEmpty g m).1 = .ok b →
      (p.acceptsEmpty g m).2.opened = m.opened ∧ (m.AtRest → (p.acceptsEmpty g m).2.AtRest)) ∧
    (∀ m fault, (p.acceptsEmpty g m).1 = .error fault →
      fault = .released ∧ p.key ∈ (p.acceptsEmpty g m).2.opened.keys ∧
        ∀ g' : Grammar τ, (p.acceptsEmpty g' (p.acceptsEmpty g m).2).1 = .ok false) ∧
    (∀ position a, (p.stopRepetition g position a).2.memory = (p.acceptsEmpty g a.memory).2) ∧
    ∀ c a, a.memory.AtRest → (p.parse g c a).1 ≠ .error .released →
      (p.parse g c a).2.memory.AtRest := by
  refine ⟨fun s hs => hs.atRest, fun m b hb => ?_, fun m fault hf => ?_,
    Session.memory_stopRepetition g p, fun c a ha => ha.parse⟩
  · exact ⟨(answers_ask g p m).opened_eq b hb, fun hm => hm.acceptsEmpty hb⟩
  · exact ⟨(answers_ask g p m).eq_released fault hf, asked_again hf⟩

namespace Session

/-- A session in which the one rule was released, and a stand-in of it is still there. -/
def orphaned : Session Char where
  nodes := [.refer 0 0 false]
  grammar := #[⟨"#0", .released⟩]
  written := #[⟨"#0", .unset⟩]

theorem quietlyReachable_orphaned : orphaned.QuietlyReachable := by
  have hbuilt : QuietlyReachable ⟨orphaned.nodes, orphaned.written, orphaned.written, {}⟩ :=
    quietlyReachable_of_inOrder (by simp [InOrder, orphaned, Parser.key, Parser.parts])
      (by simp [orphaned])
  exact hbuilt.tail ⟨none, by simp, Step.release fun _ => false⟩

/-- The question about the stand-in comes to the rule at once. -/
theorem acceptsEmpty_orphaned :
    ((Parser.refer 0 0 false).acceptsEmpty orphaned.grammar orphaned.memory).1 =
      .error .released := by
  have hnone : ({} : Memory).answers[(0 : Key)]? = none := by simp
  exact (answers_ask _ _ _).unique (.askedFault hnone rfl (.released rfl))

end Session

open Session in
/-- **A question that was broken off is not broken off again.** In a session that used no released
rule, the question about a stand-in whose rule was released is broken off; it leaves the stand-in
open, and the same question is then answered. -/
theorem broken_question_is_answered_again :
    ∃ s : Session Char, s.QuietlyReachable ∧ ∃ p ∈ s.nodes,
      (p.acceptsEmpty s.grammar s.memory).1 = .error .released ∧
      ¬(p.acceptsEmpty s.grammar s.memory).2.AtRest ∧
      (p.acceptsEmpty s.grammar (p.acceptsEmpty s.grammar s.memory).2).1 = .ok false := by
  obtain ⟨hkey, hagain⟩ := asked_again acceptsEmpty_orphaned
  refine ⟨orphaned, quietlyReachable_orphaned, .refer 0 0 false, .head _, acceptsEmpty_orphaned,
    fun hrest => ?_, hagain _⟩
  rw [hrest.keys_eq] at hkey
  cases hkey

end GuardedParsing
