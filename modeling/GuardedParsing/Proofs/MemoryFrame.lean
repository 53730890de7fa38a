import GuardedParsing.Proofs.Commands
import GuardedParsing.Proofs.Interruption
import GuardedParsing.Proofs.Remembering

/-!
# Building and parsing leave what is remembered alone

What is remembered about parsers comes from questions. Whoever builds grammars puts none, so a node
that was just built is known by its kind or not at all. A parse puts one where a repetition stops at a
match of no tokens, in abandoned branches too, and nothing else in it touches what is remembered.

* `Workspace.memory_perform`: a command that neither parses nor asks keeps the memory.
* `Workspace.At.answers_eq_none`, `Workspace.At.le_key_of_new`: nothing is remembered under the key
  of a node that is new.
* `Yields.answers_parse`: a parse remembers what the questions at its stops leave.
* `memory_left_alone`: **building remembers nothing, and after a parse those answers are remembered
  that the questions at its stops left, in order; without a stop, the same as before.**
-/

namespace GuardedParsing

variable {τ : Type} [Token τ]

/-! ## Building -/

/-- The command neither parses nor puts a question. -/
def Command.Constructs : Command τ → Prop
  | parse _ _ _ | acceptsEmpty _ => False
  | _ => True

namespace Workspace

variable {w : Workspace τ}

theorem memory_build (d : Description τ) : (w.build d).2.memory = w.memory := rfl

omit [Token τ] in
theorem memory_nameKept (kept : List (String × Parser τ)) :
    (w.nameKept kept).memory = w.memory := by
  induction kept with
  | nil => rfl
  | cons x kept ih => exact ih

omit [Token τ] in
theorem memory_define (rule : RuleId) (p : Parser τ) : (w.define rule p).2.memory = w.memory := by
  rw [define]
  split <;> rfl

omit [Token τ] in
theorem memory_withRule {id : String} {act : RuleId → Response τ × Workspace τ}
    (hact : ∀ rule, (act rule).2.memory = w.memory) : (w.withRule id act).2.memory = w.memory := by
  rw [withRule]
  split
  · exact hact _
  · rfl

omit [Token τ] in
theorem memory_withParser {var : String} {act : Parser τ → Response τ × Workspace τ}
    (hact : ∀ p, (act p).2.memory = w.memory) : (w.withParser var act).2.memory = w.memory := by
  rw [withParser]
  split
  · exact hact _
  · rfl

theorem memory_buildDefinition (rule : RuleId) (d : Description τ) :
    (w.buildDefinition rule d).2.memory = w.memory := by
  have hbuild := memory_build (w := w) d
  rw [buildDefinition]
  rcases hb : w.build d with ⟨e | ⟨p, kept⟩, w₁⟩ <;> rw [hb] at hbuild
  · exact hbuild
  · have hdefine := memory_define (w := w₁.nameKept kept) rule p
    rw [memory_nameKept] at hdefine
    simp only
    rcases hd : (w₁.nameKept kept).define rule p with ⟨e | _, w₂⟩ <;> rw [hd] at hdefine <;>
      exact hdefine.trans hbuild

theorem memory_buildNamed (var : String) (d : Description τ) :
    (w.buildNamed var d).2.memory = w.memory := by
  have hbuild := memory_build (w := w) d
  rw [buildNamed]
  rcases hb : w.build d with ⟨e | ⟨p, kept⟩, w₁⟩ <;> rw [hb] at hbuild
  · exact hbuild
  · exact (memory_nameKept kept).trans hbuild

/-- **A command that neither parses nor asks keeps the memory.** -/
theorem memory_perform {c : Command τ} (hc : c.Constructs) :
    (w.perform c).2.memory = w.memory := by
  cases c with
  | newRule | dropRule | drop => rfl
  | cloneRule | showRule => exact memory_withRule fun _ => rfl
  | define id d => exact memory_withRule fun rule => memory_buildDefinition rule d
  | name var d => exact memory_buildNamed var d
  | known => exact memory_withParser fun _ => rfl
  | parse | acceptsEmpty => exact hc.elim

omit [Token τ] in
/-- Nothing is remembered under a key that no node has yet. -/
theorem At.answers_eq_none {s : Session τ} (h : w.At s) {key : Key} (hkey : w.nextKey ≤ key) :
    w.memory.answers[key]? = none := by
  rcases hb : w.memory.answers[key]? with _ | b
  · rfl
  · rw [← h.memory_eq] at hb
    obtain ⟨p, hp, hpkey, -⟩ := h.valid.sound key b hb
    obtain ⟨k, hk⟩ := List.mem_iff_getElem?.1 hp
    have hlt : k < s.nodes.length := (List.getElem?_eq_some_iff.1 hk).1
    rw [h.length_eq, ← h.valid.key_eq hk, hpkey] at hlt
    exact absurd hlt (Nat.not_lt.2 hkey)

/-- A node that is there at a later moment only has a key that no node had before. -/
theorem At.le_key_of_new {s s' : Session τ} (h : w.At s) (hs : Session.Steps s s')
    {p : Parser τ} (hp : p ∈ s'.nodes) (hnew : p ∉ s.nodes) : w.nextKey ≤ p.key := by
  by_contra hlt
  rw [← h.length_eq] at hlt
  have hlt : p.key < s.nodes.length := Nat.not_le.1 hlt
  obtain ⟨q, hq⟩ : ∃ q, s.nodes[p.key]? = some q := ⟨_, List.getElem?_eq_getElem hlt⟩
  have hmem : q ∈ s.nodes := List.mem_iff_getElem?.2 ⟨_, hq⟩
  have hvalid : s'.Valid := hs.valid h.valid
  obtain rfl := hvalid.pool.eq_of_key_eq (hs.subset hmem) hp (h.valid.key_eq hq)
  exact hnew hmem

/-- **A command that neither parses nor asks leaves the memory as it is**, so of each node that it
builds no more is known than is plain from its kind. -/
theorem exists_session_of_constructs (cs : List (Command τ)) {c : Command τ} (hc : c.Constructs) :
    ∃ s s' : Session τ, s.Reachable ∧ (after {} cs).At s ∧ Session.Steps s s' ∧
      ((after {} cs).perform c).2.At s' ∧ s'.memory = s.memory ∧
      ∀ p ∈ s'.nodes, p ∉ s.nodes → s'.memory.answer? p = p.acceptsEmpty? := by
  obtain ⟨s, hreach, hs, -⟩ := exists_session cs
  obtain ⟨s', hsteps, hs', -⟩ := hs.perform c
  have hmemory : s'.memory = s.memory := by
    rw [hs'.memory_eq, memory_perform hc, hs.memory_eq]
  refine ⟨s, s', hreach, hs, hsteps, hs', hmemory, fun p hp hnew => ?_⟩
  rw [hmemory, Memory.answer?, hs.memory_eq, hs.answers_eq_none (hs.le_key_of_new hsteps hp hnew),
    Option.or_none]

end Workspace

/-! ## Parsing -/

section Parsing

variable {g : Grammar τ} {tokens : Array τ} {active : Guard} {p : Parser τ}
  {start : Fin (tokens.size + 1)} {es : List (Encounter τ)} {a a₁ a₂ : Account}

omit [Token τ] in
theorem askAtStops_of_no_stop (h : ∀ part, .stop part ∉ es) (m : Memory) :
    g.askAtStops es m = (.ok (), m) := by
  induction es with
  | nil => rfl
  | cons e es ih =>
    cases e with
    | rule rule => exact ih fun part hpart => h part (.tail _ hpart)
    | stop part => exact absurd (.head _) (h part)

/-- What a parse leaves remembered is what the questions at its stops leave. -/
theorem Yields.answers_parse {c : Cursor τ} {res : Result c.source.tokens}
    (h : Yields g c.source.tokens ∅ p c.place es res) (a : Account) :
    (p.parse g c a).2.memory.answers = (g.askAtStops es a.memory).2.answers := by
  obtain ⟨res', happ, -⟩ := applies_parse g p c a
  cases h.realizes a with
  | interrupted hask happ' =>
    rw [hask]
    exact (happ.functional happ').2.1
  | undisturbed hask happ' =>
    rw [hask]
    exact (happ.functional happ').2.1

end Parsing

/-- **Building and parsing leave what is remembered alone.** A command that neither parses nor asks
keeps the memory, whatever was done before; of the nodes that are there after it and were not there
before, only what is plain from their kinds is known. What a parser comes across at a cursor does not
depend on the memory, and whatever a parse of it ends with, the answers that are remembered
afterwards are those that the questions at the stops that it came across leave, asked in order. If it
came across no stop, they are the same as before. -/
theorem memory_left_alone :
    (∀ (cs : List (Command τ)) (c : Command τ), c.Constructs →
      ∃ s s' : Session τ, s.Reachable ∧ (Workspace.after {} cs).At s ∧ Session.Steps s s' ∧
        ((Workspace.after {} cs).perform c).2.At s' ∧ s'.memory = s.memory ∧
        ∀ p ∈ s'.nodes, p ∉ s.nodes → s'.memory.answer? p = p.acceptsEmpty?) ∧
    ∀ (g : Grammar τ) (p : Parser τ) (c : Cursor τ),
      ∃ es res, Yields g c.source.tokens ∅ p c.place es res ∧ ∀ a : Account,
        (p.parse g c a).2.memory.answers = (g.askAtStops es a.memory).2.answers ∧
        ((∀ part, .stop part ∉ es) → (p.parse g c a).2.memory.answers = a.memory.answers) := by
  refine ⟨fun cs c hc => Workspace.exists_session_of_constructs cs hc, fun g p c => ?_⟩
  obtain ⟨es, res, h⟩ := exists_yields g c.source.tokens ∅ p c.place
  refine ⟨es, res, h, fun a => ⟨h.answers_parse a, fun hstop => ?_⟩⟩
  rw [h.answers_parse a, askAtStops_of_no_stop hstop]

end GuardedParsing
