import GuardedParsing.Proofs.Building
import GuardedParsing.Workspace.Command

/-!
# Commands are part of a session

What the commands to a workspace do is a session, so that what holds at every moment of a session
holds of every workspace. The session has used a released rule only if an answer said so, which is
then the last one of the script.

* `Workspace.At.perform`: what a command does is part of a session.
* `Workspace.exists_session`: **a script of commands is a session.**
-/

namespace GuardedParsing

open Session

variable {τ : Type} [Token τ]

omit [Token τ] in
theorem mem_rename {γ : Type} {name : String} {c : γ} {names : List (String × γ)}
    {x : String × γ} (h : x ∈ rename name c names) : x = (name, c) ∨ x ∈ names := by
  rcases List.mem_cons.1 h with h | h
  · exact .inl h
  · exact .inr (List.mem_filter.1 h).1

namespace Workspace

/-- The workspace is what there is at the moment `s` of a session. -/
structure At (w : Workspace τ) (s : Session τ) : Prop where
  valid : s.Valid
  grammar_eq : s.grammar = w.grammar
  length_eq : s.nodes.length = w.nextKey
  memory_eq : s.memory = w.memory
  knows : s.Knows w.scope

variable {w : Workspace τ} {s s' : Session τ}

omit [Token τ] in
theorem At.scope (h : w.At s) {scope : Scope τ} (hscope : s.Knows scope) :
    { w with scope }.At s :=
  { h with knows := hscope }

omit [Token τ] in
theorem At.nameParser (h : w.At s) (name : String) {p : Parser τ} (hp : p ∈ s.nodes) :
    (w.nameParser name p).At s := by
  refine h.scope ⟨h.knows.rule_lt, fun hx => ?_⟩
  rcases mem_rename hx with rfl | hx
  · exact hp
  · exact h.knows.parser_mem hx

omit [Token τ] in
theorem At.nameKept (h : w.At s) {kept : List (String × Parser τ)}
    (hkept : ∀ x ∈ kept, x.2 ∈ s.nodes) : (w.nameKept kept).At s := by
  induction kept with
  | nil => exact h
  | cons x kept ih =>
    exact (ih fun x hx => hkept x (.tail _ hx)).nameParser x.1 (hkept x (.head _))

/-- The release of the rules that nothing holds. -/
theorem At.tidy (h : w.At s) : ∃ s', QuietSteps s s' ∧ w.tidy.At s' := by
  have hstep := Step.release (s := s)
    (Std.HashSet.ofList (w.grammar.living w.holders)).contains
  refine ⟨_, .single ⟨none, by simp, hstep⟩, hstep.valid h.valid, ?_, h.length_eq, h.memory_eq, ?_⟩
  · rw [h.grammar_eq]
    rfl
  · exact ⟨fun hx => by rw [Array.size_mapIdx]; exact h.knows.rule_lt hx, h.knows.parser_mem⟩

/-- A parser is built, with what is said of it. -/
theorem At.build {N : List RuleId → Session τ → Parser τ → Prop} [Nested N] (h : w.At s)
    (hscope : s.Supplies (N []) w.scope) (d : Description τ) :
    ∃ s', Grown s s' ∧ (w.build d).2.At s' ∧ ∀ p kept, (w.build d).1 = .ok (p, kept) →
      N [] s' p ∧ ∀ x ∈ kept, x.2 ∈ s'.nodes ∧ x.2.isStandIn = true := by
  have hdraft : s.Drafts { grammar := w.grammar, nextKey := w.nextKey } :=
    ⟨h.grammar_eq, h.length_eq, fun hx => nomatch hx⟩
  obtain ⟨s', hs', hd', hp'⟩ := builds_description hscope d h.valid _ hdraft
  rw [Workspace.build]
  rcases hr : (d.build w.scope).runFrom { grammar := w.grammar, nextKey := w.nextKey } with
    ⟨result, draft⟩
  rw [hr] at hd' hp'
  refine ⟨s', hs', ⟨hs'.valid h.valid, hd'.grammar_eq, hd'.length_eq, ?_, h.knows.grown hs'⟩, ?_⟩
  · exact hs'.memory_eq.trans h.memory_eq
  · intro p kept hok
    cases result with
    | error e => cases hok
    | ok p' =>
      cases hok
      exact ⟨hp' p rfl, fun x hx => hd'.kept_standIn hx⟩

/-- A node is built. -/
theorem At.buildNode (h : w.At s) (d : Description τ) :
    ∃ s', QuietSteps s s' ∧ (w.build d).2.At s' ∧
      ∀ p kept, (w.build d).1 = .ok (p, kept) → p ∈ s'.nodes ∧ ∀ x ∈ kept, x.2 ∈ s'.nodes := by
  obtain ⟨s', hs', hw', hp'⟩ := h.build (N := fun _ => Node) h.knows.supplies d
  refine ⟨s', hs'.steps, hw', fun p kept hok => ?_⟩
  obtain ⟨hp, hkept⟩ := hp' p kept hok
  exact ⟨hp, fun x hx => (hkept x hx).1⟩

/-- A rule gets a definition, or has one already. -/
theorem At.define (h : w.At s) (rule : RuleId) {p : Parser τ} (hp : p ∈ s.nodes) :
    ∃ s', QuietSteps s s' ∧ (w.define rule p).2.At s' := by
  rw [Workspace.define]
  split
  · rename_i hb
    rw [← h.grammar_eq] at hb
    have hstep := Step.define hb hp
    refine ⟨_, .single ⟨none, by simp, hstep⟩, hstep.valid h.valid, ?_, h.length_eq, h.memory_eq, ?_⟩
    · rw [h.grammar_eq]
    · exact ⟨fun hx => by rw [Array.size_modify]; exact h.knows.rule_lt hx, h.knows.parser_mem⟩
  · exact ⟨s, .refl, h⟩

/-- What a command does is part of a session: from `s` to some moment `s'` that has the workspace
that the command leaves. If a released rule was used on the way, the answer says so. -/
def Continues (s : Session τ) (result : Response τ × Workspace τ) : Prop :=
  ∃ s', Steps s s' ∧ result.2.At s' ∧ (isLast result.1.answer = false → QuietSteps s s')

theorem continues_of_quiet {result : Response τ × Workspace τ} (hs : QuietSteps s s')
    (h : result.2.At s') : Continues s result := ⟨s', hs.steps, h, fun _ => hs⟩

/-- What is done without a step of the session. -/
theorem continues_of_at {result : Response τ × Workspace τ} (h : result.2.At s) :
    Continues s result := continues_of_quiet .refl h

theorem At.withRule (h : w.At s) {id : String} {act : RuleId → Response τ × Workspace τ}
    (hact : ∀ rule < s.grammar.size, Continues s (act rule)) : Continues s (w.withRule id act) := by
  rw [Workspace.withRule]
  split
  · rename_i rule hl
    exact hact rule (h.knows.rule_lt (mem_of_lookup hl))
  · exact continues_of_at h

theorem At.withParser (h : w.At s) {var : String} {act : Parser τ → Response τ × Workspace τ}
    (hact : ∀ p ∈ s.nodes, Continues s (act p)) : Continues s (w.withParser var act) := by
  rw [Workspace.withParser]
  split
  · rename_i p hl
    exact hact p (h.knows.parser_mem (mem_of_lookup hl))
  · exact continues_of_at h

theorem At.newRule (h : w.At s) (id : String) (name : Option String) :
    Continues s (w.carryOut (.newRule id name)) := by
  obtain ⟨s', hs', hd', hrule⟩ := builds_newRule name h.valid
    { grammar := w.grammar, nextKey := w.nextKey }
    ⟨h.grammar_eq, h.length_eq, fun hx => nomatch hx⟩
  refine continues_of_quiet hs'.steps
    ⟨hs'.valid h.valid, hd'.grammar_eq, hd'.length_eq, hs'.memory_eq.trans h.memory_eq, fun hx => ?_, ?_⟩
  · obtain ⟨-, hsize, -⟩ := hrule w.grammar.size rfl
    rcases mem_rename hx with rfl | hx
    · rw [hsize, h.grammar_eq]
      exact Nat.lt_succ_self _
    · exact (h.knows.grown hs').rule_lt hx
  · exact (h.knows.grown hs').parser_mem

theorem At.buildDefinition (h : w.At s) (rule : RuleId) (d : Description τ) :
    Continues s (w.buildDefinition rule d) := by
  obtain ⟨s', hs', hw', hnodes⟩ := h.buildNode d
  -- where the building fails, or the rule has a definition, the nodes are there all the same
  rw [Workspace.buildDefinition]
  rcases hb : w.build d with ⟨e | ⟨p, kept⟩, w'⟩ <;> rw [hb] at hw' hnodes
  · exact continues_of_quiet hs' hw'
  · obtain ⟨hp, hkept⟩ := hnodes p kept rfl
    obtain ⟨s'', hs'', hw''⟩ := (hw'.nameKept hkept).define rule hp
    simp only
    rcases hdef : (w'.nameKept kept).define rule p with ⟨e | _, w''⟩ <;> rw [hdef] at hw'' <;>
      exact continues_of_quiet (Relation.ReflTransGen.trans hs' hs'') hw''

theorem At.buildNamed (h : w.At s) (var : String) (d : Description τ) :
    Continues s (w.buildNamed var d) := by
  obtain ⟨s', hs', hw', hnodes⟩ := h.buildNode d
  rw [Workspace.buildNamed]
  rcases hb : w.build d with ⟨e | ⟨p, kept⟩, w'⟩ <;> rw [hb] at hw' hnodes
  · exact continues_of_quiet hs' hw'
  · obtain ⟨hp, hkept⟩ := hnodes p kept rfl
    exact continues_of_quiet hs' ((hw'.nameParser var hp).nameKept hkept)

omit [Token τ] in
theorem At.memory (h : w.At s) {m : Memory} (hm : { s with memory := m }.Valid) :
    { w with memory := m }.At { s with memory := m } :=
  ⟨hm, h.grammar_eq, h.length_eq, rfl, ⟨h.knows.rule_lt, h.knows.parser_mem⟩⟩

omit [Token τ] in
theorem ne_released_of_isLast {fault : Fault}
    (h : isLast (.broken fault : Answer τ) = false) : some fault ≠ some Fault.released := by
  rintro ⟨⟩
  cases h

theorem At.parse (h : w.At s) {p : Parser τ} (hp : p ∈ s.nodes) (c : Cursor τ) :
    Continues s (w.parse p c) := by
  have hstep := Step.parse hp c
  have heq : p.parse s.grammar c { memory := s.memory } =
      p.parse w.grammar c { memory := w.memory } := by
    rw [h.grammar_eq, h.memory_eq]
  rw [Workspace.parse, ← heq]
  rcases hr : p.parse s.grammar c { memory := s.memory } with ⟨fault | out, a⟩ <;> rw [hr] at hstep
  · exact ⟨_, .single ⟨_, hstep⟩, h.memory (hstep.valid h.valid), fun hlast =>
      .single ⟨_, ne_released_of_isLast hlast, hstep⟩⟩
  · exact continues_of_quiet (.single ⟨_, by simp [fault?], hstep⟩) (h.memory (hstep.valid h.valid))

theorem At.acceptsEmpty (h : w.At s) {p : Parser τ} (hp : p ∈ s.nodes) :
    Continues s (w.acceptsEmpty p) := by
  have hstep := Step.ask hp
  have heq : p.acceptsEmpty s.grammar s.memory = p.acceptsEmpty w.grammar w.memory := by
    rw [h.grammar_eq, h.memory_eq]
  rw [Workspace.acceptsEmpty, ← heq]
  rcases hr : p.acceptsEmpty s.grammar s.memory with ⟨fault | b, m⟩ <;> rw [hr] at hstep
  · exact ⟨_, .single ⟨_, hstep⟩, h.memory (hstep.valid h.valid), fun hlast =>
      .single ⟨_, ne_released_of_isLast hlast, hstep⟩⟩
  · exact continues_of_quiet (.single ⟨_, by simp [fault?], hstep⟩) (h.memory (hstep.valid h.valid))

theorem At.carryOut (h : w.At s) (c : Command τ) : Continues s (w.carryOut c) := by
  cases c with
  | newRule id name => exact h.newRule id name
  | cloneRule id new =>
    refine h.withRule fun rule hrule => continues_of_at (h.scope ⟨fun hx => ?_, h.knows.parser_mem⟩)
    rcases mem_rename hx with rfl | hx
    · exact hrule
    · exact h.knows.rule_lt hx
  | dropRule id =>
    exact continues_of_at (h.scope
      ⟨fun hx => h.knows.rule_lt (List.mem_filter.1 hx).1, h.knows.parser_mem⟩)
  | showRule id => exact h.withRule fun _ _ => continues_of_at h
  | define id d => exact h.withRule fun rule _ => h.buildDefinition rule d
  | name var d => exact h.buildNamed var d
  | drop var =>
    exact continues_of_at (h.scope
      ⟨h.knows.rule_lt, fun hx => h.knows.parser_mem (List.mem_filter.1 hx).1⟩)
  | parse var tokens skip => exact h.withParser fun _ hp => h.parse hp _
  | acceptsEmpty var => exact h.withParser fun _ hp => h.acceptsEmpty hp
  | known var => exact h.withParser fun _ _ => continues_of_at h

/-- What a command does is part of a session, the release of rules included. -/
theorem At.perform (h : w.At s) (c : Command τ) : Continues s (w.perform c) := by
  obtain ⟨s', hs', hw', hquiet⟩ := h.carryOut c
  obtain ⟨s'', hs'', hw''⟩ := hw'.tidy
  exact ⟨s'', hs'.trans hs''.steps, hw'', fun hlast => (hquiet hlast).trans hs''⟩

/-- The workspace after some commands. -/
def after (w : Workspace τ) (cs : List (Command τ)) : Workspace τ :=
  cs.foldl (fun w c => (w.perform c).2) w

theorem script_cons_of_isLast {c : Command τ} {cs : List (Command τ)}
    (h : isLast (w.perform c).1.answer = false) :
    w.script (c :: cs) = (w.perform c).1 :: (w.perform c).2.script cs := by
  rw [script]
  simp [h]

theorem At.after (h : w.At s) (cs : List (Command τ)) :
    ∃ s', Steps s s' ∧ (w.after cs).At s' ∧
      ((∀ r ∈ w.script cs, isLast r.answer = false) → QuietSteps s s') := by
  induction cs generalizing w s with
  | nil => exact ⟨s, .refl, h, fun _ => .refl⟩
  | cons c cs ih =>
    obtain ⟨s', hs', hw', hquiet⟩ := h.perform c
    obtain ⟨s'', hs'', hw'', hquiet'⟩ := ih hw'
    refine ⟨s'', hs'.trans hs'', hw'', fun hscript => ?_⟩
    -- a script without a last answer goes on after its first command
    have hlast : isLast (w.perform c).1.answer = false := by
      refine hscript _ ?_
      rw [script]
      simp only
      split <;> exact .head _
    rw [script_cons_of_isLast hlast] at hscript
    exact (hquiet hlast).trans (hquiet' fun r hr => hscript r (.tail _ hr))

omit [Token τ] in
/-- The empty workspace is what there is at the beginning. -/
theorem at_empty : ({} : Workspace τ).At {} :=
  ⟨valid_empty, rfl, rfl, rfl, ⟨(nomatch ·), (nomatch ·)⟩⟩

/-- **A script of commands is a session.** Every workspace that commands lead to is what there is at
some moment of a session; no released rule was used until then if no answer puts an end to the
script. -/
theorem exists_session (cs : List (Command τ)) :
    ∃ s : Session τ, s.Reachable ∧ (after {} cs).At s ∧
      ((∀ r ∈ script {} cs, isLast r.answer = false) → s.QuietlyReachable) :=
  at_empty.after cs

end Workspace

end GuardedParsing
