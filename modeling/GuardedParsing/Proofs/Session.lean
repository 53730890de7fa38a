import GuardedParsing.Proofs.Answering
import GuardedParsing.Proofs.Progress

/-!
# Sessions

A session is what becomes of a grammar: nodes and rules are built, rules are defined and released,
parsers are asked about and applied, in any order. The grammar of a session is kept twice: as it is,
and as it was written, with the definitions of the rules that were released since.

* `Session.Step`: what can happen in a session, with the fault that it ends in, if any.
* `Session.Valid`: what holds at every moment of a session.
* `Session.Step.valid`, `Session.Reachable.valid`: **each step preserves it, and so does a session.**
* `Session.quietlyReachable_of_inOrder`: a grammar whose nodes can be named in an order in which each
  comes after its parts is what some session comes to.
-/

namespace GuardedParsing

/-- A moment of a session. -/
structure Session (τ : Type) where
  /-- The nodes that were built, each at the place that is its key. -/
  nodes : List (Parser τ) := []
  grammar : Grammar τ := #[]
  /-- The grammar with the definitions of the rules that were released. -/
  written : Grammar τ := #[]
  memory : Memory := {}

/-- The fault that a computation ended in. -/
def fault? {α : Type} : Except Fault α → Option Fault
  | .ok _ => none
  | .error fault => some fault

namespace Session

variable {τ : Type} [Token τ]

/-- `Step s fault s'`: the moment `s'` can follow the moment `s`, with the fault `fault`. -/
inductive Step : Session τ → Option Fault → Session τ → Prop
  /-- A node is built from nodes and rules that are there. -/
  | node {s : Session τ} (p : Parser τ) (hkey : p.key = s.nodes.length)
      (hparts : ∀ q ∈ p.parts, q ∈ s.nodes)
      (hrule : ∀ key rule owning, p = .refer key rule owning → rule < s.grammar.size) :
      Step s none { s with nodes := s.nodes ++ [p] }
  | newRule {s : Session τ} (name : String) :
      Step s none { s with
        grammar := s.grammar.push ⟨name, .unset⟩
        written := s.written.push ⟨name, .unset⟩ }
  | define {s : Session τ} {rule : RuleId} {p : Parser τ} (hb : s.grammar.binding rule = .unset)
      (hp : p ∈ s.nodes) :
      Step s none { s with
        grammar := s.grammar.modify rule ({ · with binding := .bound p })
        written := s.written.modify rule ({ · with binding := .bound p }) }
  /-- Some rules are released. -/
  | release {s : Session τ} (keep : RuleId → Bool) :
      Step s none { s with
        grammar := s.grammar.mapIdx fun i r => if keep i then r else { r with binding := .released } }
  | ask {s : Session τ} {p : Parser τ} (hp : p ∈ s.nodes) :
      Step s (fault? (p.acceptsEmpty s.grammar s.memory).1)
        { s with memory := (p.acceptsEmpty s.grammar s.memory).2 }
  | parse {s : Session τ} {p : Parser τ} (hp : p ∈ s.nodes) (c : Cursor τ) :
      Step s (fault? (p.parse s.grammar c { memory := s.memory }).1)
        { s with memory := (p.parse s.grammar c { memory := s.memory }).2.memory }

/-- The moment `s'` comes after `s`, or is `s`. -/
abbrev Steps : Session τ → Session τ → Prop := Relation.ReflTransGen fun s s' => ∃ f, Step s f s'

/-- The moment `s'` comes after `s`, or is `s`, and no released rule was used in between. -/
abbrev QuietSteps : Session τ → Session τ → Prop :=
  Relation.ReflTransGen fun s s' => ∃ f, f ≠ some .released ∧ Step s f s'

/-- A moment of a session. -/
abbrev Reachable (s : Session τ) : Prop := Steps {} s

/-- A moment of a session in which no released rule was used so far. -/
abbrev QuietlyReachable (s : Session τ) : Prop := QuietSteps {} s

end Session

namespace Grammar

variable {τ : Type} {g : Grammar τ} {rule : RuleId}

theorem binding_eq_released_of_size_le (h : g.size ≤ rule) : g.binding rule = .released := by
  rw [binding, Array.getElem?_eq_none h]

theorem lt_size_of_unset (h : g.binding rule = .unset) : rule < g.size := by
  by_contra hlt
  rw [binding_eq_released_of_size_le (Nat.le_of_not_lt hlt)] at h
  cases h

theorem binding_push (r : Rule τ) :
    binding (g.push r) rule = if rule = g.size then r.binding else g.binding rule := by
  unfold binding
  rw [Array.getElem?_push]
  by_cases h : rule = g.size
  · rw [if_pos h, if_pos h]
  · rw [if_neg h, if_neg h]

theorem binding_modify {defined : RuleId} {b : Binding τ} (h : defined < g.size) :
    binding (g.modify defined ({ · with binding := b })) rule =
      if rule = defined then b else g.binding rule := by
  unfold binding
  rw [Array.getElem?_modify]
  by_cases hr : rule = defined
  · subst hr
    rw [if_pos rfl, if_pos rfl, Array.getElem?_eq_getElem h]
    rfl
  · rw [if_neg (Ne.symm hr), if_neg hr]

theorem binding_release (keep : RuleId → Bool) :
    binding (g.mapIdx fun i r => if keep i then r else { r with binding := .released }) rule =
      if keep rule then g.binding rule else .released := by
  unfold binding
  rw [Array.getElem?_mapIdx]
  rcases g[rule]? with _ | r
  · simp
  · rcases keep rule with _ | _ <;> simp

end Grammar

namespace Session

variable {τ : Type}

/-- What holds at every moment of a session. -/
structure Valid (s : Session τ) : Prop where
  /-- A node is at the place that is its key. -/
  key_eq {k : Nat} {p : Parser τ} : s.nodes[k]? = some p → p.key = k
  parts_mem {p q : Parser τ} : p ∈ s.nodes → q ∈ p.parts → q ∈ s.nodes
  rule_lt {key : Key} {rule : RuleId} {owning : Bool} :
    .refer key rule owning ∈ s.nodes → rule < s.grammar.size
  definition_mem {rule : RuleId} {d : Parser τ} : s.written.binding rule = .bound d → d ∈ s.nodes
  size_eq : s.written.size = s.grammar.size
  keeps : s.written.Keeps s.grammar
  sound : s.memory.Sound s.written (· ∈ s.nodes)
  /-- What a broken off question left open are parsers that reach a released rule. -/
  opened {key : Key} : key ∈ s.memory.opened.keys →
    ∃ p ∈ s.nodes, p.key = key ∧ ¬s.grammar.Unreleased p

namespace Valid

variable {s : Session τ}

/-- The nodes are known by their keys, and lead to nodes. -/
theorem pool (h : s.Valid) : s.written.Pool (· ∈ s.nodes) where
  eq_of_key_eq {p q} hp hq hkey := by
    obtain ⟨i, hi⟩ := List.mem_iff_getElem?.1 hp
    obtain ⟨j, hj⟩ := List.mem_iff_getElem?.1 hq
    obtain rfl : i = j := by rw [← h.key_eq hi, ← h.key_eq hj, hkey]
    exact Option.some.inj (hi.symm.trans hj)
  leads {p q} hp hl := by
    cases hl with
    | part hq => exact h.parts_mem hp hq
    | definition hb => exact h.definition_mem hb

/-- What the grammar leads to as it is, it leads to as it was written. -/
theorem mem_of_leads (h : s.Valid) {p q : Parser τ} (hp : p ∈ s.nodes) (hl : s.grammar.Leads p q) :
    q ∈ s.nodes := by
  cases hl with
  | part hq => exact h.parts_mem hp hq
  | definition hb => exact h.definition_mem (h.keeps.extends _ _ hb)

theorem mem_of_reaches (h : s.Valid) {p q : Parser τ} (hp : p ∈ s.nodes)
    (hr : s.grammar.Reaches p q) : q ∈ s.nodes := by
  induction hr with
  | refl => exact hp
  | tail _ hl ih => exact h.mem_of_leads ih hl

/-- Where every rule has a definition, all nodes are closed. -/
theorem closed (h : s.Valid) (hbound : ∀ r ∈ s.grammar, ∃ d, r.binding = .bound d) {p : Parser τ}
    (hp : p ∈ s.nodes) : s.grammar.Closed p := by
  intro key rule owning hr
  have hlt := h.rule_lt (h.mem_of_reaches hp hr)
  rw [Grammar.binding, Array.getElem?_eq_getElem hlt]
  exact hbound _ (Array.getElem_mem hlt)

end Valid

theorem valid_empty : ({} : Session τ).Valid where
  key_eq h := by cases h
  parts_mem hp := by cases hp
  rule_lt h := by cases h
  definition_mem {rule d} h := by
    rw [Grammar.binding_eq_released_of_size_le (Nat.zero_le rule)] at h
    cases h
  size_eq := rfl
  keeps := fun _ _ => rfl
  sound key b h := by simp at h
  opened h := by cases h

variable {s : Session τ}

/-- More nodes. -/
theorem Valid.node (h : s.Valid) {p : Parser τ} (hkey : p.key = s.nodes.length)
    (hparts : ∀ q ∈ p.parts, q ∈ s.nodes)
    (hrule : ∀ key rule owning, p = .refer key rule owning → rule < s.grammar.size) :
    { s with nodes := s.nodes ++ [p] }.Valid where
  key_eq {k q} hk := by
    rw [List.getElem?_append] at hk
    split at hk
    · exact h.key_eq hk
    · rename_i hlen
      rcases hi : k - s.nodes.length with _ | i
      · rw [hi] at hk
        obtain rfl : p = q := Option.some.inj hk
        have hlen' : s.nodes.length = k := by omega
        exact hkey.trans hlen'
      · rw [hi] at hk
        cases hk
  parts_mem {q r} hq hr := by
    refine List.mem_append_left _ ?_
    rcases List.mem_append.1 hq with hq | hq
    · exact h.parts_mem hq hr
    · obtain rfl := List.mem_singleton.1 hq
      exact hparts r hr
  rule_lt {key rule owning} hmem := by
    rcases List.mem_append.1 hmem with hmem | hmem
    · exact h.rule_lt hmem
    · exact hrule key rule owning (List.mem_singleton.1 hmem).symm
  definition_mem hb := List.mem_append_left _ (h.definition_mem hb)
  size_eq := h.size_eq
  keeps := h.keeps
  sound key b hb := by
    obtain ⟨q, hq, hk⟩ := h.sound key b hb
    exact ⟨q, List.mem_append_left _ hq, hk⟩
  opened hk := by
    obtain ⟨q, hq, hk⟩ := h.opened hk
    exact ⟨q, List.mem_append_left _ hq, hk⟩

/-- Another memory. -/
theorem Valid.memory (h : s.Valid) {m : Memory} (hm : m.Sound s.written (· ∈ s.nodes))
    (hopened : ∀ key ∈ m.opened.keys, ∃ p ∈ s.nodes, p.key = key ∧ ¬s.grammar.Unreleased p) :
    { s with memory := m }.Valid :=
  { h with
    sound := hm
    opened := hopened _ }

/-- What was released and what was written, with more definitions. -/
theorem Valid.grammar (h : s.Valid) {g w : Grammar τ} (hsize : w.size = g.size)
    (hle : s.grammar.size ≤ g.size) (hkeeps : w.Keeps g) (hg : g.Extends s.grammar)
    (hw : w.Extends s.written)
    (hreleased : ∀ rule < s.grammar.size, s.grammar.binding rule = .released →
      g.binding rule = .released)
    (hdef : ∀ rule d, w.binding rule = .bound d → d ∈ s.nodes) :
    { s with grammar := g, written := w }.Valid where
  key_eq := h.key_eq
  parts_mem := h.parts_mem
  rule_lt hmem := Nat.lt_of_lt_of_le (h.rule_lt hmem) hle
  definition_mem hb := hdef _ _ hb
  size_eq := hsize
  keeps := hkeeps
  sound key b hb := by
    obtain ⟨p, hp, hk, hs⟩ := h.sound key b hb
    exact ⟨p, hp, hk, hs.extends hw⟩
  opened {key} hk := by
    obtain ⟨p, hp, hk, hun⟩ := h.opened hk
    refine ⟨p, hp, hk, fun hun' => hun fun key rule owning hr hb => ?_⟩
    exact hun' key rule owning (hg.reaches hr)
      (hreleased rule (h.rule_lt (h.mem_of_reaches hp hr)) hb)

theorem Valid.newRule (h : s.Valid) (name : String) :
    { s with
      grammar := s.grammar.push ⟨name, .unset⟩
      written := s.written.push ⟨name, .unset⟩ }.Valid := by
  have hext : ∀ g : Grammar τ, Grammar.Extends (g.push ⟨name, .unset⟩) g := by
    intro g rule d hb
    rw [Grammar.binding_push, if_neg (Nat.ne_of_lt (Grammar.lt_size_of_bound hb)), hb]
  -- a rule that is not there yet has no definition that could change
  refine h.grammar ?_ ?_ ?_ (hext _) (hext _) ?_ ?_
  · rw [Array.size_push, Array.size_push, h.size_eq]
  · rw [Array.size_push]
    exact Nat.le_succ _
  · intro rule hb
    rw [Grammar.binding_push] at hb ⊢
    rw [Grammar.binding_push, h.size_eq]
    split
    · rfl
    · rename_i hne
      rw [if_neg hne] at hb
      exact h.keeps rule hb
  · intro rule hlt hb
    rw [Grammar.binding_push, if_neg (Nat.ne_of_lt hlt), hb]
  · intro rule d hb
    rw [Grammar.binding_push] at hb
    split at hb
    · cases hb
    · exact h.definition_mem hb

theorem Valid.define (h : s.Valid) {defined : RuleId} {p : Parser τ}
    (hb : s.grammar.binding defined = .unset) (hp : p ∈ s.nodes) :
    { s with
      grammar := s.grammar.modify defined ({ · with binding := .bound p })
      written := s.written.modify defined ({ · with binding := .bound p }) }.Valid := by
  have hlt := Grammar.lt_size_of_unset hb
  have hbw : s.written.binding defined = .unset := by rw [h.keeps defined (by simp [hb]), hb]
  have hltw := Grammar.lt_size_of_unset hbw
  have hext : ∀ g : Grammar τ, g.binding defined = .unset →
      Grammar.Extends (g.modify defined ({ · with binding := .bound p })) g := by
    intro g hb rule d hd
    rw [Grammar.binding_modify (Grammar.lt_size_of_unset hb), if_neg, hd]
    rintro rfl
    rw [hb] at hd
    cases hd
  refine h.grammar ?_ ?_ ?_ (hext _ hb) (hext _ hbw) ?_ ?_
  · rw [Array.size_modify, Array.size_modify, h.size_eq]
  · rw [Array.size_modify]
  · intro rule hr
    rw [Grammar.binding_modify hlt] at hr ⊢
    rw [Grammar.binding_modify hltw]
    split
    · rfl
    · rename_i hne
      rw [if_neg hne] at hr
      exact h.keeps rule hr
  · intro rule _ hr
    rw [Grammar.binding_modify hlt, if_neg, hr]
    rintro rfl
    rw [hb] at hr
    cases hr
  · intro rule d hd
    rw [Grammar.binding_modify hltw] at hd
    split at hd
    · cases hd
      exact hp
    · exact h.definition_mem hd

theorem Valid.release (h : s.Valid) (keep : RuleId → Bool) :
    { s with
      grammar := s.grammar.mapIdx fun i r =>
        if keep i then r else { r with binding := .released } }.Valid := by
  -- what is left of the grammar is as it was; what was written does not change
  have hbinding : ∀ rule, Grammar.binding (s.grammar.mapIdx fun i r =>
      if keep i then r else { r with binding := .released }) rule ≠ .released →
        s.grammar.binding rule = Grammar.binding (s.grammar.mapIdx fun i r =>
          if keep i then r else { r with binding := .released }) rule := by
    intro rule hr
    rw [Grammar.binding_release] at hr ⊢
    split at hr
    · rename_i hk
      rw [if_pos hk]
    · exact absurd rfl hr
  exact
    { h with
      rule_lt := fun hmem => by
        rw [Array.size_mapIdx]
        exact h.rule_lt hmem
      size_eq := by
        rw [Array.size_mapIdx]
        exact h.size_eq
      keeps := fun rule hr => by
        rw [← hbinding rule hr]
        refine h.keeps rule ?_
        rwa [hbinding rule hr]
      opened := fun hk => by
        obtain ⟨p, hp, hk, hun⟩ := h.opened hk
        exact ⟨p, hp, hk, fun hun' => hun (Grammar.Keeps.unreleased hbinding hun')⟩ }

/-- What a question leaves open are parsers that reach a released rule. -/
theorem Valid.opened_acceptsEmpty (h : s.Valid) {p : Parser τ} (hp : p ∈ s.nodes) {m : Memory}
    (hm : ∀ key ∈ m.opened.keys, ∃ p ∈ s.nodes, p.key = key ∧ ¬s.grammar.Unreleased p) :
    ∀ key ∈ (p.acceptsEmpty s.grammar m).2.opened.keys,
      ∃ p ∈ s.nodes, p.key = key ∧ ¬s.grammar.Unreleased p := by
  have hans := answers_ask s.grammar p m
  intro key hkey
  rcases hr : (p.acceptsEmpty s.grammar m).1 with fault | b
  · rcases hans.opened_of_error fault hr key hkey with hmem | ⟨q, hq, hk, hun⟩
    · exact hm key hmem
    · exact ⟨q, h.mem_of_reaches hp hq, hk, hun⟩
  · rw [hans.opened_eq b hr] at hkey
    exact hm key hkey

/-- A question leaves a session valid. -/
theorem Valid.ask (h : s.Valid) {p : Parser τ} (hp : p ∈ s.nodes) :
    { s with memory := (p.acceptsEmpty s.grammar s.memory).2 }.Valid :=
  h.memory (sound_acceptsEmpty h.keeps h.pool hp h.sound).1
    (h.opened_acceptsEmpty hp fun _ => h.opened)

/-- The stop of a repetition changes the memory as a question does. -/
theorem memory_stopRepetition (g : Grammar τ) (part : Parser τ) (position : Nat) (a : Account) :
    (part.stopRepetition g position a).2.memory = (part.acceptsEmpty g a.memory).2 := by
  rw [Parser.stopRepetition]
  rcases part.acceptsEmpty g a.memory with ⟨fault | b, m⟩ <;> rfl

variable [Token τ]

/-- A parse leaves a session valid. -/
theorem Valid.parse (h : s.Valid) {p : Parser τ} (hp : p ∈ s.nodes) (c : Cursor τ) :
    { s with memory := (p.parse s.grammar c { memory := s.memory }).2.memory }.Valid := by
  obtain ⟨res, happ, -⟩ := applies_parse s.grammar p c { memory := s.memory }
  have hvalid := happ.preserves (P := fun a => { s with memory := a.memory }.Valid)
    (D := (· ∈ s.nodes)) (fun p q hp hl => h.mem_of_leads hp hl) (fun a e _ ha => ha)
    (fun active part start next v a₀ a hpart _ _ ha => by
      rw [memory_stopRepetition]
      exact ha.ask hpart) (fun q hl => h.mem_of_leads hp hl) h
  exact hvalid

/-- **Each step keeps a session valid.** -/
theorem Step.valid {s s' : Session τ} {f : Option Fault} (hs : Step s f s') (h : s.Valid) :
    s'.Valid := by
  cases hs with
  | node p hkey hparts hrule => exact h.node hkey hparts hrule
  | newRule name => exact h.newRule name
  | define hb hp => exact h.define hb hp
  | release keep => exact h.release keep
  | ask hp => exact h.ask hp
  | parse hp c => exact h.parse hp c

theorem Steps.valid {s s' : Session τ} (hs : Steps s s') (h : s.Valid) : s'.Valid := by
  induction hs with
  | refl => exact h
  | tail _ hstep ih =>
    obtain ⟨f, hstep⟩ := hstep
    exact hstep.valid ih

/-- **A session is valid at every moment.** -/
theorem Reachable.valid {s : Session τ} (hs : s.Reachable) : s.Valid := Steps.valid hs valid_empty

theorem QuietSteps.steps {s s' : Session τ} (h : QuietSteps s s') : Steps s s' :=
  Relation.ReflTransGen.mono (fun _ _ ⟨f, _, hstep⟩ => ⟨f, hstep⟩) _ _ h

theorem QuietlyReachable.reachable {s : Session τ} (h : s.QuietlyReachable) : s.Reachable :=
  QuietSteps.steps h

end Session

/-! ## Grammars that are built in one go -/

/-- The rule before it has a definition. -/
def Rule.undefined {τ : Type} (r : Rule τ) : Rule τ := ⟨r.name, .unset⟩

theorem Rule.modify_undefined {τ : Type} {r : Rule τ} {d : Parser τ} (hr : r.binding = .bound d)
    (before after : List (Rule τ)) :
    (before ++ r.undefined :: after).toArray.modify before.length ({ · with binding := .bound d }) =
      (before ++ r :: after).toArray := by
  obtain ⟨name, binding⟩ := r
  obtain rfl : binding = .bound d := hr
  rw [List.modify_toArray]
  exact congrArg List.toArray (List.modifyTailIdx_add (List.modifyHead _) 0 before _)

namespace Session

/-- The list names nodes in an order in which they can be built after the nodes `built`, where there
are so many rules: each has its place for its key, and its parts and its rule are there. -/
def InOrder {τ : Type} (rules : Nat) : List (Parser τ) → List (Parser τ) → Prop
  | _, [] => True
  | built, p :: ps =>
    p.key = built.length ∧ (∀ q ∈ p.parts, q ∈ built) ∧
      (∀ key rule owning, p = .refer key rule owning → rule < rules) ∧
      InOrder rules (built ++ [p]) ps

variable {τ : Type} [Token τ] {s₀ s : Session τ}

theorem QuietSteps.newRules (h : QuietSteps s₀ s) (rules : List (Rule τ)) :
    QuietSteps s₀ { s with
      grammar := s.grammar ++ (rules.map Rule.undefined).toArray
      written := s.written ++ (rules.map Rule.undefined).toArray } := by
  induction rules generalizing s with
  | nil => simpa using h
  | cons r rules ih =>
    have hrules := ih (h.tail ⟨none, by simp, Step.newRule r.name⟩)
    simpa [Rule.undefined] using hrules

theorem QuietSteps.nodes (h : QuietSteps s₀ s) {ps : List (Parser τ)}
    (hps : InOrder s.grammar.size s.nodes ps) :
    QuietSteps s₀ { s with nodes := s.nodes ++ ps } := by
  induction ps generalizing s with
  | nil => rwa [List.append_nil]
  | cons p ps ih =>
    obtain ⟨hkey, hparts, hrule, hrest⟩ := hps
    have hps := ih (h.tail ⟨none, by simp, Step.node p hkey hparts hrule⟩) hrest
    rwa [List.append_assoc] at hps

/-- The rules that are to have a definition get it, one after the other. -/
theorem QuietSteps.define {nodes : List (Parser τ)} {memory : Memory} (before after : List (Rule τ))
    (h : QuietSteps s₀ ⟨nodes, (before ++ after.map Rule.undefined).toArray,
      (before ++ after.map Rule.undefined).toArray, memory⟩)
    (hafter : ∀ r ∈ after, r.binding = .unset ∨ ∃ d ∈ nodes, r.binding = .bound d) :
    QuietSteps s₀ ⟨nodes, (before ++ after).toArray, (before ++ after).toArray, memory⟩ := by
  induction after generalizing before with
  | nil => exact h
  | cons r after ih =>
    obtain ⟨hr, hafter⟩ := List.forall_mem_cons.1 hafter
    rw [List.append_cons]
    refine ih _ ?_ hafter
    rw [List.append_assoc, List.singleton_append]
    rcases hr with hunset | ⟨d, hd, hbound⟩
    · have hsame : r.undefined = r := by rw [Rule.undefined, ← hunset]
      rwa [List.map_cons, hsame] at h
    · rw [List.map_cons] at h
      have hb : Grammar.binding (before ++ r.undefined :: after.map Rule.undefined).toArray
          before.length = .unset := by
        simp [Grammar.binding, Rule.undefined]
      have hdefine := h.tail ⟨none, by simp, Step.define hb hd⟩
      rwa [Rule.modify_undefined hbound] at hdefine

/-- **Whatever grammar was written, it can be built**: its rules are made, then its nodes in an order in
which each comes after its parts, and then the rules are defined. -/
theorem quietlyReachable_of_inOrder {nodes : List (Parser τ)} {rules : Grammar τ}
    (hnodes : InOrder rules.size [] nodes)
    (hrules : ∀ r ∈ rules, r.binding = .unset ∨ ∃ d ∈ nodes, r.binding = .bound d) :
    QuietlyReachable ⟨nodes, rules, rules, {}⟩ := by
  have hmade := QuietSteps.newRules (.refl (a := ({} : Session τ))) rules.toList
  have hbuilt := hmade.nodes (show InOrder _ [] nodes by simpa using hnodes)
  have hdefined := QuietSteps.define [] rules.toList (by simpa using hbuilt) (by simpa using hrules)
  simpa using hdefined

end Session

end GuardedParsing
