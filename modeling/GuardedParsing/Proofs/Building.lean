import GuardedParsing.Description
import GuardedParsing.Proofs.Remembering

/-!
# Building is part of a session

Whatever is built, the nodes and rules that come up are those of a session, and the rules that were
there before keep their definitions, also where the building fails.

What is said of the parser that is built is left open: a property that new nodes get from their parts
and that the growth of the session does not take away (`Heritable`). It may depend on the definitions
that are being built around the parser, whose stand-ins are at hand (`Nested`). That the parser is a
node of the session is one such property.

* `Session.Builds`: what is built from a moment of a session on, with a property of the result.
* `Session.Builds.bind`: one thing built after the other.
* `Session.builds_recursive`: a rule that is used in its own definition.
* `Session.builds_description`: **every description builds a parser with the property, or fails.**
-/

namespace GuardedParsing

namespace Session

variable {τ : Type} [Token τ] {α β : Type}

/-- The draft is the grammar of the moment `s`. -/
structure Drafts (s : Session τ) (d : Draft τ) : Prop where
  grammar_eq : s.grammar = d.grammar
  length_eq : s.nodes.length = d.nextKey
  kept_standIn {x : String × Parser τ} : x ∈ d.kept → x.2 ∈ s.nodes ∧ x.2.isStandIn = true

/-- The moment `s'` comes after `s` by building: what was there is as it was. -/
structure Grown (s s' : Session τ) : Prop where
  steps : QuietSteps s s'
  memory_eq : s'.memory = s.memory
  size_le : s.grammar.size ≤ s'.grammar.size
  binding_eq {rule : RuleId} :
    rule < s.grammar.size → s'.grammar.binding rule = s.grammar.binding rule

variable {s s' s'' : Session τ} {p q : Parser τ}

theorem Grown.refl (s : Session τ) : Grown s s := ⟨.refl, rfl, Nat.le_refl _, fun _ => rfl⟩

theorem Grown.trans (h : Grown s s') (h' : Grown s' s'') : Grown s s'' where
  steps := Relation.ReflTransGen.trans h.steps h'.steps
  memory_eq := h'.memory_eq.trans h.memory_eq
  size_le := Nat.le_trans h.size_le h'.size_le
  binding_eq hr := (h'.binding_eq (Nat.lt_of_lt_of_le hr h.size_le)).trans (h.binding_eq hr)

theorem Grown.mem (h : Grown s s') (hp : p ∈ s.nodes) : p ∈ s'.nodes := h.steps.steps.subset hp

theorem Grown.valid (h : Grown s s') (hs : s.Valid) : s'.Valid := Steps.valid h.steps.steps hs

/-- A property of the parsers of a session, which a node gets from its parts. References are left
out: what they have depends on their rules. -/
class Heritable (N : Session τ → Parser τ → Prop) : Prop where
  mem {s : Session τ} {p : Parser τ} : N s p → p ∈ s.nodes
  grown {s s' : Session τ} {p : Parser τ} : Grown s s' → N s p → N s' p
  node {s : Session τ} {p : Parser τ} : s.Valid → p ∈ s.nodes →
    (∀ key rule owning, p ≠ .refer key rule owning) → (∀ q ∈ p.parts, N s q) → N s p

/-- A property of the parsers that are there while the definitions of the rules `owners` are being
built: their stand-ins have it, and when such a definition is complete, the reference that owns the
rule has the property without it. -/
class Nested (N : List RuleId → Session τ → Parser τ → Prop) : Prop where
  heritable (owners : List RuleId) : Heritable (N owners)
  mono {owners owners' : List RuleId} {s : Session τ} {p : Parser τ} : owners ⊆ owners' →
    N owners s p → N owners' s p
  standIn {owners : List RuleId} {s : Session τ} {key : Key} {rule : RuleId} : s.Valid →
    .refer key rule false ∈ s.nodes → rule ∈ owners → N owners s (.refer key rule false)
  owner {owners : List RuleId} {s s' : Session τ} {key : Key} {rule : RuleId} {p : Parser τ} :
    s'.Valid → .refer key rule true ∈ s'.nodes → s.grammar.binding rule = .unset →
    N (rule :: owners) s p → s'.grammar = s.grammar.modify rule ({ · with binding := .bound p }) →
    N owners s' (.refer key rule true)

attribute [instance] Nested.heritable

/-- The parser is a node. -/
def Node (s : Session τ) (p : Parser τ) : Prop := p ∈ s.nodes

instance : Nested (fun _ => Node : List RuleId → Session τ → Parser τ → Prop) where
  heritable _ := { mem := id, grown := Grown.mem, node := fun _ hp _ _ => hp }
  mono _ hp := hp
  standIn _ hp _ := hp
  owner _ hp _ _ _ := hp

/-- All parsers of a list have the property. -/
def All (N : Session τ → Parser τ → Prop) (s : Session τ) (ps : List (Parser τ)) : Prop :=
  ∀ p ∈ ps, N s p

/-- What is built from the moment `s` on: it is part of the session, and its result has the property
`P` at the moment that it leads to. -/
def Builds (s : Session τ) (b : Build τ α) (P : Session τ → α → Prop) : Prop :=
  s.Valid → ∀ d, s.Drafts d → ∃ s', Grown s s' ∧ s'.Drafts (b.runFrom d).2 ∧
    ∀ a, (b.runFrom d).1 = .ok a → P s' a

variable {P P' : Session τ → α → Prop} {Q : Session τ → β → Prop} {b : Build τ α}
  {k : α → Build τ β}

theorem builds_return {a : α} (ha : P s a) : s.Builds (pure a) P := by
  intro _ d hd
  refine ⟨s, .refl s, hd, ?_⟩
  rintro c ⟨⟩
  exact ha

theorem builds_throw (e : GrammarError) : s.Builds (throw e : Build τ α) P := by
  intro _ d hd
  refine ⟨s, .refl s, hd, ?_⟩
  rintro c ⟨⟩

theorem Builds.imp (h : s.Builds b P) (hP : ∀ s' a, Grown s s' → s'.Valid → P s' a → P' s' a) :
    s.Builds b P' := by
  intro hs d hd
  obtain ⟨s', hs', hd', ha⟩ := h hs d hd
  exact ⟨s', hs', hd', fun a hr => hP s' a hs' (hs'.valid hs) (ha a hr)⟩

/-- One thing built after the other. -/
theorem Builds.bind (h : s.Builds b P) (hk : ∀ a s', Grown s s' → P s' a → s'.Builds (k a) Q) :
    s.Builds (b >>= k) Q := by
  intro hs d hd
  obtain ⟨s', hs', hd', hP⟩ := h hs d hd
  rw [Effect.runFrom_bind]
  rcases hr : b.runFrom d with ⟨e | a, d'⟩ <;> rw [hr] at hd' hP
  · exact ⟨s', hs', hd', by rintro c ⟨⟩⟩
  · obtain ⟨s'', hs'', hd'', hQ⟩ := hk a s' hs' (hP a rfl) (hs'.valid hs) d' hd'
    exact ⟨s'', hs'.trans hs'', hd'', hQ⟩

/-- A node is built from nodes and rules that are there. -/
theorem builds_new {make : Key → Parser τ} (hkey : ∀ key, (make key).key = key)
    (hparts : ∀ key, ∀ q ∈ (make key).parts, q ∈ s.nodes)
    (hrule : ∀ key key' rule owning, make key = .refer key' rule owning → rule < s.grammar.size) :
    s.Builds (Build.node make) fun s' p =>
      s'.grammar = s.grammar ∧ p ∈ s'.nodes ∧ ∃ key, p = make key := by
  intro _ d hd
  have hstep := Step.node (s := s) (make d.nextKey) (by rw [hkey, hd.length_eq])
    (hparts _) (fun key rule owning h => hrule _ key rule owning h)
  refine ⟨_, ⟨.single ⟨none, by simp, hstep⟩, rfl, Nat.le_refl _, fun _ => rfl⟩, ⟨?_, ?_, ?_⟩, ?_⟩
  · exact hd.grammar_eq
  · rw [List.length_append, hd.length_eq]
    rfl
  · exact fun hx => (hd.kept_standIn hx).imp (List.mem_append_left _) id
  · rintro a ⟨⟩
    exact ⟨rfl, List.mem_append_right _ (.head _), d.nextKey, rfl⟩

/-- A reference to a rule that is there. -/
theorem builds_refer {rule : RuleId} {owning : Bool} (hrule : rule < s.grammar.size) :
    s.Builds (Build.node (.refer · rule owning)) fun s' p =>
      s'.grammar = s.grammar ∧ p ∈ s'.nodes ∧ ∃ key, p = .refer key rule owning := by
  refine builds_new (fun _ => rfl) (fun _ _ hq => nomatch hq) ?_
  rintro key key' rule' owning' ⟨⟩
  exact hrule

/-- A stand-in is kept under a name. -/
theorem builds_keep {name : String} (hp : p ∈ s.nodes) (hstandIn : p.isStandIn = true) :
    s.Builds (Build.keep name p) fun _ _ => True := by
  intro _ d hd
  refine ⟨s, .refl s, ⟨hd.grammar_eq, hd.length_eq, fun hx => ?_⟩, fun _ _ => trivial⟩
  rcases List.mem_cons.1 hx with rfl | hx
  · exact ⟨hp, hstandIn⟩
  · exact hd.kept_standIn hx

/-- A new rule has no definition. -/
theorem builds_newRule (name : Option String) :
    s.Builds (Build.newRule name) fun s' rule =>
      rule = s.grammar.size ∧ s'.grammar.size = s.grammar.size + 1 ∧
        s'.grammar.binding rule = .unset := by
  intro _ d hd
  have hname : ∀ rule, Grammar.binding (d.grammar.push ⟨name.getD (Grammar.numberName rule), .unset⟩)
      d.grammar.size = .unset := by
    intro rule
    rw [Grammar.binding_push, if_pos rfl]
  have hstep := Step.newRule (s := s) (name.getD (Grammar.numberName d.grammar.size))
  refine ⟨_, ⟨.single ⟨none, by simp, hstep⟩, rfl, ?_, fun hr => ?_⟩, ⟨?_, ?_, ?_⟩, ?_⟩
  · rw [Array.size_push]
    exact Nat.le_succ _
  · rw [Grammar.binding_push, if_neg (Nat.ne_of_lt hr)]
  · rw [hd.grammar_eq]
    rfl
  · exact hd.length_eq
  · exact fun hx => hd.kept_standIn hx
  · rintro rule ⟨⟩
    refine ⟨by rw [hd.grammar_eq], Array.size_push _, ?_⟩
    rw [hd.grammar_eq]
    exact hname _

/-- A rule that has no definition gets one; the other rules keep theirs. -/
theorem define_grown {rule : RuleId} (hb : s.grammar.binding rule = .unset) (hp : p ∈ s.nodes)
    {d : Draft τ} (hd : s.Drafts d) :
    ∃ s', QuietSteps s s' ∧ s'.memory = s.memory ∧
      s'.grammar = s.grammar.modify rule ({ · with binding := .bound p }) ∧
      s'.Drafts ((Build.define rule p).runFrom d).2 := by
  refine ⟨_, .single ⟨none, by simp, Step.define hb hp⟩, rfl, rfl, ?_, hd.length_eq,
    hd.kept_standIn⟩
  rw [hd.grammar_eq]
  rfl

section Heritable

variable {N : Session τ → Parser τ → Prop} [Heritable N]

theorem Grown.has (h : Grown s s') (hp : N s p) : N s' p := Heritable.grown h hp

omit [Heritable N] in
/-- A parser built from another one. -/
theorem Builds.next {b : Build τ (Parser τ)} {k : Parser τ → Build τ (Parser τ)}
    (hb : s.Builds b N) (hk : ∀ p s', Grown s s' → N s' p → s'.Builds (k p) N) :
    s.Builds (b >>= k) N := hb.bind hk

/-- Two parsers built one after the other, and one from both. -/
theorem Builds.bind₂ {b c : Build τ (Parser τ)} {k : Parser τ → Parser τ → Build τ (Parser τ)}
    (hb : s.Builds b N) (hc : ∀ s' : Session τ, Grown s s' → s'.Builds c N)
    (hk : ∀ (s' : Session τ) p q, N s' p → N s' q → s'.Builds (k p q) N) :
    s.Builds (b >>= fun p => c >>= fun q => k p q) N := by
  refine hb.bind fun p s₁ hs₁ hp => ?_
  refine (hc s₁ hs₁).bind fun q s₂ hs₂ hq => ?_
  exact hk s₂ p q (hs₂.has hp) hq

/-- A node that is no reference is built from parts that have the property. -/
theorem builds_node {make : Key → Parser τ} (hkey : ∀ key, (make key).key = key)
    (hparts : ∀ key, ∀ q ∈ (make key).parts, N s q)
    (hmake : ∀ key key' rule owning, make key ≠ .refer key' rule owning) :
    s.Builds (Build.node make) N := by
  refine (builds_new hkey (fun key q hq => Heritable.mem (hparts key q hq))
    fun key key' rule owning h => absurd h (hmake key key' rule owning)).imp ?_
  rintro s' p hs' hvalid ⟨-, hp, key, rfl⟩
  exact Heritable.node hvalid hp (hmake key) fun q hq => hs'.has (hparts key q hq)

theorem builds_leaf (leaf : Primitive τ) : s.Builds (Build.node (.primitive · leaf)) N :=
  builds_node (fun _ => rfl) (fun _ _ hq => nomatch hq) fun _ _ _ _ => nofun

theorem builds_modified {m : Modifier} (hp : N s p) :
    s.Builds (Build.node (.modified · m p)) N :=
  builds_node (fun _ => rfl) (fun _ => List.forall_mem_singleton.2 hp) fun _ _ _ _ => nofun

theorem builds_observed {name : String} (hp : N s p) :
    s.Builds (Build.node (.observed · name p)) N :=
  builds_node (fun _ => rfl) (fun _ => List.forall_mem_singleton.2 hp) fun _ _ _ _ => nofun

theorem builds_or (hp : N s p) (hq : N s q) : s.Builds (Build.or p q) N :=
  builds_node (fun _ => rfl) (fun _ => List.forall_mem_cons.2 ⟨hp, List.forall_mem_singleton.2 hq⟩)
    fun _ _ _ _ => nofun

theorem builds_and (hp : N s p) (hq : N s q) : s.Builds (Build.and p q) N :=
  builds_node (fun _ => rfl) (fun _ => List.forall_mem_cons.2 ⟨hp, List.forall_mem_singleton.2 hq⟩)
    fun _ _ _ _ => nofun

theorem builds_sequence {ps : List (Parser τ)} (hps : All N s ps) :
    s.Builds (Build.sequence ps) N :=
  builds_node (fun _ => rfl) (fun _ => hps) fun _ _ _ _ => nofun

theorem builds_many (hp : N s p) : s.Builds (Build.many p) N :=
  builds_node (fun _ => rfl) (fun _ => List.forall_mem_singleton.2 hp) fun _ _ _ _ => nofun

end Heritable

section Recursive

variable {N : List RuleId → Session τ → Parser τ → Prop} [Nested N] {owners : List RuleId}

/-- A rule that is used in its own definition. While the definition is built, the rule has none. -/
theorem builds_recursive {definition : Parser τ → Build τ (Parser τ)}
    (hdef : ∀ s' rule key, Grown s s' → N (rule :: owners) s' (.refer key rule false) →
      s'.Builds (definition (.refer key rule false)) (N (rule :: owners))) :
    s.Builds (Build.recursive definition) (N owners) := by
  intro hs d hd
  -- a rule `s.grammar.size`, its stand-in and its definition, which leaves the rule undefined
  obtain ⟨s₁, hs₁, hd₁, hrule⟩ := builds_newRule none hs d hd
  rw [Build.recursive, Effect.runFrom_bind]
  rcases hr : (Build.newRule none : Build τ RuleId).runFrom d with ⟨e | rule, d₁⟩ <;>
    rw [hr] at hd₁ hrule
  · exact ⟨s₁, hs₁, hd₁, by rintro c ⟨⟩⟩
  · obtain ⟨rfl, hsize, hunset⟩ := hrule _ rfl
    have hstandIn : s₁.Builds (Build.node (.refer · s.grammar.size false)) fun s' p =>
        s'.Valid ∧ p ∈ s'.nodes ∧ ∃ key, p = .refer key s.grammar.size false :=
      (builds_refer (Grammar.lt_size_of_unset hunset)).imp fun _ _ _ hvalid h => ⟨hvalid, h.2⟩
    have hbody : s₁.Builds (Build.node (.refer · s.grammar.size false) >>= definition)
        (N (s.grammar.size :: owners)) := by
      refine hstandIn.bind ?_
      rintro _ s₂ hs₂ ⟨hvalid, hp, key, rfl⟩
      exact hdef s₂ s.grammar.size key (hs₁.trans hs₂) (Nested.standIn hvalid hp (.head _))
    obtain ⟨s₃, hs₃, hd₃, hnode⟩ := hbody (hs₁.valid hs) d₁ hd₁
    simp only
    rw [← bind_assoc, Effect.runFrom_bind]
    rcases hr' : (Build.node (.refer · s.grammar.size false) >>= definition).runFrom d₁ with
      ⟨e | body, d₃⟩ <;> rw [hr'] at hd₃ hnode
    · exact ⟨s₃, hs₁.trans hs₃, hd₃, by rintro c ⟨⟩⟩
    -- the rule was not there at `s`: defining it changes nothing that was
    · have hbody := hnode body rfl
      have hunset₃ : s₃.grammar.binding s.grammar.size = .unset := by
        rw [hs₃.binding_eq (Grammar.lt_size_of_unset hunset), hunset]
      have hlt₃ := Grammar.lt_size_of_unset hunset₃
      obtain ⟨s₄, hsteps, hmemory, hgrammar, hd₄⟩ :=
        define_grown hunset₃ (Heritable.mem hbody) hd₃
      have hsize₄ : s₄.grammar.size = s₃.grammar.size := by
        rw [hgrammar, Array.size_modify]
      have hs₄ : Grown s s₄ :=
        { steps := (hs₁.trans hs₃).steps.trans hsteps
          memory_eq := hmemory.trans (hs₁.trans hs₃).memory_eq
          size_le := by
            rw [hsize₄]
            exact (hs₁.trans hs₃).size_le
          binding_eq := fun hr => by
            rw [hgrammar, Grammar.binding_modify hlt₃, if_neg (Nat.ne_of_lt hr)]
            exact (hs₁.trans hs₃).binding_eq hr }
      have hlt₄ : s.grammar.size < s₄.grammar.size := by
        rw [hsize₄]
        exact hlt₃
      obtain ⟨s₅, hs₅, hd₅, hnode₅⟩ := builds_refer hlt₄ (hs₄.valid hs) _ hd₄
      refine ⟨s₅, hs₄.trans hs₅, hd₅, fun p hp => ?_⟩
      obtain ⟨hgrammar₅, hmem, key, rfl⟩ := hnode₅ p hp
      exact Nested.owner ((hs₄.trans hs₅).valid hs) hmem hunset₃ hbody (hgrammar₅.trans hgrammar)

end Recursive

section Heritable

variable {N : Session τ → Parser τ → Prop} [Heritable N]

omit [Heritable N] in
/-- Parsers are built in order, each from the one before it. -/
theorem builds_foldlM {γ : Type} {f : Parser τ → γ → Build τ (Parser τ)} {R : Session τ → γ → Prop}
    (hf : ∀ s p c, N s p → R s c → s.Builds (f p c) N)
    (hR : ∀ s s' c, Grown s s' → R s c → R s' c) :
    ∀ (cs : List γ) {s : Session τ} {p : Parser τ}, N s p → (∀ c ∈ cs, R s c) →
      s.Builds (cs.foldlM f p) N
  | [], _, _, hp, _ => builds_return hp
  | c :: cs, _, _, hp, hcs => by
    rw [List.foldlM_cons]
    refine (hf _ _ c hp (hcs c (.head _))).bind fun p s' hs' hp' => ?_
    exact builds_foldlM hf hR cs hp' fun c hc => hR _ _ c hs' (hcs c (.tail _ hc))

/-- Parsers are built one after the other. -/
theorem builds_mapM {γ : Type} {f : γ → Build τ (Parser τ)}
    (hf : ∀ (s : Session τ) c, s.Builds (f c) N) :
    ∀ (cs : List γ) {s : Session τ}, s.Builds (cs.mapM f) (All N)
  | [], _ => by
    rw [List.mapM_nil]
    exact builds_return fun _ hp => nomatch hp
  | c :: cs, s => by
    rw [List.mapM_cons]
    refine (hf s c).bind fun p s' _ hp => ?_
    refine (builds_mapM hf cs).bind fun ps s'' hs'' hps => ?_
    exact builds_return (List.forall_mem_cons.2 ⟨hs''.has hp, hps⟩)

section Combinators

variable {r : Parser τ}

theorem builds_thenIgnore (hp : N s p) (hq : N s q) :
    s.Builds (Build.thenIgnore p q) N := by
  refine (builds_and hp hq).next fun both _ _ hboth => ?_
  exact builds_modified hboth

theorem builds_ignoreThen (hp : N s p) (hq : N s q) :
    s.Builds (Build.ignoreThen p q) N := by
  refine (builds_and hp hq).next fun both _ _ hboth => ?_
  exact builds_modified hboth

theorem builds_either (hp : N s p) (hq : N s q) : s.Builds (Build.either p q) N :=
  (builds_modified hp).bind₂ (fun _ hs => builds_modified (hs.has hq)) fun _ _ _ => builds_or

theorem builds_choice {ps : List (Parser τ)} (hps : All N s ps) :
    s.Builds (Build.choice ps) N := by
  cases ps with
  | nil => exact builds_throw _
  | cons p ps =>
    exact builds_foldlM (R := N) (fun _ _ _ hp hc => builds_or hp hc)
      (fun _ _ _ hs hc => hs.has hc) ps (hps p (.head _)) fun c hc => hps c (.tail _ hc)

theorem builds_many1 (hp : N s p) : s.Builds (Build.many1 p) N := by
  refine (builds_many hp).next fun rest s₁ hs₁ hrest => ?_
  refine (builds_and (hs₁.has hp) hrest).next fun both _ _ hboth => ?_
  exact builds_modified hboth

theorem builds_sepBy1 (hp : N s p) (hq : N s q) : s.Builds (Build.sepBy1 p q) N := by
  refine (builds_ignoreThen hq hp).next fun next s₁ hs₁ hnext => ?_
  refine (builds_many hnext).next fun rest s₂ hs₂ hrest => ?_
  refine (builds_and ((hs₁.trans hs₂).has hp) hrest).next fun both _ _ hboth => ?_
  exact builds_modified hboth

theorem builds_sepBy (hp : N s p) (hq : N s q) : s.Builds (Build.sepBy p q) N := by
  refine (builds_sepBy1 hp hq).next fun list _ _ hlist => ?_
  refine (builds_modified hlist).next fun maybe _ _ hmaybe => ?_
  exact builds_modified hmaybe

theorem builds_between (hp : N s p) (hq : N s q) (hr : N s r) :
    s.Builds (Build.between p q r) N := by
  refine (builds_modified hp).next fun opening s₁ hs₁ hopening => ?_
  refine (builds_modified (hs₁.has hr)).next fun content s₂ hs₂ hcontent => ?_
  refine (builds_modified ((hs₁.trans hs₂).has hq)).next fun closing s₃ hs₃ hclosing => ?_
  refine (builds_and ((hs₂.trans hs₃).has hopening) (hs₃.has hcontent)).bind
    fun both s₄ hs₄ hboth => ?_
  refine (builds_and hboth (hs₄.has hclosing)).next fun all _ _ hall => ?_
  exact builds_modified hall

theorem builds_paddedBy (hp : N s p) (hq : N s q) : s.Builds (Build.paddedBy p q) N := by
  refine (builds_ignoreThen hq hp).next fun rest s₁ hs₁ hrest => ?_
  exact builds_thenIgnore hrest (hs₁.has hq)

theorem builds_chain (hp : N s p) (hq : N s q) : s.Builds (Build.chain p q) N := by
  refine (builds_and hq hp).next fun next s₁ hs₁ hnext => ?_
  refine (builds_many hnext).next fun rest s₂ hs₂ hrest => ?_
  exact builds_and ((hs₁.trans hs₂).has hp) hrest

variable {combine : Value → Value → Value → Value}

theorem builds_chainLeft1 (hp : N s p) (hq : N s q) :
    s.Builds (Build.chainLeft1 combine p q) N :=
  (builds_chain hp hq).next fun _ _ _ h => builds_modified h

theorem builds_chainRight1 (hp : N s p) (hq : N s q) :
    s.Builds (Build.chainRight1 combine p q) N :=
  (builds_chain hp hq).next fun _ _ _ h => builds_modified h

theorem builds_chainLeft {seed : Value} (hp : N s p) (hq : N s q) :
    s.Builds (Build.chainLeft combine p q seed) N :=
  (builds_chainLeft1 hp hq).bind₂ (fun _ _ => builds_leaf _) fun _ _ _ => builds_or

theorem builds_chainRight {seed : Value} (hp : N s p) (hq : N s q) :
    s.Builds (Build.chainRight combine p q seed) N :=
  (builds_chainRight1 hp hq).bind₂ (fun _ _ => builds_leaf _) fun _ _ _ => builds_or

/-- A layer around a parser. -/
theorem builds_around (i : Nat) (layer : Layer) (hp : N s p) :
    s.Builds (layer.around i p) N := by
  cases layer with
  | increment | label => exact builds_modified hp
  | debug => exact builds_observed hp
  | orFail => exact (builds_leaf _).next fun _ _ hs h => builds_or (hs.has hp) h
  | failOr => exact (builds_leaf _).next fun _ _ hs h => builds_or h (hs.has hp)
  | thenPure => exact (builds_leaf _).next fun _ _ hs h => builds_thenIgnore (hs.has hp) h
  | pureThen => exact (builds_leaf _).next fun _ _ hs h => builds_ignoreThen h (hs.has hp)
  | betweenPure =>
    exact (builds_leaf _).next fun _ _ hs h => (builds_leaf _).next fun _ _ hs' h' =>
      builds_between (hs'.has h) h' ((hs.trans hs').has hp)
  | not | optional => exact (builds_modified hp).next fun _ _ _ h => builds_modified h
  | sequence =>
    exact (builds_sequence (List.forall_mem_singleton.2 hp)).next fun _ _ _ h => builds_modified h
  | many => exact (builds_many hp).next fun _ _ _ h => builds_modified h

theorem builds_pile (n : Nat) (layers : Array Layer) (hp : N s p) :
    s.Builds (Layer.pile n layers p) N := by
  refine builds_foldlM (R := fun _ _ => True) (fun s p i hp _ => ?_) (fun _ _ _ _ _ => trivial) _ hp
    fun _ _ => trivial
  split
  · exact builds_around i _ hp
  · exact builds_return hp

end Combinators

/-- A pattern of characters. -/
theorem builds_pattern [Token Char] {s : Session Char} {N : Session Char → Parser Char → Prop}
    [Heritable N] (pattern : TextPattern) : s.Builds pattern.build N := by
  have hdigits : ∀ s : Session Char, s.Builds Build.digits N := by
    intro s
    refine (builds_leaf _).next fun digit _ _ hdigit => ?_
    refine (builds_many1 hdigit).next fun list _ _ hlist => ?_
    exact builds_modified hlist
  have hident : ∀ s : Session Char, s.Builds Build.ident N := by
    intro s
    refine (builds_leaf _).next fun start s₁ hs₁ hstart => ?_
    refine (builds_leaf _).next fun more s₂ hs₂ hmore => ?_
    refine (builds_many hmore).next fun rest s₃ hs₃ hrest => ?_
    refine (builds_and ((hs₂.trans hs₃).has hstart) hrest).next fun both _ _ hboth => ?_
    exact builds_modified hboth
  cases pattern with
  | character | digit | hexDigit | letter | alphaNum | whitespace => exact builds_leaf _
  | space | word =>
    refine (builds_leaf _).next fun leaf _ _ hleaf => ?_
    refine (builds_many1 hleaf).next fun list _ _ hlist => ?_
    exact builds_modified hlist
  | number =>
    refine (hdigits s).next fun digits _ _ hdigits => ?_
    refine (builds_modified hdigits).next fun number _ _ hnumber => ?_
    exact builds_modified hnumber
  | integer =>
    refine (builds_leaf _).bind₂ (fun _ _ => builds_leaf _) fun s₁ plus minus hplus hminus => ?_
    refine (builds_or hplus hminus).next fun either s₂ _ heither => ?_
    refine (builds_modified heither).bind₂ (fun s₃ _ => hdigits s₃)
      fun s₄ sign digits hsign hdigits => ?_
    refine (builds_and hsign hdigits).next fun both _ _ hboth => ?_
    refine (builds_modified hboth).next fun number _ _ hnumber => ?_
    exact builds_modified hnumber
  | string text =>
    refine (builds_mapM (N := N) (fun _ _ => builds_leaf _) _).bind fun characters _ _ hcharacters => ?_
    refine (builds_sequence hcharacters).next fun list _ _ hlist => ?_
    exact builds_modified hlist
  | ident => exact hident s
  | keyword text =>
    refine (hident s).next fun ident _ _ hident => ?_
    exact builds_modified hident

end Heritable

/-- What the names stand for is there. -/
structure Knows (s : Session τ) (scope : Scope τ) : Prop where
  rule_lt {x : String × RuleId} : x ∈ scope.rules → x.2 < s.grammar.size
  parser_mem {x : String × Parser τ} : x ∈ scope.parsers → x.2 ∈ s.nodes

/-- What the names stand for may be used: the parsers have the property, and so has every reference
that owns one of the rules. -/
structure Supplies (N : Session τ → Parser τ → Prop) (s : Session τ) (scope : Scope τ) : Prop where
  rule_lt {x : String × RuleId} : x ∈ scope.rules → x.2 < s.grammar.size
  owner {x : String × RuleId} : x ∈ scope.rules → ∀ s' key, Grown s s' → s'.Valid →
    .refer key x.2 true ∈ s'.nodes → N s' (.refer key x.2 true)
  parser {x : String × Parser τ} : x ∈ scope.parsers → N s x.2

variable {scope : Scope τ}

theorem Knows.grown (h : s.Knows scope) (hs : Grown s s') : s'.Knows scope where
  rule_lt hx := Nat.lt_of_lt_of_le (h.rule_lt hx) hs.size_le
  parser_mem hx := hs.mem (h.parser_mem hx)

theorem Knows.supplies (h : s.Knows scope) : s.Supplies Node scope where
  rule_lt := h.rule_lt
  owner _ _ _ _ _ hp := hp
  parser := h.parser_mem

theorem Supplies.grown {N : Session τ → Parser τ → Prop} [Heritable N]
    (h : s.Supplies N scope) (hs : Grown s s') : s'.Supplies N scope where
  rule_lt hx := Nat.lt_of_lt_of_le (h.rule_lt hx) hs.size_le
  owner hx s'' key hs'' := h.owner hx s'' key (hs.trans hs'')
  parser hx := hs.has (h.parser hx)

section Nested

variable {N : List RuleId → Session τ → Parser τ → Prop} [Nested N] {owners : List RuleId}

/-- Inside the definition of a rule, there is the stand-in as well. -/
theorem Supplies.inside (h : s.Supplies (N owners) scope) {rule : RuleId} (name : String)
    (hp : N (rule :: owners) s p) :
    s.Supplies (N (rule :: owners)) { scope with parsers := (name, p) :: scope.parsers } where
  rule_lt hx := h.rule_lt hx
  owner hx s' key hs' hvalid hmem :=
    Nested.mono (List.subset_cons_self _ _) (h.owner hx s' key hs' hvalid hmem)
  parser hx := by
    rcases List.mem_cons.1 hx with rfl | hx
    · exact hp
    · exact Nested.mono (List.subset_cons_self _ _) (h.parser hx)

theorem mem_of_lookup {γ : Type} {name : String} {c : γ} {xs : List (String × γ)}
    (h : xs.lookup name = some c) : (name, c) ∈ xs := by
  induction xs with
  | nil => cases h
  | cons x xs ih =>
    obtain ⟨name', c'⟩ := x
    rw [List.lookup_cons] at h
    split at h
    · rename_i heq
      obtain rfl := eq_of_beq heq
      obtain rfl := Option.some.inj h
      exact .head _
    · exact .tail _ (ih h)

mutual

/-- **Every description builds a parser with the property, or fails.** -/
theorem builds_description {s : Session τ} {scope : Scope τ} {owners : List RuleId}
    (hs : s.Supplies (N owners) scope) :
    ∀ d : Description τ, s.Builds (d.build scope) (N owners)
  | .pure _ | .fail _ => builds_leaf _
  | .eof | .any | .just _ | .oneOf _ | .noneOf _ | .satisfy _ _ =>
    Builds.next (N := N owners) (builds_leaf _) fun _ _ _ h => builds_modified h
  | .text characters pattern => by
    subst characters
    exact Builds.next (N := N owners) (builds_pattern pattern) fun _ _ _ h => builds_modified h
  | .padded characters p => by
    have hp := builds_description hs p
    subst characters
    exact hp.next fun _ _ _ h => Builds.next (N := N owners) (builds_leaf _) fun _ _ hs₁ h₁ =>
      (builds_many h₁).next fun _ _ hs₂ h₂ => builds_paddedBy ((hs₁.trans hs₂).has h) h₂
  | .paddedBy p q =>
    (builds_description hs p).bind₂ (fun _ hs₁ => builds_description (hs.grown hs₁) q)
      fun _ _ _ => builds_paddedBy
  | .map _ p | .tryMap _ p | .constant _ p | .labelled _ p =>
    (builds_description hs p).next fun _ _ _ h => builds_modified h
  | .debug _ p => (builds_description hs p).next fun _ _ _ h => builds_observed h
  | .both p q =>
    (builds_description hs p).bind₂ (fun _ hs₁ => builds_description (hs.grown hs₁) q)
      fun _ _ _ hp hq => (builds_and hp hq).next fun _ _ _ h => builds_modified h
  | .thenIgnore p q =>
    (builds_description hs p).bind₂ (fun _ hs₁ => builds_description (hs.grown hs₁) q)
      fun _ _ _ => builds_thenIgnore
  | .ignoreThen p q =>
    (builds_description hs p).bind₂ (fun _ hs₁ => builds_description (hs.grown hs₁) q)
      fun _ _ _ => builds_ignoreThen
  | .or p q =>
    (builds_description hs p).bind₂ (fun _ hs₁ => builds_description (hs.grown hs₁) q)
      fun _ _ _ => builds_or
  | .either p q =>
    (builds_description hs p).bind₂ (fun _ hs₁ => builds_description (hs.grown hs₁) q)
      fun _ _ _ hp hq => (builds_either hp hq).next fun _ _ _ h => builds_modified h
  | .choice ps => (builds_all hs ps).bind fun _ _ _ h => builds_choice h
  | .list l => (builds_listing hs l).next fun _ _ _ h => builds_modified h
  | .collect l =>
    (builds_listing hs l).next fun _ _ _ h => (builds_modified h).next fun _ _ _ h' =>
      builds_modified h'
  | .optional p | .not p =>
    (builds_description hs p).next fun _ _ _ h => (builds_modified h).next fun _ _ _ h' =>
      builds_modified h'
  | .between p opening closing => by
    refine (builds_description hs p).next fun _ s₁ hs₁ hp => ?_
    refine (builds_description (hs.grown hs₁) opening).next fun _ s₂ hs₂ hopening => ?_
    have hs' := (hs.grown hs₁).grown hs₂
    refine (builds_description hs' closing).next fun _ s₃ hs₃ hclosing => ?_
    exact builds_between (hs₃.has hopening) hclosing ((hs₂.trans hs₃).has hp)
  | .chainLeft1 p operator =>
    (builds_description hs p).bind₂
      (fun _ hs₁ => builds_description (hs.grown hs₁) operator)
      fun _ _ _ hp hq => (builds_modified hq).next fun _ _ hs₂ h => builds_chainLeft1 (hs₂.has hp) h
  | .chainRight1 p operator =>
    (builds_description hs p).bind₂
      (fun _ hs₁ => builds_description (hs.grown hs₁) operator)
      fun _ _ _ hp hq => (builds_modified hq).next fun _ _ hs₂ h => builds_chainRight1 (hs₂.has hp) h
  | .chainLeft p operator _ =>
    (builds_description hs p).bind₂
      (fun _ hs₁ => builds_description (hs.grown hs₁) operator)
      fun _ _ _ hp hq => (builds_modified hq).next fun _ _ hs₂ h => builds_chainLeft (hs₂.has hp) h
  | .chainRight p operator _ =>
    (builds_description hs p).bind₂
      (fun _ hs₁ => builds_description (hs.grown hs₁) operator)
      fun _ _ _ hp hq => (builds_modified hq).next fun _ _ hs₂ h => builds_chainRight (hs₂.has hp) h
  | .rule name => by
    rw [Description.build]
    split
    · rename_i rule h
      refine (builds_refer (hs.rule_lt (mem_of_lookup h))).imp ?_
      rintro s' _ hs' hvalid ⟨-, hmem, key, rfl⟩
      exact hs.owner (mem_of_lookup h) s' key hs' hvalid hmem
    · exact builds_throw _
  | .var name => by
    rw [Description.build]
    split
    · rename_i p h
      exact builds_return (hs.parser (mem_of_lookup h))
    · exact builds_throw _
  | .recursive var p kept => by
    rw [Description.build]
    refine builds_recursive fun s' rule key hs' h => ?_
    have hbody := fun s'' (hs'' : Grown s' s'') =>
      builds_description (((hs.grown hs').grown hs'').inside var (hs''.has h)) p
    cases kept with
    | none => exact hbody s' (.refl s')
    | some name =>
      exact (builds_keep (Heritable.mem h) rfl).bind fun _ s'' hs'' _ => hbody s'' hs''
  | .wrap n layers p => (builds_description hs p).next fun _ _ _ h => builds_pile n layers h
  | .choiceRange integers first last =>
    (builds_mapM (N := N owners)
      (fun _ _ => Builds.next (builds_leaf _) fun _ _ _ h => builds_modified h) _).bind
        fun _ _ _ h => builds_choice h

/-- Descriptions build parsers with the property, in order. -/
theorem builds_all {s : Session τ} {scope : Scope τ} {owners : List RuleId}
    (hs : s.Supplies (N owners) scope) :
    ∀ ds : List (Description τ), s.Builds (buildAll scope ds) (All (N owners))
  | [] => builds_return fun _ hp => nomatch hp
  | d :: ds =>
    (builds_description hs d).bind fun _ _ hs₁ h =>
      (builds_all (hs.grown hs₁) ds).bind fun _ _ hs₂ hps =>
        builds_return (List.forall_mem_cons.2 ⟨hs₂.has h, hps⟩)

/-- The description of a list builds a parser with the property, or fails. -/
theorem builds_listing {s : Session τ} {scope : Scope τ} {owners : List RuleId}
    (hs : s.Supplies (N owners) scope) :
    ∀ l : Listing τ, s.Builds (l.build scope) (N owners)
  | .sequence ps => (builds_all hs ps).bind fun _ _ _ h => builds_sequence h
  | .many p => (builds_description hs p).next fun _ _ _ h => builds_many h
  | .many1 p => (builds_description hs p).next fun _ _ _ h => builds_many1 h
  | .sepBy p q =>
    (builds_description hs p).bind₂ (fun _ hs₁ => builds_description (hs.grown hs₁) q)
      fun _ _ _ => builds_sepBy
  | .sepBy1 p q =>
    (builds_description hs p).bind₂ (fun _ hs₁ => builds_description (hs.grown hs₁) q)
      fun _ _ _ => builds_sepBy1

end

end Nested

end Session

end GuardedParsing
