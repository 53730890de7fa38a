import GuardedParsing.Proofs.Commands
import GuardedParsing.Proofs.Ownership

/-!
# Stand-ins do not dangle

The stand-in of a rule does not keep the rule from being released, and yet it is never used after
that, as long as it occurs only inside the definition that it was made for. Whoever holds a parser
then comes to the stand-in through an owner of its rule, and what is held, with all that it owns, is
not released.

* `Workspace.Sheltered`: nothing that has a name in the workspace is loose.
* `Workspace.At.sheltered_perform`: **each command keeps a workspace sheltered**, unless it gives a
  name to a stand-in.
* `standIns_never_dangle`: **in a run that never keeps a stand-in under a name, no parse and no
  question comes to a released rule.**
-/

namespace GuardedParsing

open Session

variable {τ : Type} [Token τ]

namespace Session

variable {s s' : Session τ} {p : Parser τ} {owners : List RuleId}

/-- The parser is a node that is not loose, with the given owners around it. -/
structure Firm (owners : List RuleId) (s : Session τ) (p : Parser τ) : Prop where
  valid : s.Valid
  mem : p ∈ s.nodes
  not_loose : ¬Loose s.grammar owners p

/-- What is built later does not make a parser loose. -/
theorem Firm.grown (hs : Grown s s') (h : Firm owners s p) : Firm owners s' p where
  valid := hs.valid h.valid
  mem := hs.mem h.mem
  not_loose hloose := h.not_loose (hloose.of_binding_eq h.valid (fun _ => hs.binding_eq) h.mem)

instance : Nested (τ := τ) Firm where
  heritable owners :=
    { mem := Firm.mem
      grown := Firm.grown
      node := fun hs hp hrefer hparts => ⟨hs, hp, fun hloose => by
        obtain ⟨q, hq, hloose⟩ := hloose.exists_part hrefer
        exact (hparts q hq).not_loose hloose⟩ }
  mono hsub h := ⟨h.valid, h.mem, fun hloose => h.not_loose (hloose.anti hsub)⟩
  standIn hs hp hrule := ⟨hs, hp, fun hloose => by
    cases hloose with
    | standIn h => exact h hrule
    | part hq => cases hq⟩
  -- before the definition the owner is not loose; with it, it is only if the definition is
  owner hs hp hunset h hg := ⟨hs, hp, fun hloose => by
    rw [hg] at hloose
    exact h.not_loose ((hloose.of_define hunset).resolve_left (Loose.not_of_unset hunset))⟩

end Session

namespace Workspace

variable {w : Workspace τ} {s : Session τ}

/-- Nothing that has a name in the scope is loose: no parser, and no reference that owns a rule. -/
structure Shelters (g : Grammar τ) (scope : Scope τ) : Prop where
  parser {x : String × Parser τ} : x ∈ scope.parsers → ¬Loose g [] x.2
  owner {x : String × RuleId} : x ∈ scope.rules → ∀ key, ¬Loose g [] (.refer key x.2 true)

/-- Nothing that has a name in the workspace is loose. -/
abbrev Sheltered (w : Workspace τ) : Prop := Shelters w.grammar w.scope

section Shelters

variable {g : Grammar τ} {scope scope' : Scope τ}

omit [Token τ] in
/-- A scope without other parsers and rules. -/
theorem Shelters.anti (h : Shelters g scope)
    (hparsers : ∀ x ∈ scope'.parsers, ∃ y ∈ scope.parsers, y.2 = x.2)
    (hrules : ∀ x ∈ scope'.rules, ∃ y ∈ scope.rules, y.2 = x.2) : Shelters g scope' where
  parser hx := by
    obtain ⟨y, hy, heq⟩ := hparsers _ hx
    rw [← heq]
    exact h.parser hy
  owner hx := by
    obtain ⟨y, hy, heq⟩ := hrules _ hx
    rw [← heq]
    exact h.owner hy

omit [Token τ] in
/-- What is built later does not make loose what has a name. -/
theorem Shelters.of_binding_eq (h : Shelters s.grammar scope) (hs : s.Valid) (hknows : s.Knows scope)
    (hbinding : ∀ rule < s.grammar.size, g.binding rule = s.grammar.binding rule) :
    Shelters g scope where
  parser hx hloose := h.parser hx (hloose.of_binding_eq hs hbinding (hknows.parser_mem hx))
  owner hx key hloose :=
    h.owner hx key (hloose.owner_of_binding_eq hs (hknows.rule_lt hx) hbinding)

end Shelters

omit [Token τ] in
theorem At.shelters (h : w.At s) (hw : w.Sheltered) : Shelters s.grammar w.scope := by
  rw [h.grammar_eq]
  exact hw

omit [Token τ] in
/-- A parser that is not loose gets a name. -/
theorem Shelters.nameParser (hw : w.Sheltered) (name : String) {p : Parser τ}
    (hp : ¬Loose w.grammar [] p) : (w.nameParser name p).Sheltered where
  parser hx := by
    rcases mem_rename hx with rfl | hx
    · exact hp
    · exact hw.parser hx
  owner hx := hw.owner hx

/-- In a sheltered workspace, what the names stand for may be used in building. -/
theorem At.supplies (h : w.At s) (hw : w.Sheltered) : s.Supplies (Firm []) w.scope where
  rule_lt := h.knows.rule_lt
  owner hx _ key hs' hvalid hmem := ⟨hvalid, hmem,
    ((h.shelters hw).of_binding_eq h.valid h.knows fun _ => hs'.binding_eq).owner hx key⟩
  parser hx := ⟨h.valid, h.knows.parser_mem hx, (h.shelters hw).parser hx⟩

/-- What is built in a sheltered workspace is not loose, and what had a name before stays so. -/
theorem At.sheltered_build (h : w.At s) (hw : w.Sheltered) (d : Description τ) :
    (w.build d).2.Sheltered ∧ ∀ p kept, (w.build d).1 = .ok (p, kept) →
      ¬Loose (w.build d).2.grammar [] p ∧ ∀ x ∈ kept, x.2.isStandIn = true := by
  obtain ⟨s', hs', hw', hbuilt⟩ := h.build (h.supplies hw) d
  have hgrown : Shelters s'.grammar w.scope :=
    (h.shelters hw).of_binding_eq h.valid h.knows fun _ => hs'.binding_eq
  rw [Sheltered, ← hw'.grammar_eq]
  refine ⟨hgrown, fun p kept hok => ?_⟩
  obtain ⟨hp, hkept⟩ := hbuilt p kept hok
  exact ⟨hp.not_loose, fun x hx => (hkept x hx).2⟩

omit [Token τ] in
/-- A new rule has no definition yet. -/
theorem At.sheltered_newRule (h : w.At s) (hw : w.Sheltered) (id : String) (name : Option String) :
    (w.newRule id name).2.Sheltered := by
  have hbinding : ∀ rule, (w.newRule id name).2.grammar.binding rule =
      if rule = w.grammar.size then .unset else w.grammar.binding rule := fun rule =>
    Grammar.binding_push _
  have hgrown : Shelters (w.newRule id name).2.grammar w.scope := by
    refine (h.shelters hw).of_binding_eq h.valid h.knows fun rule hlt => ?_
    rw [h.grammar_eq] at hlt ⊢
    rw [hbinding, if_neg (Nat.ne_of_lt hlt)]
  refine ⟨hgrown.parser, fun hx key => ?_⟩
  rcases mem_rename hx with rfl | hx
  · exact Loose.not_of_unset (by rw [hbinding, if_pos rfl])
  · exact hgrown.owner hx key

omit [Token τ] in
/-- A definition that is not loose makes nothing loose. -/
theorem Shelters.define (hw : w.Sheltered) (rule : RuleId) {p : Parser τ}
    (hp : ¬Loose w.grammar [] p) : (w.define rule p).2.Sheltered := by
  rw [Workspace.define]
  split
  · rename_i hb
    have hkeeps : ∀ q, ¬Loose w.grammar [] q →
        ¬Loose (w.grammar.modify rule ({ · with binding := .bound p })) [] q := by
      intro q hq hloose
      rcases hloose.of_define hb with hloose | hloose
      · exact hq hloose
      · exact hp (hloose.anti (List.nil_subset _))
    exact ⟨fun hx => hkeeps _ (hw.parser hx), fun hx key => hkeeps _ (hw.owner hx key)⟩
  · exact hw

/-- The rule is not released when the workspace is tidied. -/
def Lives (w : Workspace τ) (rule : RuleId) : Prop := rule ∈ w.grammar.living w.holders

section Lives

variable {key : Key} {rule : RuleId}

omit [Token τ] in
theorem At.lt_size_of_hasNode (h : w.At s) {p : Parser τ} (hp : p ∈ s.nodes)
    (hnode : p.HasNode (.refer key rule true)) : rule < w.grammar.size := by
  rw [← h.grammar_eq]
  exact h.valid.rule_lt (h.valid.mem_of_hasNode hp hnode)

omit [Token τ] in
/-- What the definition of a rule that lives owns, lives. -/
theorem At.lives_of_definition (h : w.At s) {holder : RuleId} {d : Parser τ} (hholder : w.Lives holder)
    (hb : w.grammar.binding holder = .bound d) (hnode : d.HasNode (.refer key rule true)) :
    w.Lives rule := by
  have hd : d ∈ s.nodes := by
    refine h.valid.definition_mem (h.valid.keeps.extends holder d ?_)
    rw [h.grammar_eq]
    exact hb
  have hheld : rule ∈ Parser.held [d] :=
    Parser.mem_held h.valid.keyed (List.forall_mem_singleton.2 hd) (.head _) hnode
  exact Grammar.mem_living_of_held hholder hb (h.lt_size_of_hasNode hd hnode) hheld

omit [Token τ] in
/-- What a parser with a name owns, lives. -/
theorem At.lives_of_parser (h : w.At s) {x : String × Parser τ} (hx : x ∈ w.scope.parsers)
    (hnode : x.2.HasNode (.refer key rule true)) : w.Lives rule := by
  have hnodes : ∀ p ∈ w.scope.parsers.map (·.2), p ∈ s.nodes := by
    intro p hp
    obtain ⟨y, hy, rfl⟩ := List.mem_map.1 hp
    exact h.knows.parser_mem hy
  have hheld : rule ∈ Parser.held (w.scope.parsers.map (·.2)) :=
    Parser.mem_held h.valid.keyed hnodes (List.mem_map_of_mem hx) hnode
  have hlt := h.lt_size_of_hasNode (h.knows.parser_mem hx) hnode
  exact Grammar.mem_living_of_outside hlt (List.mem_append_right _ hheld)

omit [Token τ] in
/-- A rule with a name lives. -/
theorem At.lives_of_rule (h : w.At s) {x : String × RuleId} (hx : x ∈ w.scope.rules) :
    w.Lives x.2 := by
  have hlt := h.knows.rule_lt hx
  rw [h.grammar_eq] at hlt
  exact Grammar.mem_living_of_outside hlt (List.mem_append_left _ (List.mem_map_of_mem hx))

end Lives

omit [Token τ] in
/-- **The release of rules keeps a workspace sheltered**: nothing that has a name, and nothing that
lives, owns a rule that is released. -/
theorem At.sheltered_tidy (h : w.At s) (hw : w.Sheltered) : w.tidy.Sheltered := by
  have hkeep : ∀ rule, (Std.HashSet.ofList (w.grammar.living w.holders)).contains rule = true ↔
      w.Lives rule := by simp [Lives]
  have hclosed : ∀ rule d,
      (Std.HashSet.ofList (w.grammar.living w.holders)).contains rule = true →
      w.grammar.binding rule = .bound d → ∀ key r, d.HasNode (.refer key r true) →
        (Std.HashSet.ofList (w.grammar.living w.holders)).contains r = true := by
    intro rule d hrule hb key r hr
    exact (hkeep r).2 (h.lives_of_definition ((hkeep rule).1 hrule) hb hr)
  refine ⟨fun hx hloose => ?_, fun hx key hloose => ?_⟩
  · refine hw.parser hx (hloose.of_release hclosed fun key r hr => (hkeep r).2 ?_)
    exact h.lives_of_parser hx hr
  · refine hw.owner hx key (hloose.of_release hclosed fun key' r hr => (hkeep r).2 ?_)
    -- the owner has no node but itself
    rcases Relation.ReflTransGen.cases_head hr with heq | ⟨q, hq, -⟩
    · cases heq
      exact h.lives_of_rule hx
    · cases hq

/-- No stand-in has a name. So stand-ins occur only inside the definitions that they were made
for: what is built from the names of the workspace has no others. -/
def StandInsUnnamed (w : Workspace τ) : Prop := ∀ x ∈ w.scope.parsers, x.2.isStandIn = false

omit [Token τ] in
/-- If no stand-in has a name, none was to be kept under one. -/
theorem StandInsUnnamed.kept_eq_nil {kept : List (String × Parser τ)}
    (hkept : ∀ x ∈ kept, x.2.isStandIn = true) (h : (w.nameKept kept).StandInsUnnamed) :
    kept = [] := by
  cases kept with
  | nil => rfl
  | cons x kept =>
    have hnamed := h x (.head _)
    rw [hkept x (.head _)] at hnamed
    cases hnamed

omit [Token τ] in
theorem scope_define (w : Workspace τ) (rule : RuleId) (p : Parser τ) :
    (w.define rule p).2.scope = w.scope := by
  rw [Workspace.define]
  split <;> rfl

omit [Token τ] in
theorem StandInsUnnamed.of_scope_eq {w' : Workspace τ} (h : w'.StandInsUnnamed)
    (hscope : w'.scope = w.scope) : w.StandInsUnnamed := by
  intro x hx
  rw [← hscope] at hx
  exact h x hx

/-- What the building of a definition leaves. -/
theorem buildDefinition_snd (w : Workspace τ) (rule : RuleId) (d : Description τ) :
    (w.buildDefinition rule d).2 =
      match w.build d with
      | (.error _, w') => w'
      | (.ok (p, kept), w') => ((w'.nameKept kept).define rule p).2 := by
  rw [Workspace.buildDefinition]
  rcases w.build d with ⟨e | ⟨p, kept⟩, w'⟩
  · rfl
  · simp only
    split <;> rename_i hdef <;> rw [hdef]

theorem At.sheltered_buildDefinition (h : w.At s) (hw : w.Sheltered) (rule : RuleId)
    (d : Description τ) (hin : (w.buildDefinition rule d).2.StandInsUnnamed) :
    (w.buildDefinition rule d).2.Sheltered := by
  obtain ⟨hw', hbuilt⟩ := h.sheltered_build hw d
  rw [buildDefinition_snd] at hin ⊢
  rcases hb : w.build d with ⟨e | ⟨p, kept⟩, w'⟩ <;> rw [hb] at hw' hbuilt hin
  · exact hw'
  · obtain ⟨hp, hkept⟩ := hbuilt p kept rfl
    obtain rfl := (hin.of_scope_eq (scope_define _ rule p)).kept_eq_nil hkept
    exact hw'.define rule hp

theorem At.sheltered_buildNamed (h : w.At s) (hw : w.Sheltered) (var : String) (d : Description τ)
    (hin : (w.buildNamed var d).2.StandInsUnnamed) : (w.buildNamed var d).2.Sheltered := by
  obtain ⟨hw', hbuilt⟩ := h.sheltered_build hw d
  rw [Workspace.buildNamed] at hin ⊢
  rcases hb : w.build d with ⟨e | ⟨p, kept⟩, w'⟩ <;> rw [hb] at hw' hbuilt <;> simp only [hb] at hin
  · exact hw'
  · obtain ⟨hp, hkept⟩ := hbuilt p kept rfl
    obtain rfl := hin.kept_eq_nil hkept
    exact hw'.nameParser var hp

omit [Token τ] in
theorem Shelters.withRule (hw : w.Sheltered) {id : String} {act : RuleId → Response τ × Workspace τ}
    (hact : ∀ rule, (id, rule) ∈ w.scope.rules → (act rule).2.Sheltered) :
    (w.withRule id act).2.Sheltered := by
  rw [Workspace.withRule]
  split
  · rename_i rule hl
    exact hact rule (mem_of_lookup hl)
  · exact hw

omit [Token τ] in
theorem Shelters.withParser (hw : w.Sheltered) {var : String}
    {act : Parser τ → Response τ × Workspace τ} (hact : ∀ p, (act p).2.Sheltered) :
    (w.withParser var act).2.Sheltered := by
  rw [Workspace.withParser]
  split
  · exact hact _
  · exact hw

theorem sheltered_parse (hw : w.Sheltered) (p : Parser τ) (c : Cursor τ) :
    (w.parse p c).2.Sheltered := by
  rw [Workspace.parse]
  split <;> exact hw

omit [Token τ] in
theorem sheltered_acceptsEmpty (hw : w.Sheltered) (p : Parser τ) :
    (w.acceptsEmpty p).2.Sheltered := by
  rw [Workspace.acceptsEmpty]
  split <;> exact hw

/-- A command keeps a workspace sheltered if no stand-in has a name. -/
theorem At.sheltered_carryOut (h : w.At s) (hw : w.Sheltered) (c : Command τ)
    (hin : (w.carryOut c).2.StandInsUnnamed) : (w.carryOut c).2.Sheltered := by
  cases c with
  | newRule id name => exact h.sheltered_newRule hw id name
  | cloneRule id new =>
    refine hw.withRule fun rule hrule => hw.anti (fun x hx => ⟨x, hx, rfl⟩) fun x hx => ?_
    rcases mem_rename hx with rfl | hx
    · exact ⟨_, hrule, rfl⟩
    · exact ⟨x, hx, rfl⟩
  | dropRule id =>
    exact hw.anti (fun x hx => ⟨x, hx, rfl⟩) fun x hx => ⟨x, (List.mem_filter.1 hx).1, rfl⟩
  | showRule id => exact hw.withRule fun _ _ => hw
  | define id d =>
    simp only [Workspace.carryOut, Workspace.withRule] at hin ⊢
    split
    · rename_i rule hl
      rw [hl] at hin
      exact h.sheltered_buildDefinition hw rule d hin
    · exact hw
  | name var d => exact h.sheltered_buildNamed hw var d hin
  | drop var =>
    exact hw.anti (fun x hx => ⟨x, (List.mem_filter.1 hx).1, rfl⟩) fun x hx => ⟨x, hx, rfl⟩
  | parse var tokens skip => exact hw.withParser fun p => sheltered_parse hw p _
  | acceptsEmpty var => exact hw.withParser fun p => sheltered_acceptsEmpty hw p
  | known var => exact hw.withParser fun _ => hw

/-- **A command and the release of rules keep a workspace sheltered if no stand-in has a name.** -/
theorem At.sheltered_perform (h : w.At s) (hw : w.Sheltered) (c : Command τ)
    (hin : (w.perform c).2.StandInsUnnamed) : (w.perform c).2.Sheltered := by
  obtain ⟨s', -, hs', -⟩ := h.carryOut c
  exact hs'.sheltered_tidy (h.sheltered_carryOut hw c (hin.of_scope_eq rfl))

omit [Token τ] in
/-- What has a name in a sheltered workspace reaches no released rule. -/
theorem Shelters.unreleased (hw : w.Sheltered) {x : String × Parser τ}
    (hx : x ∈ w.scope.parsers) : w.grammar.Unreleased x.2 :=
  unreleased_of_not_loose (hw.parser hx)

/-- No parse of a parser with a name is broken off by a released rule. -/
theorem parse_ne_released {g : Grammar τ} {p : Parser τ} (hp : g.Unreleased p) (c : Cursor τ)
    (a : Account) : (p.parse g c a).1 ≠ .error .released := by
  obtain ⟨res, happ, hres⟩ := applies_parse g p c a
  have hne := happ.ne_released hp
  rw [hres]
  rcases res with fault | out
  · rintro ⟨⟩
    exact hne rfl
  · exact nofun

omit [Token τ] in
theorem acceptsEmpty_ne_released {g : Grammar τ} {p : Parser τ} (hp : g.Unreleased p) (m : Memory) :
    (p.acceptsEmpty g m).1 ≠ .error .released := by
  obtain ⟨b, hb⟩ := (answers_ask g p m).exists_ok hp
  rw [hb]
  exact nofun

/-- In a sheltered workspace, no command is broken off by a released rule. -/
theorem Shelters.answer_ne_released (hw : w.Sheltered) (c : Command τ) :
    (w.perform c).1.answer ≠ .broken .released := by
  have hanswer : (w.perform c).1.answer = (w.carryOut c).1.answer := rfl
  rw [hanswer]
  cases c with
  | newRule | dropRule | drop => rintro ⟨⟩
  | cloneRule | showRule =>
    rw [Workspace.carryOut, Workspace.withRule]
    split <;> rintro ⟨⟩
  | define =>
    simp only [Workspace.carryOut, Workspace.withRule, Workspace.buildDefinition]
    split
    · split
      · rintro ⟨⟩
      · split <;> rintro ⟨⟩
    · rintro ⟨⟩
  | name =>
    simp only [Workspace.carryOut, Workspace.buildNamed]
    split <;> rintro ⟨⟩
  | known =>
    rw [Workspace.carryOut, Workspace.withParser]
    split <;> rintro ⟨⟩
  | parse var tokens skip =>
    simp only [Workspace.carryOut, Workspace.withParser]
    split
    · rename_i p hl
      have hne := parse_ne_released (hw.unreleased (mem_of_lookup hl))
        ((Cursor.start ⟨0, tokens⟩).advance skip) { memory := w.memory }
      rw [Workspace.parse]
      split <;> rename_i hr <;> rw [hr] at hne
      · rintro ⟨⟩
      · rintro ⟨⟩
        exact hne rfl
    · rintro ⟨⟩
  | acceptsEmpty var =>
    simp only [Workspace.carryOut, Workspace.withParser]
    split
    · rename_i p hl
      have hne := acceptsEmpty_ne_released (hw.unreleased (mem_of_lookup hl)) w.memory
      rw [Workspace.acceptsEmpty]
      split <;> rename_i hr <;> rw [hr] at hne
      · rintro ⟨⟩
      · rintro ⟨⟩
        exact hne rfl
    · rintro ⟨⟩

omit [Token τ] in
theorem isLast_eq_false {answer : Answer τ} (h : answer ≠ .broken .released) :
    isLast answer = false := by
  unfold isLast
  split
  · exact absurd rfl h
  · rfl

/-- Commands keep a workspace sheltered as long as no stand-in has a name, and none of them is broken
off by a released rule. -/
theorem At.sheltered_after (h : w.At s) (hw : w.Sheltered) (cs : List (Command τ))
    (hin : ∀ cs', cs' <+: cs → (w.after cs').StandInsUnnamed) :
    (w.after cs).Sheltered ∧ (w.script cs).length = cs.length ∧
      ∀ r ∈ w.script cs, r.answer ≠ .broken .released := by
  induction cs generalizing w s with
  | nil => exact ⟨hw, rfl, fun _ hr => nomatch hr⟩
  | cons c cs ih =>
    have hanswer := hw.answer_ne_released c
    have hunnamed : (w.perform c).2.StandInsUnnamed := hin [c] (List.prefix_append [c] cs)
    have hnext := h.sheltered_perform hw c hunnamed
    obtain ⟨s', -, hs', -⟩ := h.perform c
    obtain ⟨hafter, hlength, hscript⟩ := ih hs' hnext fun cs' hcs' =>
      hin (c :: cs') (List.cons_prefix_cons.2 ⟨rfl, hcs'⟩)
    rw [script_cons_of_isLast (isLast_eq_false hanswer)]
    refine ⟨hafter, congrArg (· + 1) hlength, ?_⟩
    exact List.forall_mem_cons.2 ⟨hanswer, hscript⟩

end Workspace

open Workspace in
/-- **Stand-ins never dangle.** In a run of commands, of building, cloning, setting, dropping, parsing
and asking in whatever order, with builds that fail and rules that hold each other in a cycle, let no
stand-in ever have a name. Then every command is answered, and none of them is broken off by the use
of a released rule. What has a name at the end has no stand-in among its nodes and reaches no
released rule, so that no parse of it and no question about it would be broken off either, whatever
the cursor and whatever is known by then. -/
theorem standIns_never_dangle (cs : List (Command τ))
    (hunnamed : ∀ cs', cs' <+: cs → (after {} cs').StandInsUnnamed) :
    (script {} cs).length = cs.length ∧
    (∀ r ∈ script {} cs, r.answer ≠ .broken .released) ∧
    ∀ x ∈ (after {} cs).scope.parsers,
      (∀ q, x.2.HasNode q → q.isStandIn = false) ∧ (after {} cs).grammar.Unreleased x.2 ∧
      (∀ c a, (x.2.parse (after {} cs).grammar c a).1 ≠ .error .released) ∧
      ∀ m, (x.2.acceptsEmpty (after {} cs).grammar m).1 ≠ .error .released := by
  have hempty : ({} : Workspace τ).Sheltered := ⟨(nomatch ·), (nomatch ·)⟩
  obtain ⟨hafter, hlength, hscript⟩ := at_empty.sheltered_after hempty cs hunnamed
  refine ⟨hlength, hscript, fun x hx => ?_⟩
  have hun := hafter.unreleased hx
  refine ⟨fun q hq => ?_, hun, parse_ne_released hun, acceptsEmpty_ne_released hun⟩
  by_contra hstandIn
  exact hafter.parser hx (.of_hasNode hq (by simpa using hstandIn))

namespace StandIns

/-- A rule in whose definition there is another one, which uses both stand-ins. -/
def nested : Description Char :=
  .recursive "x"
    (.or (.just 'a') (.recursive "y" (.both (.just 'b') (.or (.var "y") (.var "x"))) none)) none

/-- The rule is built, used together with one that is never set, and dropped; in between, a
definition fails to be built. -/
def nestedRun : List (Command Char) :=
  [.name "r" nested, .newRule "f" none, .name "bad" (.recursive "z" (.choice []) (some "s")),
    .name "p" (.or (.var "r") (.rule "f")), .drop "r"]

theorem standInsUnnamed_nestedRun :
    ∀ cs, cs <+: nestedRun → (Workspace.after {} cs).StandInsUnnamed := by
  intro cs hcs
  have hlength : cs.length ≤ 5 := hcs.length_le
  rw [List.prefix_iff_eq_take.1 hcs]
  generalize cs.length = n at hlength
  revert n
  unfold Workspace.StandInsUnnamed
  decide +kernel

end StandIns

open StandIns Workspace in
/-- The rule lives on in the parser that uses it, and its stand-ins with it. -/
theorem standIns_never_dangle_nested :
    (∀ cs, cs <+: nestedRun → (after {} cs).StandInsUnnamed) ∧
      (script {} nestedRun).length = 5 ∧
      ∃ p, ("p", p) ∈ (after {} nestedRun).scope.parsers ∧
        ∀ c a, (p.parse (after {} nestedRun).grammar c a).1 ≠ .error .released := by
  obtain ⟨hlength, -, hnamed⟩ := standIns_never_dangle nestedRun standInsUnnamed_nestedRun
  have hnames : (after {} nestedRun).scope.parsers.map (·.1) = ["p"] := by decide +kernel
  have hp : "p" ∈ (after {} nestedRun).scope.parsers.map (·.1) := by
    rw [hnames]
    exact .head _
  obtain ⟨⟨name, p⟩, hp, rfl⟩ := List.mem_map.1 hp
  exact ⟨standInsUnnamed_nestedRun, hlength, p, hp, (hnamed _ hp).2.2.1⟩

end GuardedParsing
