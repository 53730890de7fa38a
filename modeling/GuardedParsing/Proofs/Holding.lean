import GuardedParsing.Proofs.Graph

/-!
# What is held is not released

A rule is released when nothing holds it: no name, no parser with a name, and no definition of a rule
that is not released. The rules that a parser holds are collected in one walk over its nodes, which
takes each key once, so that what is said here is said of parsers that are known by their keys.

* `mem_held`: an owner among the nodes of some parsers is among the rules that they hold.
* `mem_living_of_outside`, `mem_living_of_held`: **what is held from outside or by a rule that
  lives, lives.**
-/

namespace GuardedParsing

variable {τ : Type}

namespace Parser

/-- `p.HasNode q`: the parser `q` is `p` or a part of it, at whatever depth. -/
abbrev HasNode : Parser τ → Parser τ → Prop := Relation.ReflTransGen fun p q => q ∈ p.parts

/-- The parsers of a collection are known by their keys, and so are their parts. -/
structure Keyed (N : Parser τ → Prop) : Prop where
  eq_of_key_eq {p q : Parser τ} : N p → N q → p.key = q.key → p = q
  parts {p q : Parser τ} : N p → q ∈ p.parts → N q

/-- What the walk over the nodes has done: of a parser whose key was seen, the rule is collected, and
the parts were seen or are still to be visited. -/
def Visited (N : Parser τ → Prop) (seen : Std.HashSet Key) (rules : List RuleId)
    (pending : List (Parser τ)) : Prop :=
  ∀ p, N p → p.key ∈ seen →
    (∀ rule, p.ownRule? = some rule → rule ∈ rules) ∧ ∀ q ∈ p.parts, q.key ∈ seen ∨ q ∈ pending

variable {N : Parser τ → Prop} {seen : Std.HashSet Key} {rules : List RuleId}
  {pending : List (Parser τ)} {p : Parser τ}

/-- A parser that was seen is left out. -/
theorem Visited.skip (h : Visited N seen rules (p :: pending)) (hp : p.key ∈ seen) :
    Visited N seen rules pending := by
  intro q hq hseen
  obtain ⟨hrule, hparts⟩ := h q hq hseen
  refine ⟨hrule, fun r hr => ?_⟩
  rcases hparts r hr with hr | hr
  · exact .inl hr
  · rcases List.mem_cons.1 hr with rfl | hr
    · exact .inl hp
    · exact .inr hr

/-- A parser that was not seen is taken in, and its parts are to be visited. -/
theorem Visited.visit (hN : Keyed N) (h : Visited N seen rules (p :: pending)) (hp : N p) :
    Visited N (seen.insert p.key) (p.ownRule?.toList ++ rules) (p.parts ++ pending) := by
  intro q hq hseen
  by_cases hkey : p.key = q.key
  · obtain rfl := hN.eq_of_key_eq hp hq hkey
    refine ⟨fun rule hrule => ?_, fun r hr => .inr (List.mem_append_left _ hr)⟩
    simp [hrule]
  · have hseen : q.key ∈ seen := by simpa [Std.HashSet.mem_insert, hkey] using hseen
    obtain ⟨hrule, hparts⟩ := h q hq hseen
    refine ⟨fun rule hr => List.mem_append_right _ (hrule rule hr), fun r hr => ?_⟩
    rcases hparts r hr with hr | hr
    · exact .inl (Std.HashSet.mem_insert.2 (.inr hr))
    · rcases List.mem_cons.1 hr with rfl | hr
      · exact .inl Std.HashSet.mem_insert_self
      · exact .inr (List.mem_append_right _ hr)

/-- The walk comes to an end at which nothing is pending: there are keys, those of the parsers that
were given among them, that are closed under parts and whose rules are all collected. -/
theorem exists_visited (hN : Keyed N) (hvisited : Visited N seen rules pending)
    (hpending : ∀ p ∈ pending, N p) :
    ∃ seen', Visited N seen' (heldFrom seen rules pending) [] ∧ (∀ key ∈ seen, key ∈ seen') ∧
      ∀ p ∈ pending, p.key ∈ seen' := by
  induction seen, rules, pending using heldFrom.induct with
  | case1 seen rules =>
    rw [heldFrom]
    exact ⟨seen, hvisited, fun _ h => h, fun _ h => nomatch h⟩
  | case2 seen rules p pending hseen ih =>
    have hseen' : p.key ∈ seen := hseen
    rw [heldFrom, if_pos hseen]
    obtain ⟨seen', hend, hsub, hmem⟩ :=
      ih (hvisited.skip hseen') fun q hq => hpending q (.tail _ hq)
    exact ⟨seen', hend, hsub, List.forall_mem_cons.2 ⟨hsub _ hseen', hmem⟩⟩
  | case3 seen rules p pending hseen ih =>
    have hp := hpending p (.head _)
    have hnext : ∀ q ∈ p.parts ++ pending, N q := by
      intro q hq
      rcases List.mem_append.1 hq with hq | hq
      · exact hN.parts hp hq
      · exact hpending q (.tail _ hq)
    rw [heldFrom, if_neg hseen]
    obtain ⟨seen', hend, hsub, hmem⟩ := ih (hvisited.visit hN hp) hnext
    refine ⟨seen', hend, fun key hkey => hsub key (Std.HashSet.mem_insert.2 (.inr hkey)), ?_⟩
    exact List.forall_mem_cons.2 ⟨hsub _ Std.HashSet.mem_insert_self, fun q hq =>
      hmem q (List.mem_append_right _ hq)⟩

/-- **An owner among the nodes of some parsers is among the rules that they hold.** -/
theorem mem_held (hN : Keyed N) {ps : List (Parser τ)} (hps : ∀ p ∈ ps, N p) (hp : p ∈ ps)
    {key : Key} {rule : RuleId} (hnode : p.HasNode (.refer key rule true)) : rule ∈ held ps := by
  have hstart : Visited N (∅ : Std.HashSet Key) [] ps :=
    fun _ _ h => absurd h Std.HashSet.not_mem_empty
  obtain ⟨seen, hend, -, hmem⟩ := exists_visited hN hstart hps
  have hseen : ∀ q, p.HasNode q → N q ∧ q.key ∈ seen := by
    intro q hq
    induction hq with
    | refl => exact ⟨hps p hp, hmem p hp⟩
    | tail _ hpart ih =>
      obtain ⟨hN', hkey⟩ := ih
      refine ⟨hN.parts hN' hpart, ?_⟩
      exact ((hend _ hN' hkey).2 _ hpart).elim id fun h => nomatch h
  obtain ⟨hN', hkey⟩ := hseen _ hnode
  exact (hend _ hN' hkey).1 rule rfl

end Parser

namespace Grammar

variable {g : Grammar τ} {holdings : Array (List RuleId)} {outside rules : List RuleId}
  {rule holder : RuleId}

/-- What is held from outside, or by one of the rules, is one of them. -/
def ClosedUnder (holdings : Array (List RuleId)) (outside rules : List RuleId) (size : Nat) : Prop :=
  ∀ rule < size, (rule ∈ outside ∨ ∃ holder ∈ rules, rule ∈ holdings[holder]?.getD []) → rule ∈ rules

theorem mem_supported : rule ∈ supported holdings outside rules ↔
    rule ∈ rules ∧ (rule ∈ outside ∨ ∃ holder ∈ rules, rule ∈ holdings[holder]?.getD []) := by
  simp only [supported, List.mem_filter, Std.HashSet.contains_ofList, List.contains_eq_mem,
    List.mem_append, List.mem_flatMap, decide_eq_true_eq]

/-- Taking rules away that nothing holds leaves what is held. -/
theorem ClosedUnder.supported {size : Nat} (h : ClosedUnder holdings outside rules size) :
    ClosedUnder holdings outside (supported holdings outside rules) size := by
  intro rule hlt hheld
  have hheld' : rule ∈ outside ∨ ∃ holder ∈ rules, rule ∈ holdings[holder]?.getD [] :=
    hheld.imp id fun ⟨holder, hholder, hrule⟩ => ⟨holder, (mem_supported.1 hholder).1, hrule⟩
  exact mem_supported.2 ⟨h rule hlt hheld', hheld'⟩

theorem ClosedUnder.lasting {size : Nat} (h : ClosedUnder holdings outside rules size) :
    ClosedUnder holdings outside (lasting holdings outside rules) size := by
  induction rules using lasting.induct holdings outside with
  | case1 rules rest hfewer ih =>
    rw [Grammar.lasting, dif_pos hfewer]
    exact ih h.supported
  | case2 rules rest hfewer =>
    rw [Grammar.lasting, dif_neg hfewer]
    exact h

theorem closedUnder_living (g : Grammar τ) (outside : List RuleId) :
    ClosedUnder (g.map heldBy) outside (g.living outside) g.size :=
  ClosedUnder.lasting fun _ hlt _ => List.mem_range.2 hlt

/-- **What is held from outside lives.** -/
theorem mem_living_of_outside (hlt : rule < g.size) (h : rule ∈ outside) : rule ∈ g.living outside :=
  closedUnder_living g outside rule hlt (.inl h)

/-- **What the definition of a rule that lives holds, lives.** -/
theorem mem_living_of_held {d : Parser τ} (hholder : holder ∈ g.living outside)
    (hb : g.binding holder = .bound d) (hlt : rule < g.size) (h : rule ∈ Parser.held [d]) :
    rule ∈ g.living outside := by
  refine closedUnder_living g outside rule hlt (.inr ⟨holder, hholder, ?_⟩)
  have hholder := lt_size_of_bound hb
  rw [binding, Array.getElem?_eq_getElem hholder] at hb
  rw [Array.getElem?_map, Array.getElem?_eq_getElem hholder]
  simp only [Option.map_some, Option.getD_some, heldBy, hb]
  exact h

end Grammar

end GuardedParsing
