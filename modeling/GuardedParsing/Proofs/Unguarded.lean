import GuardedParsing.Proofs.Progress

/-!
# Evaluation without a guard

What a parser means when no activation is kept in mind: ordered choice, sequencing, repetition
that stops after a match of no tokens, lookahead, and a reference that means the definition of its
rule. `Derives` says which outcome a parser has then; a parser may have none, when its evaluation
would go on for ever. `unguarded` carries the evaluation out, up to a depth.

* `derives_of_unguarded`, `exists_unguarded`: an outcome is derived iff it comes up at some depth.
* `derives_unique`: there is at most one outcome.
-/

namespace GuardedParsing

variable {τ : Type} [Token τ]

/-- What a node with one part makes of an outcome, where no error is fatal. -/
def Modifier.settlePlain {n : Nat} (start : Fin (n + 1)) :
    Modifier → Outcome (Fin (n + 1)) Value → Outcome (Fin (n + 1)) Value
  | map f, .success v next => .success (f v) next
  | tryMap f, .success v next =>
    match f v with
    | .ok w => .success w next
    | .error message => .failure start (.custom start message)
  | labelled label, .failure p e =>
    if e.position = start.val then .failure p (e.withLabel label) else .failure p e
  | inContext note, .failure p e => .failure p (e.withContext note)
  | optional, .success v next => .success (.some v) next
  | optional, .failure _ _ => .success .none start
  | not, .success _ _ => .failure start (.custom start notAllowed)
  | not, .failure _ _ => .success .unit start
  | _, out => out

/-- The outcome of the second alternative after a failure of the first one, where no error is
fatal. -/
def Outcome.afterFailure {κ α : Type} (p₁ : κ) (e₁ : ParseError) : Outcome κ α → Outcome κ α
  | success v next => success v next
  | failure p₂ e₂ => failure (if e₁.position < e₂.position then p₂ else p₁) (e₁.merge e₂)

open GuardedParsing.Parser in
/-- `Derives g tokens p start out`: without a guard, the parser `p` has the outcome `out` at
`start`. -/
inductive Derives (g : Grammar τ) (tokens : Array τ) :
    Parser τ → Fin (tokens.size + 1) → Outcome (Fin (tokens.size + 1)) Value → Prop
  | primitive {key leaf start} : Derives g tokens (primitive key leaf) start (leaf.apply tokens start)
  | modified {key m part start out} (hpart : Derives g tokens part start out) :
      Derives g tokens (modified key m part) start (m.settlePlain start out)
  | observed {key name part start out} (hpart : Derives g tokens part start out) :
      Derives g tokens (observed key name part) start out
  -- every failure is one that another parser may recover from
  | orFirst {key p q start v next} (hp : Derives g tokens p start (.success v next)) :
      Derives g tokens (or key p q) start (.success v next)
  | orSecond {key p q start position e out} (hp : Derives g tokens p start (.failure position e))
      (hq : Derives g tokens q start out) :
      Derives g tokens (or key p q) start (out.afterFailure position e)
  | andFirst {key p q start position e} (hp : Derives g tokens p start (.failure position e)) :
      Derives g tokens (and key p q) start (.failure position e)
  | andSecond {key p q start v next out} (hp : Derives g tokens p start (.success v next))
      (hq : Derives g tokens q next out) :
      Derives g tokens (and key p q) start (out.map (.pair v))
  | sequenceNil {key start} : Derives g tokens (sequence key []) start (.success (.list []) start)
  | sequenceFirst {key p ps start position e}
      (hp : Derives g tokens p start (.failure position e)) :
      Derives g tokens (sequence key (p :: ps)) start (.failure position e)
  | sequenceNext {key p ps start v next out} (hp : Derives g tokens p start (.success v next))
      (hps : Derives g tokens (sequence key ps) next out) :
      Derives g tokens (sequence key (p :: ps)) start (out.map v.prepend)
  -- a repetition stops at a failure and after a match of no tokens
  | manyEnd {key part start position e} (hpart : Derives g tokens part start (.failure position e)) :
      Derives g tokens (many key part) start (.success (.list []) start)
  | manyStopped {key part start v} (hpart : Derives g tokens part start (.success v start)) :
      Derives g tokens (many key part) start (.success (.list [v]) start)
  | manyNext {key part start v next out} (hpart : Derives g tokens part start (.success v next))
      (hne : next ≠ start) (hrest : Derives g tokens (many key part) next out) :
      Derives g tokens (many key part) start (out.map v.prepend)
  -- a reference is its definition, wherever it is applied
  | bound {key rule owning definition start out} (hb : g.binding rule = .bound definition)
      (hd : Derives g tokens definition start out) :
      Derives g tokens (refer key rule owning) start out

namespace Parser

/-- The outcome that evaluation without a guard comes to, if it does so within a depth of `n`. -/
def unguarded (g : Grammar τ) (tokens : Array τ) :
    Nat → Parser τ → Fin (tokens.size + 1) → Option (Outcome (Fin (tokens.size + 1)) Value)
  | 0, _, _ => none
  | n + 1, p, start =>
    match p with
    | primitive _ leaf => some (leaf.apply tokens start)
    | modified _ m part => (unguarded g tokens n part start).map (m.settlePlain start)
    | observed _ _ part => unguarded g tokens n part start
    | or _ p q =>
      (unguarded g tokens n p start).bind fun
        | .success v next => some (.success v next)
        | .failure position e =>
          (unguarded g tokens n q start).map (Outcome.afterFailure position e)
    | and _ p q =>
      (unguarded g tokens n p start).bind fun
        | .success v next => (unguarded g tokens n q next).map (·.map (.pair v))
        | .failure position e => some (.failure position e)
    | sequence _ [] => some (.success (.list []) start)
    | sequence key (p :: ps) =>
      (unguarded g tokens n p start).bind fun
        | .success v next => (unguarded g tokens n (sequence key ps) next).map (·.map v.prepend)
        | .failure position e => some (.failure position e)
    | many key part =>
      (unguarded g tokens n part start).bind fun
        | .success v next =>
          if next = start then some (.success (.list [v]) next)
          else (unguarded g tokens n (many key part) next).map (·.map v.prepend)
        | .failure _ _ => some (.success (.list []) start)
    | refer _ rule _ =>
      match g.binding rule with
      | .bound definition => unguarded g tokens n definition start
      | _ => none

theorem unguarded_succ {g : Grammar τ} {tokens : Array τ} {n : Nat} {p : Parser τ}
    {start : Fin (tokens.size + 1)} {out : Outcome (Fin (tokens.size + 1)) Value}
    (h : unguarded g tokens n p start = some out) : unguarded g tokens (n + 1) p start = some out := by
  induction n generalizing p start out with
  | zero => cases h
  | succ n ih =>
    -- the last part of a node, whose outcome the node may change
    have hlast : ∀ {q : Parser τ} {place : Fin (tokens.size + 1)}
        {f : Outcome (Fin (tokens.size + 1)) Value → Outcome (Fin (tokens.size + 1)) Value}
        {out : Outcome (Fin (tokens.size + 1)) Value},
        (unguarded g tokens n q place).map f = some out →
          (unguarded g tokens (n + 1) q place).map f = some out := by
      intro q place f out h
      obtain ⟨out', h', rfl⟩ := Option.map_eq_some_iff.1 h
      exact Option.map_eq_some_iff.2 ⟨out', ih h', rfl⟩
    cases p with
    | primitive key leaf => exact h
    | modified key m part => exact hlast h
    | observed key name part => exact ih h
    | or key p q =>
      obtain ⟨out', h', h⟩ := Option.bind_eq_some_iff.1 h
      refine Option.bind_eq_some_iff.2 ⟨out', ih h', ?_⟩
      cases out' with
      | success v next => exact h
      | failure position e => exact hlast h
    | and key p q =>
      obtain ⟨out', h', h⟩ := Option.bind_eq_some_iff.1 h
      refine Option.bind_eq_some_iff.2 ⟨out', ih h', ?_⟩
      cases out' with
      | success v next => exact hlast h
      | failure position e => exact h
    | sequence key ps =>
      cases ps with
      | nil => exact h
      | cons p ps =>
        obtain ⟨out', h', h⟩ := Option.bind_eq_some_iff.1 h
        refine Option.bind_eq_some_iff.2 ⟨out', ih h', ?_⟩
        cases out' with
        | success v next => exact hlast h
        | failure position e => exact h
    | many key part =>
      obtain ⟨out', h', h⟩ := Option.bind_eq_some_iff.1 h
      refine Option.bind_eq_some_iff.2 ⟨out', ih h', ?_⟩
      cases out' with
      | success v next =>
        simp only at h ⊢
        split at h
        · rw [if_pos ‹_›]; exact h
        · rw [if_neg ‹_›]
          exact hlast h
      | failure position e => exact h
    | refer key rule owning =>
      rw [unguarded] at h ⊢
      split at h
      · exact ih h
      · cases h

theorem unguarded_mono {g : Grammar τ} {tokens : Array τ} {n k : Nat} (hk : n ≤ k) {p : Parser τ}
    {start : Fin (tokens.size + 1)} {out : Outcome (Fin (tokens.size + 1)) Value}
    (h : unguarded g tokens n p start = some out) : unguarded g tokens k p start = some out := by
  induction hk with
  | refl => exact h
  | step _ ih => exact unguarded_succ ih

/-- A node comes to an outcome only after the first of its parts. -/
theorem exists_unguarded_head {g : Grammar τ} {tokens : Array τ} {n : Nat} {p part : Parser τ}
    {start : Fin (tokens.size + 1)} {out : Outcome (Fin (tokens.size + 1)) Value}
    (hpart : p.parts.head? = some part) (h : unguarded g tokens n p start = some out) :
    ∃ k < n, ∃ out', unguarded g tokens k part start = some out' := by
  obtain _ | n := n
  · cases h
  refine ⟨n, Nat.lt_succ_self n, ?_⟩
  cases p with
  | primitive | refer => cases hpart
  | modified key m p =>
    cases hpart
    obtain ⟨out', h', -⟩ := Option.map_eq_some_iff.1 h
    exact ⟨out', h'⟩
  | observed key name p =>
    cases hpart
    exact ⟨out, h⟩
  | or | and | many =>
    cases hpart
    obtain ⟨out', h', -⟩ := Option.bind_eq_some_iff.1 h
    exact ⟨out', h'⟩
  | sequence key ps =>
    cases ps with
    | nil => cases hpart
    | cons p ps =>
      cases hpart
      obtain ⟨out', h', -⟩ := Option.bind_eq_some_iff.1 h
      exact ⟨out', h'⟩

/-- What comes up at some depth is derived. -/
theorem derives_of_unguarded {g : Grammar τ} {tokens : Array τ} {n : Nat} {p : Parser τ}
    {start : Fin (tokens.size + 1)} {out : Outcome (Fin (tokens.size + 1)) Value}
    (h : unguarded g tokens n p start = some out) : Derives g tokens p start out := by
  induction n generalizing p start out with
  | zero => cases h
  | succ n ih =>
    cases p with
    | primitive key leaf => cases h; exact .primitive
    | modified key m part =>
      obtain ⟨out', h', rfl⟩ := Option.map_eq_some_iff.1 h
      exact .modified (ih h')
    | observed key name part => exact .observed (ih h)
    | or key p q =>
      obtain ⟨_ | _, h', h⟩ := Option.bind_eq_some_iff.1 h
      · cases h; exact .orFirst (ih h')
      · obtain ⟨out'', h'', rfl⟩ := Option.map_eq_some_iff.1 h
        exact .orSecond (ih h') (ih h'')
    | and key p q =>
      obtain ⟨_ | _, h', h⟩ := Option.bind_eq_some_iff.1 h
      · obtain ⟨out'', h'', rfl⟩ := Option.map_eq_some_iff.1 h
        exact .andSecond (ih h') (ih h'')
      · cases h; exact .andFirst (ih h')
    | sequence key ps =>
      cases ps with
      | nil => cases h; exact .sequenceNil
      | cons p ps =>
        obtain ⟨_ | _, h', h⟩ := Option.bind_eq_some_iff.1 h
        · obtain ⟨out'', h'', rfl⟩ := Option.map_eq_some_iff.1 h
          exact .sequenceNext (ih h') (ih h'')
        · cases h; exact .sequenceFirst (ih h')
    | many key part =>
      obtain ⟨⟨v, next⟩ | _, h', h⟩ := Option.bind_eq_some_iff.1 h
      · by_cases hne : next = start
        · subst hne
          simp only [if_true] at h
          cases h
          exact .manyStopped (ih h')
        · simp only [if_neg hne] at h
          obtain ⟨out'', h'', rfl⟩ := Option.map_eq_some_iff.1 h
          exact .manyNext (ih h') hne (ih h'')
      · cases h; exact .manyEnd (ih h')
    | refer key rule owning =>
      rw [unguarded] at h
      split at h
      · rename_i hb
        exact .bound hb (ih h)
      · cases h

/-- Two evaluations have a depth in common. -/
theorem exists_common_depth {g : Grammar τ} {tokens : Array τ} {p q : Parser τ}
    {start place : Fin (tokens.size + 1)} {out out' : Outcome (Fin (tokens.size + 1)) Value}
    (hp : ∃ n, unguarded g tokens n p start = some out)
    (hq : ∃ n, unguarded g tokens n q place = some out') :
    ∃ n, unguarded g tokens n p start = some out ∧ unguarded g tokens n q place = some out' := by
  obtain ⟨n, hn⟩ := hp
  obtain ⟨k, hk⟩ := hq
  exact ⟨max n k, unguarded_mono (Nat.le_max_left n k) hn, unguarded_mono (Nat.le_max_right n k) hk⟩

/-- What is derived comes up at some depth. -/
theorem exists_unguarded {g : Grammar τ} {tokens : Array τ} {p : Parser τ}
    {start : Fin (tokens.size + 1)} {out : Outcome (Fin (tokens.size + 1)) Value}
    (h : Derives g tokens p start out) : ∃ n, unguarded g tokens n p start = some out := by
  -- by induction on the derivation: a node is one deeper than the deeper of its parts
  induction h with
  | primitive | sequenceNil => exact ⟨1, rfl⟩
  | observed _ ih =>
    obtain ⟨n, h⟩ := ih
    exact ⟨n + 1, h⟩
  | modified _ ih | orFirst _ ih | andFirst _ ih | sequenceFirst _ ih | manyEnd _ ih =>
    obtain ⟨n, h⟩ := ih
    exact ⟨n + 1, by rw [unguarded, h]; rfl⟩
  | orSecond _ _ ihp ihq | andSecond _ _ ihp ihq | sequenceNext _ _ ihp ihq =>
    obtain ⟨n, hp, hq⟩ := exists_common_depth ihp ihq
    exact ⟨n + 1, by rw [unguarded, hp]; exact Option.map_eq_some_iff.2 ⟨_, hq, rfl⟩⟩
  | manyStopped _ ih =>
    obtain ⟨n, h⟩ := ih
    exact ⟨n + 1, by rw [unguarded, h]; exact if_pos rfl⟩
  | manyNext _ hne _ ihp ihq =>
    obtain ⟨n, hp, hq⟩ := exists_common_depth ihp ihq
    refine ⟨n + 1, ?_⟩
    rw [unguarded, hp]
    exact (if_neg hne).trans (Option.map_eq_some_iff.2 ⟨_, hq, rfl⟩)
  | bound hb _ ih =>
    obtain ⟨n, h⟩ := ih
    exact ⟨n + 1, by rw [unguarded, hb]; exact h⟩

end Parser

/-- Without a guard, a parser has at most one outcome at a place. -/
theorem derives_unique {g : Grammar τ} {tokens : Array τ} {p : Parser τ}
    {start : Fin (tokens.size + 1)} {out out' : Outcome (Fin (tokens.size + 1)) Value}
    (h : Derives g tokens p start out) (h' : Derives g tokens p start out') : out = out' := by
  obtain ⟨n, hn, hn'⟩ :=
    Parser.exists_common_depth (Parser.exists_unguarded h) (Parser.exists_unguarded h')
  exact Option.some.inj (hn.symm.trans hn')

end GuardedParsing
