import GuardedParsing.Proofs.Application

/-!
# Results that agree

Two runs that differ in where their input begins, or in what their errors call expected, give
results that agree in everything else. The agreement is kept by all that the nodes of a parser do to
the results of their parts: no choice between two errors looks at what was expected, and none looks
at a position other than to compare it with another.

* `ParseError.Agrees`: two errors differ by `k` in their positions, and if `keep` is not set, in
  what was expected.
* `Alike`: two results are the same fault, the same value, or two failures with related errors, at
  related places; `Agree`: the second one is the first one, `k` tokens further on.
* `Agree.settle`, `Agree.orElse`: what a node makes of results that agree.
-/

namespace GuardedParsing

/-- The second error is the first one, `k` tokens further on; unless `keep` is set, what was expected
may be something else. -/
structure ParseError.Agrees (keep : Bool) (k : Nat) (e e' : ParseError) : Prop where
  kind : e'.kind = e.kind
  position : e'.position = k + e.position
  found : e'.found = e.found
  message : e'.message = e.message
  notes : e'.notes = e.notes
  expected : keep = true → e'.expected = e.expected

namespace ParseError.Agrees

variable {keep : Bool} {k : Nat} {e e' other other' : ParseError}

/-- An error, `k` tokens further on. -/
theorem moved (e : ParseError) {position : Nat} (h : position = k + e.position) :
    e.Agrees keep k { e with position := position } where
  kind := rfl
  position := h
  found := rfl
  message := rfl
  notes := rfl
  expected _ := rfl

theorem isFatal (h : e.Agrees keep k e') : e'.isFatal = e.isFatal := by
  rw [ParseError.isFatal, ParseError.isFatal, h.kind]

theorem withContext (h : e.Agrees keep k e') (note : String) :
    (e.withContext note).Agrees keep k (e'.withContext note) :=
  { h with notes := congrArg (note :: ·) h.notes }

theorem withLabel (h : e.Agrees keep k e') (label : String) :
    (e.withLabel label).Agrees keep k (e'.withLabel label) := by
  unfold ParseError.withLabel
  rw [h.kind]
  split
  · exact { h with kind := rfl, expected := fun _ => rfl }
  · exact { h with kind := rfl, expected := fun _ => rfl }
  · exact h
  · exact h

/-- A label changes only what was expected. -/
theorem withLabel_left (h : e.Agrees keep k e') (hkeep : keep = false) (label : String) :
    (e.withLabel label).Agrees keep k e' := by
  have hexpected : keep = true → e'.expected = [label] := fun h => by simp [hkeep] at h
  unfold ParseError.withLabel
  split
  · exact { h with expected := hexpected }
  · exact { h with expected := hexpected }
  · exact h
  · exact h

theorem join (h : e.Agrees keep k e') (ho : other.Agrees keep k other') :
    (e.join other).Agrees keep k (e'.join other') := by
  have hexpected : keep = true →
      addLabels e'.expected other'.expected = addLabels e.expected other.expected := fun hk => by
    rw [h.expected hk, ho.expected hk]
  unfold ParseError.join
  rw [h.kind, ho.kind]
  split
  · exact { h with kind := rfl, found := ho.found, expected := hexpected }
  · exact { h with kind := rfl, expected := hexpected }

/-- Which error of two wins depends on their kinds, and on which of them got further. -/
theorem merge (h : e.Agrees keep k e') (ho : other.Agrees keep k other') :
    (e.merge other).Agrees keep k (e'.merge other') := by
  unfold ParseError.merge
  rw [h.isFatal, ho.isFatal, h.position, ho.position]
  simp only [Nat.add_lt_add_iff_left]
  split
  · exact h
  split
  · exact ho
  split
  · exact h
  split
  · exact ho
  · exact h.join ho

/-- Two errors that agree with a third one agree with each other. -/
theorem trans_symm {e'' : ParseError} (h : e.Agrees keep k e'') (h' : e'.Agrees keep 0 e'') :
    e.Agrees keep k e' where
  kind := h'.kind.symm.trans h.kind
  position := by rw [← h.position, h'.position, Nat.zero_add]
  found := h'.found.symm.trans h.found
  message := h'.message.symm.trans h.message
  notes := h'.notes.symm.trans h.notes
  expected hkeep := (h'.expected hkeep).symm.trans (h.expected hkeep)

/-- Errors that agree in everything are equal. -/
theorem eq (h : e.Agrees true 0 e') : e = e' := by
  obtain ⟨kind, position, expected, found, message, notes⟩ := e
  obtain ⟨kind', position', expected', found', message', notes'⟩ := e'
  obtain ⟨rfl, hposition, rfl, rfl, rfl, hexpected⟩ := h
  obtain rfl := hexpected rfl
  simpa [eq_comm] using hposition

end ParseError.Agrees

/-- Two results that are the same fault, or the same value or related errors at related places. -/
inductive Alike {κ κ' : Type} (R : κ → κ' → Prop) (E : ParseError → ParseError → Prop) :
    Except Fault (Outcome κ Value) → Except Fault (Outcome κ' Value) → Prop
  | fault {fault : Fault} : Alike R E (.error fault) (.error fault)
  | success {v : Value} {next : κ} {next' : κ'} (hnext : R next next') :
      Alike R E (.ok (.success v next)) (.ok (.success v next'))
  | failure {place : κ} {place' : κ'} {e e' : ParseError} (hplace : R place place') (he : E e e') :
      Alike R E (.ok (.failure place e)) (.ok (.failure place' e'))

namespace Alike

section General

variable {κ κ' : Type} {R : κ → κ' → Prop} {E : ParseError → ParseError → Prop}
  {res : Except Fault (Outcome κ Value)} {res' : Except Fault (Outcome κ' Value)}

theorem map (h : Alike R E res res') (f : Value → Value) :
    Alike R E (res.map (·.map f)) (res'.map (·.map f)) := by
  cases h with
  | fault => exact .fault
  | success hnext => exact .success hnext
  | failure hplace he => exact .failure hplace he

theorem mapPlace {lam mu : Type} {S : lam → mu → Prop} {f : κ → lam} {f' : κ' → mu}
    (h : Alike R E res res') (hf : ∀ x x', R x x' → S (f x) (f' x')) :
    Alike S E (res.map (·.mapPlace f)) (res'.map (·.mapPlace f')) := by
  cases h with
  | fault => exact .fault
  | success hnext => exact .success (hf _ _ hnext)
  | failure hplace he => exact .failure (hf _ _ hplace) he

/-- Results at the same places with the same errors are equal. -/
theorem eq {res' : Except Fault (Outcome κ Value)} (h : Alike Eq E res res')
    (hE : ∀ e e', E e e' → e = e') : res = res' := by
  cases h with
  | fault => rfl
  | success hnext => rw [hnext]
  | failure hplace he => rw [hplace, hE _ _ he]

end General

end Alike

/-- The second place is the first one, `k` tokens further on. -/
def Shifted (k : Nat) {n n' : Nat} (place : Fin (n + 1)) (place' : Fin (n' + 1)) : Prop :=
  place'.val = k + place.val

theorem Shifted.trans_symm {k n n' : Nat} {x : Fin (n + 1)} {y z : Fin (n' + 1)}
    (hx : Shifted k x z) (hy : Shifted 0 y z) : Shifted k x y :=
  ((Nat.zero_add _).symm.trans (Eq.symm hy)).trans hx

theorem Shifted.lt_iff {k n n' : Nat} {x y : Fin (n + 1)} {x' y' : Fin (n' + 1)}
    (hx : Shifted k x x') (hy : Shifted k y y') : x' < y' ↔ x < y := by
  rw [Fin.lt_def, Fin.lt_def, hx, hy, Nat.add_lt_add_iff_left]

/-- The second result is the first one, `k` tokens further on; unless `keep` is set, what its error
calls expected may be something else. -/
abbrev Agree (keep : Bool) (k : Nat) {n n' : Nat} :
    Except Fault (Outcome (Fin (n + 1)) Value) → Except Fault (Outcome (Fin (n' + 1)) Value) → Prop :=
  Alike (Shifted k) (ParseError.Agrees keep k)

namespace Agree

variable {keep : Bool} {k : Nat}

/-- Two results that agree with a third one agree with each other. -/
theorem trans_symm {n n' : Nat} {res : Except Fault (Outcome (Fin (n + 1)) Value)}
    {res' res'' : Except Fault (Outcome (Fin (n' + 1)) Value)} (h : Agree keep k res res'')
    (h' : Agree keep 0 res' res'') : Agree keep k res res' := by
  cases h with
  | fault => cases h' with | fault => exact .fault
  | success hnext => cases h' with | success hnext' => exact .success (hnext.trans_symm hnext')
  | failure hplace he =>
    cases h' with
    | failure hplace' he' => exact .failure (hplace.trans_symm hplace') (he.trans_symm he')

section Nodes

variable {n n' : Nat} {res : Except Fault (Outcome (Fin (n + 1)) Value)}
  {res' : Except Fault (Outcome (Fin (n' + 1)) Value)} {start : Fin (n + 1)} {start' : Fin (n' + 1)}

/-- What a node with one part makes of the result of its part. -/
theorem settle (h : Agree keep k res res') (hstart : Shifted k start start') (m : Modifier) :
    Agree keep k (res.map (m.settle start)) (res'.map (m.settle start')) := by
  have hcustom : ∀ message, (ParseError.custom start message).Agrees keep k (.custom start' message) :=
    fun _ => .moved _ hstart
  cases h with
  | fault => exact .fault
  | @success v _ _ hnext =>
    cases m with
    | map f | labelled label | inContext note | optional => exact .success hnext
    | tryMap f =>
      simp only [Except.map, Modifier.settle]
      split
      · exact .success hnext
      · exact .failure hstart (hcustom _)
    | not => exact .failure hstart (hcustom _)
  | failure hplace he =>
    cases m with
    | map f | tryMap f => exact .failure hplace he
    | inContext note => exact .failure hplace (he.withContext note)
    | labelled label =>
      have hval : start'.val = k + start.val := hstart
      simp only [Except.map, Modifier.settle, he.isFatal, he.position, hval,
        Nat.add_left_cancel_iff]
      split
      · exact .failure hplace (he.withLabel label)
      · exact .failure hplace he
    | optional | not =>
      simp only [Except.map, Modifier.settle, he.isFatal]
      split
      · exact .failure hplace he
      · exact .success hstart

/-- Without what was expected, a label does nothing. -/
theorem settle_labelled_left (h : Agree keep k res res') (hkeep : keep = false) (label : String) :
    Agree keep k (res.map (Modifier.settle start (.labelled label))) res' := by
  cases h with
  | fault => exact .fault
  | success hnext => exact .success hnext
  | failure hplace he =>
    simp only [Except.map, Modifier.settle]
    split
    · exact .failure hplace (he.withLabel_left hkeep label)
    · exact .failure hplace he

/-- The second of two alternatives after a failure of the first one. -/
theorem orElse {out : Outcome (Fin (n + 1)) Value} {out' : Outcome (Fin (n' + 1)) Value}
    (hout : Agree keep k (.ok out) (.ok out')) (h : Agree keep k res res') :
    Agree keep k (res.map out.orElse) (res'.map out'.orElse) := by
  cases h with
  | fault => exact .fault
  | success hnext => cases hout <;> exact .success hnext
  | failure hplace' he' =>
    cases hout with
    | success => exact .failure hplace' he'
    | failure hplace he =>
      simp only [Except.map, Outcome.orElse, he.position, he'.position, he'.isFatal,
        Nat.add_lt_add_iff_left]
      split
      · exact .failure hplace' he'
      · refine .failure ?_ (he.merge he')
        split
        · exact hplace'
        · exact hplace

end Nodes

variable {τ : Type} {tokens tokens' : Array τ} {res : Result tokens} {res' : Result tokens'}

theorem isSuccess_iff (h : Agree keep k res res') : res'.IsSuccess ↔ res.IsSuccess := by
  cases h <;> simp [Result.IsSuccess]

theorem isRecoverable_iff (h : Agree keep k res res') :
    res'.IsRecoverable ↔ res.IsRecoverable := by
  cases h with
  | fault | success => simp [Result.IsRecoverable, Outcome.isRecoverable]
  | failure _ he => simp [Result.IsRecoverable, Outcome.isRecoverable, he.isFatal]

theorem exists_success {v : Value} {next : Fin (tokens.size + 1)}
    (h : Agree keep k (.ok (.success v next)) res') :
    ∃ next', res' = .ok (.success v next') ∧ Shifted k next next' := by
  cases h with
  | success hnext => exact ⟨_, rfl, hnext⟩

theorem exists_isRecoverable {out : Outcome (Fin (tokens.size + 1)) Value}
    (h : Agree keep k (.ok out) res') (hout : out.isRecoverable = true) :
    ∃ out', res' = .ok out' ∧ out'.isRecoverable = true :=
  h.isRecoverable_iff.2 ⟨out, rfl, hout⟩

end Agree

end GuardedParsing
