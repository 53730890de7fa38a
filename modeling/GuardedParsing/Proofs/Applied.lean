import GuardedParsing.Proofs.Failures

/-!
# Applying a parser, as a function

`Parser.applied` is what a parser gives at a place, with the account it leaves, while some rules are
being applied around it. A parse applies its parser while none is. The equations of this module take
a node to its parts; they hold under every guard and for every account.

* `applies_applied`: what is given is one of the ways of applying the parser.
* `applied_or_of_isRecoverable`, `applied_or_of_not_isRecoverable`: two alternatives.
* `applied_modified`: a node with one part; `applied_tryMap_of_ok`, `applied_tryMap_of_error`: one
  that may refuse the value.
* `applied_and_of_success`, `applied_and_of_not_isSuccess`: two parsers in order; the equations of
  `applied_sequence` are those of several parsers in order.
-/

namespace GuardedParsing

variable {τ : Type} [Token τ]

/-- What a parser gives at a place, and the account that it leaves. -/
def Parser.applied (g : Grammar τ) (tokens : Array τ) (active : Guard) (p : Parser τ)
    (start : Fin (tokens.size + 1)) (a : Account) : Result tokens × Account :=
  (p.evaluate g tokens active start).run a

section Values

variable {tokens : Array τ} {res : Result tokens} {f : Value → Value}

omit [Token τ] in
theorem Result.isSuccess_map : @Result.IsSuccess τ tokens (res.map (·.map f)) ↔ res.IsSuccess := by
  constructor
  · rintro ⟨v, next, h⟩
    rcases res with fault | ⟨w, last⟩ | ⟨place, e⟩
    · cases h
    · exact ⟨w, last, rfl⟩
    · cases h
  · rintro ⟨v, next, rfl⟩
    exact ⟨f v, next, rfl⟩

omit [Token τ] in
/-- Only a match has a value to be changed. -/
theorem Result.map_of_not_isSuccess (h : ¬res.IsSuccess) : res.map (·.map f) = res := by
  rcases res with fault | ⟨w, last⟩ | ⟨place, e⟩
  · rfl
  · exact absurd ⟨w, last, rfl⟩ h
  · rfl

end Values

section Applied

variable {g : Grammar τ} {tokens : Array τ} {active : Guard} {p q : Parser τ} {ps : List (Parser τ)}
  {key : Key} {start next : Fin (tokens.size + 1)} {a a' : Account} {v : Value}

theorem applied_eq_runFrom :
    p.applied g tokens active start a = (p.evaluate g tokens active start).value.runFrom a :=
  Trampoline.run_eq_value _ a

/-- A parse applies its parser while no rule is being applied. -/
theorem parse_eq_applied (g : Grammar τ) (p : Parser τ) (c : Cursor τ) (a : Account) :
    p.parse g c a = ((p.applied g c.source.tokens ∅ c.place a).1.map (·.mapPlace c.moveTo),
      (p.applied g c.source.tokens ∅ c.place a).2) := rfl

theorem applies_applied (g : Grammar τ) (tokens : Array τ) (active : Guard) (p : Parser τ)
    (start : Fin (tokens.size + 1)) (a : Account) :
    Applies g tokens active p start a (p.applied g tokens active start a).1
      (p.applied g tokens active start a).2 := by
  rw [applied_eq_runFrom]
  exact applies_evaluate g tokens active p start a

theorem exists_applied_of_isSuccess (h : (p.applied g tokens active start a).1.IsSuccess) :
    ∃ v next a', p.applied g tokens active start a = (.ok (.success v next), a') := by
  obtain ⟨v, next, hout⟩ := h
  exact ⟨v, next, (p.applied g tokens active start a).2, Prod.ext hout rfl⟩

/-- A match does not end before it started. -/
theorem le_of_applied {v : Value} {next : Fin (tokens.size + 1)}
    (h : p.applied g tokens active start a = (.ok (.success v next), a')) : start ≤ next := by
  have happ := applies_applied g tokens active p start a
  rw [h] at happ
  exact happ.le v next rfl

/-- The error of a failure is at the place of the failure. -/
theorem position_eq_of_applied {place : Fin (tokens.size + 1)} {e : ParseError}
    (h : p.applied g tokens active start a = (.ok (.failure place e), a')) :
    e.position = place.val := by
  have happ := applies_applied g tokens active p start a
  rw [h] at happ
  exact (happ.raises place e rfl).position_eq

/-- After a failure that is not fatal, the second alternative is applied at the same place. -/
theorem applied_or_of_isRecoverable {out : Outcome (Fin (tokens.size + 1)) Value}
    (h : p.applied g tokens active start a = (.ok out, a')) (hout : out.isRecoverable = true) :
    (Parser.or key p q).applied g tokens active start a =
      ((q.applied g tokens active start a').1.map out.orElse,
        (q.applied g tokens active start a').2) := by
  rw [applied_eq_runFrom] at h
  rw [applied_eq_runFrom, applied_eq_runFrom, Parser.evaluate, Trampoline.runFrom_bind,
    Trampoline.value_more, h]
  simp only [hout, if_true, Trampoline.runFrom_bind, Trampoline.value_more]
  rcases (q.evaluate g tokens active start).value.runFrom a' with ⟨fault | out', a''⟩ <;> rfl

/-- After anything else, the result is that of the first alternative. -/
theorem applied_or_of_not_isRecoverable
    (h : ¬(p.applied g tokens active start a).1.IsRecoverable) :
    (Parser.or key p q).applied g tokens active start a = p.applied g tokens active start a := by
  rw [applied_eq_runFrom] at h
  rw [applied_eq_runFrom, applied_eq_runFrom, Parser.evaluate, Trampoline.runFrom_bind,
    Trampoline.value_more]
  rcases hr : (p.evaluate g tokens active start).value.runFrom a with ⟨fault | out, a'⟩
  · rfl
  · have hout : out.isRecoverable ≠ true := fun hout => h ⟨out, by rw [hr], hout⟩
    simp only [hout]
    rfl

/-- A node with one part changes the outcome of the part, and leaves the account as it is. -/
theorem applied_modified (key : Key) (m : Modifier) :
    (Parser.modified key m p).applied g tokens active start a =
      ((p.applied g tokens active start a).1.map (m.settle start),
        (p.applied g tokens active start a).2) := by
  rw [applied_eq_runFrom, applied_eq_runFrom, Parser.evaluate, Trampoline.runFrom_bind,
    Trampoline.value_more]
  rcases (p.evaluate g tokens active start).value.runFrom a with ⟨fault | out, a'⟩ <;> rfl

section Refusing

variable {f : Value → Except String Value}

/-- A function that accepts the value of a match gives its own value. -/
theorem applied_tryMap_of_ok {w : Value} (key : Key)
    (h : p.applied g tokens active start a = (.ok (.success v next), a')) (hf : f v = .ok w) :
    (Parser.modified key (.tryMap f) p).applied g tokens active start a =
      (.ok (.success w next), a') := by
  simp only [applied_modified, h, Except.map, Modifier.settle, hf]

/-- A function that refuses the value of a match makes it a failure where the parser started. -/
theorem applied_tryMap_of_error {message : String} (key : Key)
    (h : p.applied g tokens active start a = (.ok (.success v next), a')) (hf : f v = .error message) :
    (Parser.modified key (.tryMap f) p).applied g tokens active start a =
      (.ok (.failure start (.custom start message)), a') := by
  simp only [applied_modified, h, Except.map, Modifier.settle, hf]

/-- A failure is not for the function. -/
theorem applied_tryMap_of_failure {place : Fin (tokens.size + 1)} {e : ParseError} (key : Key)
    (h : p.applied g tokens active start a = (.ok (.failure place e), a')) :
    (Parser.modified key (.tryMap f) p).applied g tokens active start a =
      (.ok (.failure place e), a') := by
  simp only [applied_modified, h, Except.map, Modifier.settle]

end Refusing

/-- The second parser is applied where the first one stopped. -/
theorem applied_and_of_success
    (h : p.applied g tokens active start a = (.ok (.success v next), a')) :
    (Parser.and key p q).applied g tokens active start a =
      ((q.applied g tokens active next a').1.map (·.map (.pair v)),
        (q.applied g tokens active next a').2) := by
  rw [applied_eq_runFrom] at h
  rw [applied_eq_runFrom, applied_eq_runFrom, Parser.evaluate, Trampoline.runFrom_bind,
    Trampoline.value_more, h]
  simp only [Trampoline.runFrom_bind, Trampoline.value_more]
  rcases (q.evaluate g tokens active next).value.runFrom a' with ⟨fault | out, a''⟩ <;> rfl

/-- Unless the first parser matches, the second one is not applied. -/
theorem applied_and_of_not_isSuccess (h : ¬(p.applied g tokens active start a).1.IsSuccess) :
    (Parser.and key p q).applied g tokens active start a = p.applied g tokens active start a := by
  rw [applied_eq_runFrom] at h
  rw [applied_eq_runFrom, applied_eq_runFrom, Parser.evaluate, Trampoline.runFrom_bind,
    Trampoline.value_more]
  rcases hr : (p.evaluate g tokens active start).value.runFrom a with
    ⟨fault | ⟨v, next⟩ | ⟨place, e⟩, a'⟩
  · rfl
  · exact absurd ⟨v, next, by rw [hr]⟩ h
  · rfl

theorem applied_sequence (g : Grammar τ) (tokens : Array τ) (active : Guard) (key : Key)
    (ps : List (Parser τ)) (start : Fin (tokens.size + 1)) (a : Account) :
    (Parser.sequence key ps).applied g tokens active start a =
      (((Parser.inOrder g tokens active ps start).value.runFrom a).1.map (·.map .list),
        ((Parser.inOrder g tokens active ps start).value.runFrom a).2) := by
  rw [applied_eq_runFrom, Parser.evaluate, Trampoline.runFrom_bind]
  rcases (Parser.inOrder g tokens active ps start).value.runFrom a with ⟨fault | out, a'⟩ <;> rfl

theorem applied_sequence_nil (key : Key) :
    (Parser.sequence key []).applied g tokens active start a = (.ok (.success (.list []) start), a) := by
  rw [applied_sequence, Parser.inOrder]
  rfl

/-- The rest of a sequence is applied where its first part stopped. -/
theorem applied_sequence_of_success
    (h : p.applied g tokens active start a = (.ok (.success v next), a')) :
    (Parser.sequence key (p :: ps)).applied g tokens active start a =
      (((Parser.sequence key ps).applied g tokens active next a').1.map (·.map v.prepend),
        ((Parser.sequence key ps).applied g tokens active next a').2) := by
  rw [applied_eq_runFrom] at h
  rw [applied_sequence, applied_sequence, Parser.inOrder, Trampoline.runFrom_bind,
    Trampoline.value_more, h]
  simp only [Trampoline.runFrom_bind]
  rcases (Parser.inOrder g tokens active ps next).value.runFrom a' with ⟨fault | out, a''⟩
  · rfl
  · exact Prod.ext (congrArg Except.ok (map_prepend v out)) rfl

/-- Unless the first part matches, no other part of a sequence is applied. -/
theorem applied_sequence_of_not_isSuccess
    (h : ¬(p.applied g tokens active start a).1.IsSuccess) :
    (Parser.sequence key (p :: ps)).applied g tokens active start a =
      p.applied g tokens active start a := by
  rw [applied_eq_runFrom] at h
  rw [applied_sequence, applied_eq_runFrom, Parser.inOrder, Trampoline.runFrom_bind,
    Trampoline.value_more]
  rcases hr : (p.evaluate g tokens active start).value.runFrom a with
    ⟨fault | ⟨v, next⟩ | ⟨place, e⟩, a'⟩
  · rfl
  · exact absurd ⟨v, next, by rw [hr]⟩ h
  · rfl

end Applied

end GuardedParsing
