import GuardedParsing.Proofs.Interruption
import GuardedParsing.Proofs.Reentry

/-!
# The record of observed parsers is well bracketed

A parser under observation is put on record when it is applied and when it has an outcome. The second
event is recorded by a frame, which waits on the stack while the parser does its work. What is
recorded in the meantime comes from applications whose frames lie above that frame, so the record of
a parse that gives an outcome is a sequence of pairs in pairs, with other events between them.

* `Bracketed`: the grammar of such records. A pair belongs to an application of the run, closes with
  what this application handed on, and encloses what was recorded while its frame was waiting.
* `Applies.brackets`: an application that has an outcome adds such a record.
* `Bracketed.foldlM_track`: whoever keeps account of what is open finds that the last pair opened is
  the first one closed, and that nothing is left open at the end.
* `observations_bracketed`: **the record of every parse that gives an outcome is well bracketed**,
  that of a fatal failure included, and each application of an observed parser opens a pair of it.
-/

namespace GuardedParsing

/-! ## Pairs of events -/

namespace Event

/-- An event of a parser under observation: it is applied, or it has an outcome. -/
def IsObservation : Event → Prop
  | observed _ _ _ | matched _ _ _ | failed _ _ _ => True
  | _ => False

/-- What is open after an event, the innermost first. An outcome has to be one of the innermost
parser that is open. -/
def track (opened : List (Key × String)) : Event → Option (List (Key × String))
  | observed key name _ => some ((key, name) :: opened)
  | matched key name _ | failed key name _ =>
    match opened with
    | [] => none
    | innermost :: opened => if innermost = (key, name) then some opened else none
  | _ => some opened

variable {opened : List (Key × String)} {key : Key} {name : String}

theorem track_of_not_isObservation {e : Event} (h : ¬e.IsObservation) :
    e.track opened = some opened := by
  cases e with
  | observed | matched | failed => exact absurd trivial h
  | defined | entered | left | reentered | stopped => rfl

theorem track_ofOutcome {n : Nat} (out : Outcome (Fin (n + 1)) Value) :
    (ofOutcome key name out).track ((key, name) :: opened) = some opened := by
  cases out <;> exact if_pos rfl

/-- The record of an outcome says where the match ended, or gives the text of the error. -/
theorem record?_ofOutcome {n : Nat} (out : Outcome (Fin (n + 1)) Value) :
    (ofOutcome key name out).record? =
      some (.trace, shown name ++ out.fold
        (fun _ next => " matched up to position " ++ toString next.val)
        (fun _ e => " failed: " ++ e.text)) := by
  cases out <;> rw [ofOutcome, record?, Outcome.fold, ← String.append_assoc]

end Event

/-- The stack `K₀` is what is left of a stack without its topmost frames, or all of it. -/
inductive Stack.Beneath {τ : Type} {n : Nat} {last k₀ : Kind} (K₀ : Stack τ n last k₀) :
    {k : Kind} → Stack τ n last k → Prop
  | refl : Beneath K₀ K₀
  | cons {k k' : Kind} {frame : Frame τ n k k'} {K : Stack τ n last k'} (h : Beneath K₀ K) :
      Beneath K₀ (.cons frame K)

theorem Stack.Beneath.trans {τ : Type} {n : Nat} {last k₀ k₁ k₂ : Kind} {K₀ : Stack τ n last k₀}
    {K₁ : Stack τ n last k₁} {K₂ : Stack τ n last k₂} (h : K₀.Beneath K₁) (h' : K₁.Beneath K₂) :
    K₀.Beneath K₂ := by
  induction h' with
  | refl => exact h
  | cons _ ih => exact .cons ih

variable {τ : Type} [Token τ] {last : Kind}

/-- In the run from `M`, with `before` on record, a parser that is observed as `name` is applied at
`start`, above the frames of `K`. It hands `out` to them when `after` is on record. -/
inductive Machine.Observes (g : Grammar τ) (tokens : Array τ) (M : Machine τ tokens.size last)
    (key : Key) (name : String) (start : Fin (tokens.size + 1))
    (out : Outcome (Fin (tokens.size + 1)) Value) (K : Stack τ tokens.size last .outcome) :
    List Event → List Event → Prop
  | intro {part active guard a a'} (hactive : ∀ x, x ∈ active ↔ x ∈ guard)
      (hstart : M.Steps g tokens ⟨.apply (.observed key name part) start, K, .of active a⟩)
      (happ : Applies g tokens guard (.observed key name part) start a (.ok out) a')
      (hend : Machine.Steps g tokens ⟨.apply (.observed key name part) start, K, .of active a⟩
        (outcome out K (.of active a'))) :
      Observes g tokens M key name start out K a.events.toList a'.events.toList

/-- `Bracketed g tokens M K₀ before es`: the run from `M` adds `es` to the record `before` while the
frames of `K₀` are waiting, and the events of observed parsers in it are properly nested. -/
inductive Bracketed (g : Grammar τ) (tokens : Array τ) (M : Machine τ tokens.size last) :
    Stack τ tokens.size last .outcome → List Event → List Event → Prop
  | nil {K₀ before} : Bracketed g tokens M K₀ before []
  | other {K₀ before e es} (he : ¬e.IsObservation)
      (hes : Bracketed g tokens M K₀ (before ++ [e]) es) : Bracketed g tokens M K₀ before (e :: es)
  -- the applications that are nested in this one are those above its frame
  | application {K₀ K key name before within es} {start : Fin (tokens.size + 1)}
      {out : Outcome (Fin (tokens.size + 1)) Value} (hK : K₀.Beneath K)
      (hobserves : M.Observes g tokens key name start out K before
        (before ++ .observed key name start :: within ++ [.ofOutcome key name out]))
      (hle : ∀ v next, out = .success v next → start ≤ next)
      (hwithin : Bracketed g tokens M (.cons (.observe key name) K)
        (before ++ [.observed key name start]) within)
      (hes : Bracketed g tokens M K₀
        (before ++ .observed key name start :: within ++ [.ofOutcome key name out]) es) :
      Bracketed g tokens M K₀ before
        (.observed key name start :: within ++ .ofOutcome key name out :: es)

variable {g : Grammar τ} {tokens : Array τ} {M : Machine τ tokens.size last}
  {K K₀ : Stack τ tokens.size last .outcome} {before es fs : List Event}

namespace Bracketed

theorem append (h : Bracketed g tokens M K₀ before es)
    (h' : Bracketed g tokens M K₀ (before ++ es) fs) :
    Bracketed g tokens M K₀ before (es ++ fs) := by
  induction h with
  | nil => simpa using h'
  | other he _ ih => exact .other he (ih (by simpa using h'))
  | application hK hobserves hle hwithin _ _ ih =>
    have hrest := Bracketed.application hK hobserves hle hwithin (ih (by simpa using h'))
    simpa using hrest

/-- What is recorded above some frames is recorded above those beneath them. -/
theorem of_beneath (h : Bracketed g tokens M K before es) (hK : K₀.Beneath K) :
    Bracketed g tokens M K₀ before es := by
  induction h with
  | nil => exact .nil
  | other he _ ih => exact .other he (ih hK)
  | application hbeneath hobserves hle hwithin _ _ ih =>
    exact .application (hK.trans hbeneath) hobserves hle hwithin (ih hK)

/-- **The pair that was opened last is the first one to be closed**, and every pair is. -/
theorem foldlM_track (h : Bracketed g tokens M K₀ before es) (opened : List (Key × String)) :
    es.foldlM Event.track opened = some opened := by
  induction h generalizing opened with
  | nil => rfl
  | other he _ ih =>
    rw [List.foldlM_cons, Event.track_of_not_isObservation he]
    exact ih opened
  | @application _ _ key name _ within es start out _ _ _ _ _ ihwithin ihrest =>
    have hopen : (Event.observed key name start).track opened = some ((key, name) :: opened) := rfl
    have hclose : (Event.ofOutcome key name out).track ((key, name) :: opened) = some opened :=
      Event.track_ofOutcome out
    rw [List.cons_append, List.foldlM_cons, hopen, Option.bind_eq_bind, Option.bind_some,
      List.foldlM_append, ihwithin, Option.bind_eq_bind, Option.bind_some, List.foldlM_cons, hclose]
    exact ihrest opened

end Bracketed

/-! ## The record of an application -/

/-- In the run from `M`, what is recorded above the frames of `K` between two accounts is well
bracketed. -/
def Brackets (g : Grammar τ) (tokens : Array τ) (M : Machine τ tokens.size last)
    (K : Stack τ tokens.size last .outcome) (a a' : Account) : Prop :=
  ∃ es, a'.events.toList = a.events.toList ++ es ∧ Bracketed g tokens M K a.events.toList es

namespace Brackets

variable {a a' a'' : Account}

theorem refl (a : Account) : Brackets g tokens M K a a := ⟨[], by simp, .nil⟩

theorem trans (h : Brackets g tokens M K a a') (h' : Brackets g tokens M K a' a'') :
    Brackets g tokens M K a a'' := by
  obtain ⟨es, hes, hbracketed⟩ := h
  obtain ⟨fs, hfs, hbracketed'⟩ := h'
  rw [hes] at hbracketed'
  exact ⟨es ++ fs, by rw [hfs, hes, List.append_assoc], hbracketed.append hbracketed'⟩

/-- An event that has nothing to do with observed parsers. -/
theorem push {m : Memory} {e : Event} (he : ¬e.IsObservation) :
    Brackets g tokens M K a ⟨m, a.events.push e⟩ :=
  ⟨[e], Array.toList_push, .other he .nil⟩

/-- What a frame waits for. -/
theorem above {frame : Frame τ tokens.size .outcome .outcome}
    (h : Brackets g tokens M (.cons frame K) a a') : Brackets g tokens M K a a' := by
  obtain ⟨es, hes, hbracketed⟩ := h
  exact ⟨es, hes, hbracketed.of_beneath (.cons .refl)⟩

end Brackets

/-- The repetition that stops records that it does, and nothing about observed parsers. -/
theorem brackets_stopRepetition {part : Parser τ} {position : Nat} {a : Account} :
    (part.stopRepetition g position a).1 = .ok () →
      Brackets g tokens M K a (part.stopRepetition g position a).2 := by
  rw [Parser.stopRepetition]
  rcases part.acceptsEmpty g a.memory with ⟨fault | b, m⟩
  · rintro ⟨⟩
  · exact fun _ => .push id

namespace Machine

/-- A frame gets the outcome that it waits for. -/
theorem steps_resume {frame : Frame τ tokens.size .outcome .outcome} {guard : Guard}
    {active : Finset Activation} {p : Parser τ} {start : Fin (tokens.size + 1)} {a a' : Account}
    {out : Outcome (Fin (tokens.size + 1)) Value}
    (hM : M.Steps g tokens ⟨.apply p start, .cons frame K, .of active a⟩)
    (happ : Applies g tokens guard p start a (.ok out) a')
    (hactive : ∀ x, x ∈ active ↔ x ∈ guard) :
    M.Steps g tokens (resume frame out K (.of active a')) :=
  (hM.trans (happ.gives (.cons frame K) active hactive)).tail (next_give (k := .outcome) g out)

end Machine

open Machine in
/-- **The record of an application that has an outcome is well bracketed**, wherever in a run the
parser is applied. -/
theorem Applies.brackets {guard : Guard} {p : Parser τ} {start : Fin (tokens.size + 1)}
    {a a' : Account} {res : Result tokens} (h : Applies g tokens guard p start a res a') :
    ∀ out, res = .ok out → ∀ (K : Stack τ tokens.size last .outcome) (active : Finset Activation),
      (∀ x, x ∈ active ↔ x ∈ guard) → M.Steps g tokens ⟨.apply p start, K, .of active a⟩ →
      Brackets g tokens M K a a' := by
  induction h with
  | primitive | sequenceNil => exact fun _ _ K active _ _ => .refl _
  | modified _ ih =>
    intro out hres K active hactive hM
    obtain ⟨out', rfl, -⟩ := map_eq_ok hres
    exact (ih out' rfl _ active hactive (hM.tail rfl)).above
  | @observed guard key name part start a out a' hpart ih =>
    intro _ _ K active hactive hM
    have happ : Applies g tokens guard (.observed key name part) start a (.ok out) _ := .observed hpart
    obtain ⟨within, hwithin, hbracketed⟩ := ih out rfl (.cons (.observe key name) K) active hactive
      (hM.tail rfl)
    have hbefore : (a.note (.observed key name start)).events.toList =
        a.events.toList ++ [.observed key name start] := Array.toList_push
    have hafter : (a'.note (.ofOutcome key name out)).events.toList =
        a.events.toList ++ .observed key name start :: within ++ [.ofOutcome key name out] := by
      rw [Account.note, Array.toList_push, hwithin, hbefore]
      simp
    have hobserves := Observes.intro hactive hM happ (happ.gives K active hactive)
    rw [hafter] at hobserves
    rw [hbefore] at hbracketed
    refine ⟨.observed key name start :: within ++ .ofOutcome key name out :: [], by
      rw [hafter]; simp, .application .refl hobserves ?_ hbracketed .nil⟩
    rintro v next rfl
    exact happ.le v next rfl
  | orFirst _ _ ih | andFirst _ _ ih | sequenceFirst _ _ ih =>
    intro out hres K active hactive hM
    exact (ih out hres _ active hactive (hM.tail rfl)).above
  | manyFatal _ _ ih | manyEnd _ _ ih =>
    intro _ _ K active hactive hM
    exact (ih _ rfl _ active hactive (hM.tail rfl)).above
  | @orSecond _ _ _ q start _ out _ _ _ hp hout _ ihp ihq =>
    intro _ hres K active hactive hM
    obtain ⟨out', rfl, -⟩ := map_eq_ok hres
    have hM' := hM.tail (c := ⟨_, .cons (.orElse q start) K, _⟩) rfl
    have hsecond := steps_resume hM' hp hactive
    rw [resume_orElse, if_pos hout] at hsecond
    exact (ihp _ rfl _ active hactive hM').above.trans
      (ihq out' rfl _ active hactive hsecond).above
  | @andSecond _ _ _ q _ _ _ _ _ _ _ hp _ ihp ihq =>
    intro _ hres K active hactive hM
    obtain ⟨out', rfl, -⟩ := map_eq_ok hres
    have hM' := hM.tail (c := ⟨_, .cons (.andThen q) K, _⟩) rfl
    exact (ihp _ rfl _ active hactive hM').above.trans
      (ihq out' rfl _ active hactive (steps_resume hM' hp hactive)).above
  | @sequenceNext _ key _ ps _ _ _ _ _ _ _ hp _ ihp ihps =>
    intro _ hres K active hactive hM
    obtain ⟨out', rfl, -⟩ := map_eq_ok hres
    have hM' := hM.tail (c := ⟨_, .cons (.inOrder key ps) K, _⟩) rfl
    exact (ihp _ rfl _ active hactive hM').above.trans
      (ihps out' rfl _ active hactive (steps_resume hM' hp hactive)).above
  | @manyNext _ key part start _ _ _ _ _ _ hp hlt _ ihp ihrest =>
    intro _ hres K active hactive hM
    obtain ⟨out', rfl, -⟩ := map_eq_ok hres
    have hM' := hM.tail (c := ⟨_, .cons (.again key part start) K, _⟩) rfl
    have hagain := steps_resume hM' hp hactive
    rw [resume, if_pos hlt] at hagain
    exact (ihp _ rfl _ active hactive hM').above.trans
      (ihrest out' rfl _ active hactive hagain).above
  | manyStopped hp _ ihp =>
    intro _ hres K active hactive hM
    obtain ⟨_, hstop, -⟩ := map_eq_ok hres
    exact (ihp _ rfl _ active hactive (hM.tail rfl)).above.trans (brackets_stopRepetition hstop)
  | reentered => exact fun _ _ K active _ _ => .push id
  | @entered guard _ rule _ a d out a' start hb hin _ ih =>
    intro _ _ K active hactive hM
    have hx : (⟨rule, start⟩ : Activation) ∉ active := mt (hactive _).1 hin
    refine (Brackets.push (e := .entered ⟨rule, start⟩ (g.name rule)) id).trans
      ((ih out rfl _ (insert ⟨rule, start⟩ active) (fun x => ?_)
        (hM.tail (next_refer hb hx))).above.trans (.push id))
    rw [Finset.mem_insert, Guard.mem_insert, hactive]
  | observedFault | manyFault | unset | released | enteredFault =>
    rintro _ ⟨⟩

/-! ## The record of a parse -/

variable {g : Grammar τ} {p : Parser τ} {c : Cursor τ} {a : Account}

open Machine in
/-- Whenever a parser under observation is applied in a parse, this is what is recorded next. -/
theorem Machine.recorded_of_steps {key : Key} {name : String} {part : Parser τ}
    {start : Fin (c.source.tokens.size + 1)} {K : Stack τ c.source.tokens.size .outcome .outcome}
    {σ : Registers}
    (h : (Machine.start p c a).Steps g c.source.tokens
      ⟨.apply (.observed key name part) start, K, σ⟩) :
    ∃ before after, σ.events = a.events ++ before ∧
      (p.parse g c a).2.events = a.events ++ (before.push (.observed key name start) ++ after) := by
  obtain ⟨N, res, σ', hN, hend, -, hevents⟩ := parse_runs g p c a
  obtain ⟨before, hbefore, -⟩ := record_of_steps h
  have hnext := h.tail (c := ⟨.apply part start, .cons (.observe key name) K,
    σ.note (.observed key name start)⟩) rfl
  obtain ⟨after, hafter, -⟩ := record_of_steps (steps_end hN hend hnext)
  have hσ : σ.events = a.events ++ before := hbefore
  refine ⟨before, after, hσ, ?_⟩
  rw [hevents, registers_of_next hend, hafter, Registers.note, hσ, ← Array.append_push,
    Array.append_assoc]

variable (g p c a)

/-- **The record of observed parsers is well bracketed**, for every parse that gives an outcome. What
the parse adds to the record is a sequence of pairs in pairs, with other events between them. A pair
is that of one application: its first event shows where the parser was applied, its second one where
the match ended, which is not before that place, or the text of the error; and the application handed
this outcome to the frames that were waiting for it. Between the two are the events of what was
applied above its frame. The parser that was opened last is the first one to be closed, and none is
left open; and each application of a parser under observation opens a pair. -/
theorem observations_bracketed {out : Outcome (Cursor τ) Value} (h : (p.parse g c a).1 = .ok out) :
    ∃ new, (p.parse g c a).2.events = a.events ++ new ∧
      Bracketed g c.source.tokens (.start p c a) .nil a.events.toList new.toList ∧
      (∀ opened, new.toList.foldlM Event.track opened = some opened) ∧
      (∀ key name part start K σ,
        (Machine.start p c a).Steps g c.source.tokens
          ⟨.apply (.observed key name part) start, K, σ⟩ →
        ∃ before after, σ.events = a.events ++ before ∧
          new = before.push (.observed key name start) ++ after) ∧
      ∀ key name (start : Nat) (out : Outcome (Fin (c.size + 1)) Value),
        (Event.observed key name start).record? =
          some (.trace, "entering " ++ Event.shown name ++ " at position " ++ toString start) ∧
        (Event.ofOutcome key name out).record? = some (.trace, Event.shown name ++ out.fold
          (fun _ next => " matched up to position " ++ toString next.val)
          (fun _ e => " failed: " ++ e.text)) := by
  obtain ⟨out', happ, -⟩ := applies_of_parse h
  obtain ⟨es, hes, hbracketed⟩ := happ.brackets out' rfl .nil ∅ (by simp)
    (M := .start p c a) .refl
  have hnew : (p.parse g c a).2.events = a.events ++ es.toArray :=
    Array.toList_inj.1 (by simpa using hes)
  refine ⟨es.toArray, hnew, hbracketed, hbracketed.foldlM_track, ?_,
    fun _ _ _ out => ⟨rfl, Event.record?_ofOutcome out⟩⟩
  intro key name part start K σ hsteps
  obtain ⟨before, after, hbefore, hafter⟩ := Machine.recorded_of_steps hsteps
  exact ⟨before, after, hbefore, Array.append_right_inj a.events |>.1 (hnew.symm.trans hafter)⟩

/-- A reference to the rule 0 under observation. -/
def Parser.again : Parser Char := .observed 1 "again" (.refer 0 0 false)

/-- A grammar whose rule 0 is itself under observation. -/
def Grammar.agains : Grammar Char := #[⟨"again", .bound .again⟩]

/-- Where the rule comes back to itself, the failure closes both observations, the inner one first. -/
theorem observations_bracketed_again :
    ∃ place e, (Parser.again.parse .agains (Cursor.start ⟨0, #['a']⟩) {}).1 =
        .ok (.failure place e) ∧ e.isFatal = true ∧
      (Parser.again.parse .agains (Cursor.start ⟨0, #['a']⟩) {}).2.events =
        #[.observed 1 "again" 0, .entered ⟨0, 0⟩ "again", .observed 1 "again" 0,
          .reentered ⟨0, 0⟩ "again", .failed 1 "again" e, .left ⟨0, 0⟩, .failed 1 "again" e] ∧
      ∃ new, (Parser.again.parse .agains (Cursor.start ⟨0, #['a']⟩) {}).2.events = #[] ++ new ∧
        new.toList.foldlM Event.track [] = some [] := by
  have hnew : (⟨0, 0⟩ : Activation) ∉ (∅ : Guard) := by simp
  have hback : (⟨0, 0⟩ : Activation) ∈ (∅ : Guard).insert ⟨0, 0⟩ := Guard.mem_insert.2 (.inl rfl)
  have happ : Applies .agains #['a'] ∅ .again 0 {}
      (.ok (.failure 0 (.leftRecursion 0 "again"))) _ :=
    .observed (.entered rfl hnew (.observed (.reentered rfl hback)))
  have h := parse_eq_of_applies (c := Cursor.start ⟨0, #['a']⟩) happ
  obtain ⟨res, hparse, -⟩ := applies_parse .agains .again (Cursor.start ⟨0, #['a']⟩) {}
  obtain ⟨-, -, hevents⟩ := hparse.functional happ
  obtain ⟨new, hadded, -, htrack, -⟩ := observations_bracketed .agains .again _ _ h
  exact ⟨_, _, h, rfl, hevents, new, hadded, htrack []⟩

end GuardedParsing
