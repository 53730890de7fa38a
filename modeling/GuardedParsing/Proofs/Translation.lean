import GuardedParsing.Proofs.Annotations
import GuardedParsing.Proofs.LeftRecursion

/-!
# Parsing where the input begins elsewhere

A parse sees the tokens from its cursor on, and nothing before them. The guard, the errors and the
tests for a match of no tokens speak of positions, but only to compare them with each other.

* `alike_parse`: the parse of a source that holds the remaining tokens only, and the parse from the
  cursor, are alike.
* `parse_translated`: **for a closed grammar, both have an outcome, and it is the same one, with all
  positions of the second greater by the position of the cursor.**
-/

namespace GuardedParsing

variable {τ : Type}

namespace Cursor

/-- The start of a source that holds the tokens from the cursor on, and no others. -/
def fresh (c : Cursor τ) (serial : Nat) : Cursor τ := .start ⟨serial, c.remaining.toArray⟩

theorem behind_fresh (c : Cursor τ) (serial : Nat) :
    Behind c.position (c.fresh serial).source.tokens c.source.tokens where
  size_eq := by
    have hle := c.le_size
    simp only [fresh, start, remaining, List.size_toArray, List.length_drop, Array.length_toList]
    omega
  getElem?_eq i := by simp [fresh, start, remaining]

theorem shifted_fresh (c : Cursor τ) (serial : Nat) :
    Shifted c.position (c.fresh serial).place c.place := (Nat.add_zero c.position).symm

/-- The second place is in the source of the cursor, as far after the cursor as the first one is
after the start of the fresh source. -/
structure Translated (c : Cursor τ) (serial : Nat) (next next' : Cursor τ) : Prop where
  source_eq : next.source = (c.fresh serial).source
  source_eq' : next'.source = c.source
  position_eq : next'.position = c.position + next.position

end Cursor

variable [Token τ] {g : Grammar τ} {p : Parser τ}

/-- **Tokens before the cursor do not matter** where no released rule is reached. -/
theorem alike_parse (hun : g.Unreleased p) (c : Cursor τ) (serial : Nat) (a a' : Account) :
    Alike (c.Translated serial) (ParseError.Agrees true c.position)
      (p.parse g (c.fresh serial) a).1 (p.parse g c a').1 := by
  obtain ⟨es, res, h⟩ := exists_yields g (c.fresh serial).source.tokens ∅ p (c.fresh serial).place
  obtain ⟨es', res', h'⟩ := exists_yields g c.source.tokens ∅ p c.place
  have hagree : Agree true c.position res res' :=
    h.agree (c.behind_fresh serial) (.refl true g p) (c.shifted_fresh serial) h'
  rw [h.parse_eq (h.askAtStops_eq_ok hun _), h'.parse_eq (h'.askAtStops_eq_ok hun _)]
  exact Alike.mapPlace hagree fun _ _ hplace => ⟨rfl, rfl, hplace⟩

/-- **Parsing does not depend on where the input begins.** Under a closed grammar, the parse from a
cursor has the same outcome as the parse of a fresh source that holds only the tokens from the
cursor on, whatever was asked or parsed before: the same value, or the same error, with the place
after the match, the place of the failure and the position of the error greater by the position of
the cursor. -/
theorem parse_translated (hp : g.Closed p) (c : Cursor τ) (serial : Nat) (a a' : Account) :
    ∃ out out', (p.parse g (c.fresh serial) a).1 = .ok out ∧ (p.parse g c a').1 = .ok out' ∧
      Alike (c.Translated serial) (ParseError.Agrees true c.position) (.ok out) (.ok out') := by
  obtain ⟨out, -, -, hout⟩ := exists_applies_of_parse hp (c.fresh serial) a
  obtain ⟨out', -, -, hout'⟩ := exists_applies_of_parse hp c a'
  have halike := alike_parse (Grammar.Closed.unreleased hp) c serial a a'
  rw [hout, hout'] at halike
  exact ⟨_, _, hout, hout', halike⟩

namespace Cursor

/-- The cursor after the first of two tokens. -/
def beforeX : Cursor Char := ⟨⟨0, #['y', 'x']⟩, 1, by decide⟩

end Cursor

open Grammar in
/-- The rule that is itself or an `x` is entered again where it is entered. -/
theorem parse_selfReferring (c : Cursor Char) :
    ((Parser.refer 3 0 true).parse selfReferring c {}).1 =
      .ok (.failure c (.leftRecursion c.position "expr")) := by
  have hyields : Yields selfReferring c.source.tokens ∅ (.refer 3 0 true) c.place [.rule 0, .rule 0]
      (.ok (.failure c.place (.leftRecursion c.place "expr"))) := by
    refine .entered rfl (by simp) (.orFirst (.reentered rfl (by simp)) ?_)
    rintro ⟨out, ⟨⟩, hout⟩
    cases hout
  exact hyields.parse_eq rfl

open Grammar in
/-- The rule that is itself or an `x` is reported where it is entered, also after another token. -/
theorem parse_translated_selfReferring :
    selfReferring.Closed (.refer 3 0 true) ∧
      ∃ place e, ((Parser.refer 3 0 true).parse selfReferring Cursor.beforeX {}).1 =
        .ok (.failure place e) ∧ place.position = 1 ∧ e.position = 1 ∧ e.kind = .leftRecursion := by
  obtain ⟨out, out', hout, hout', halike⟩ :=
    parse_translated (closed_selfReferring 3) Cursor.beforeX 1 {} {}
  rw [parse_selfReferring] at hout
  obtain rfl := Except.ok.inj hout
  cases halike with
  | failure hplace he =>
    exact ⟨closed_selfReferring 3, _, _, hout', hplace.position_eq, he.position, he.kind⟩

end GuardedParsing
