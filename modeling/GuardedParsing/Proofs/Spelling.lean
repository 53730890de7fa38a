import GuardedParsing.Parser.Text
import GuardedParsing.Proofs.Sequencing
import GuardedParsing.Proofs.TokenRuns

/-!
# Spelling

A text is read character by character, a keyword as the longest identifier that is there. Reading a
keyword therefore comes to the same as reading its text and looking that no identifier goes on after
it.

* `LongestCommonPrefix`: what two texts have in common from the left.
* `string_exact`: **a text is matched as far as the input agrees with it.** If that is all of it, the
  match ends there; if not, the first character that differs is what was expected there.
* `IsIdentifier`: the whole identifiers, for any classes of characters.
* `keyword_lookahead`: **an identifier as a keyword matches where its text does that no character of
  an identifier follows**, and up to the same place. Any other text as a keyword matches nowhere. The
  failures of a keyword are where it was tried.
-/

namespace GuardedParsing

/-- What two lists have in common from the left, and nothing less. -/
structure LongestCommonPrefix {α : Type} (shared cs ts : List α) : Prop where
  left : shared <+: cs
  right : shared <+: ts
  longest {l : List α} : l <+: cs → l <+: ts → l <+: shared

section Prefixes

variable {α : Type} {shared cs ts : List α} {c t : α}

theorem longestCommonPrefix_nil_left : LongestCommonPrefix [] [] ts :=
  ⟨List.nil_prefix, List.nil_prefix, fun h _ => h⟩

/-- Lists that do not begin with the same item have nothing in common. -/
theorem longestCommonPrefix_of_ne (h : ∀ t ∈ ts.head?, t ≠ c) :
    LongestCommonPrefix [] (c :: cs) ts := by
  refine ⟨List.nil_prefix, List.nil_prefix, fun {l} hl hl' => ?_⟩
  rcases l with _ | ⟨x, l⟩
  · exact List.nil_prefix
  · obtain ⟨rest, rfl⟩ := hl'
    obtain ⟨rfl, -⟩ := List.cons_prefix_cons.1 hl
    exact absurd rfl (h x rfl)

theorem LongestCommonPrefix.cons (h : LongestCommonPrefix shared cs ts) (c : α) :
    LongestCommonPrefix (c :: shared) (c :: cs) (c :: ts) := by
  refine ⟨List.cons_prefix_cons.2 ⟨rfl, h.left⟩, List.cons_prefix_cons.2 ⟨rfl, h.right⟩,
    fun {l} hl hl' => ?_⟩
  rcases l with _ | ⟨x, l⟩
  · exact List.nil_prefix
  · obtain ⟨rfl, hrest⟩ := List.cons_prefix_cons.1 hl
    exact List.cons_prefix_cons.2 ⟨rfl, h.longest hrest (List.cons_prefix_cons.1 hl').2⟩

/-- All of a list is in common iff the other one begins with it. -/
theorem LongestCommonPrefix.eq_iff (h : LongestCommonPrefix shared cs ts) :
    shared = cs ↔ cs <+: ts := by
  constructor
  · rintro rfl
    exact h.right
  · intro hcs
    exact h.left.eq_of_length_le (h.longest List.prefix_rfl hcs).length_le

end Prefixes

namespace Value

theorem foldl_toText_chars (s : String) (cs : List Char) :
    (cs.map (Token.toValue : Char → Value)).foldl (fun s v => s ++ v.toText) s =
      s ++ String.ofList cs := by
  induction cs generalizing s with
  | nil => simp
  | cons c cs ih =>
    rw [List.map_cons, List.foldl_cons, ih, String.append_assoc, ← String.toList_inj]
    simp [Token.toValue, toText]

/-- Characters are joined to their text. -/
theorem joined_chars (cs : List Char) :
    joined (cs.map (Token.toValue : Char → Value)) = String.ofList cs := by
  rw [joined, foldl_toText_chars]
  simp

end Value

section Texts

/-- A parser of one character. -/
def Spells (c : Char) (p : Parser Char) : Prop :=
  ∃ key, p = .primitive key (.satisfy (Token.quoted c) (· == c))

/-- The characters of a text get a parser each, in order. -/
theorem runFrom_mapM_just (cs : List Char) (d : Draft Char) :
    ∃ ps d', (cs.mapM Build.just).runFrom d = (.ok ps, d') ∧ List.Forall₂ Spells cs ps := by
  induction cs generalizing d with
  | nil => exact ⟨[], d, rfl, .nil⟩
  | cons c cs ih =>
    obtain ⟨ps, d', hps, hspells⟩ := ih { d with nextKey := d.nextKey + 1 }
    refine ⟨_ :: ps, d', ?_, .cons ⟨d.nextKey, rfl⟩ hspells⟩
    have hjust : (Build.just c).runFrom d = (.ok _, { d with nextKey := d.nextKey + 1 }) := rfl
    rw [List.mapM_cons, Effect.runFrom_bind, hjust]
    simp only [Effect.runFrom_bind, hps]
    rfl

/-- **Characters in order match as far as the input agrees with them.** -/
theorem applied_sequence_of_spells {cs : List Char} {ps : List (Parser Char)}
    (h : List.Forall₂ Spells cs ps) (g : Grammar Char) (tokens : Array Char) (active : Guard)
    (key : Key) (start : Fin (tokens.size + 1)) (a : Account) :
    ∃ shared place, LongestCommonPrefix shared cs (tokensFrom tokens start) ∧
      place.val = start.val + shared.length ∧
      (shared = cs → (Parser.sequence key ps).applied g tokens active start a =
        (.ok (.success (.list (cs.map Token.toValue)) place), a)) ∧
      ∀ c, cs[shared.length]? = some c → (Parser.sequence key ps).applied g tokens active start a =
        (.ok (.failure place (missingAt tokens place (Token.quoted c))), a) := by
  induction h generalizing start with
  | nil =>
    exact ⟨[], start, longestCommonPrefix_nil_left, rfl, fun _ => applied_sequence_nil key, nofun⟩
  | @cons c p cs ps hp _ ih =>
    obtain ⟨key', rfl⟩ := hp
    rcases accepted_or_refused (· == c) tokens start with ⟨t, rest, hts, ht⟩ | hrefused
    -- the input agrees with the first character: what is in common is longer by it
    · obtain rfl := eq_of_beq ht
      obtain ⟨next, hnext, -, hrest⟩ := exists_next hts
      obtain ⟨shared, place, hshared, hplace, hall, hmissing⟩ := ih next
      have hfirst : (Parser.primitive key' (.satisfy (Token.quoted t) (· == t))).applied
          g tokens active start a = (.ok (.success (Token.toValue t) next), a) :=
        applied_satisfy_of_accepted _ _ _ _ _ hts ht hnext
      rw [hrest] at hshared
      refine ⟨t :: shared, place, hts ▸ hshared.cons t, ?_, fun heq => ?_, fun c hc => ?_⟩
      · rw [hplace, hnext, List.length_cons]
        omega
      · rw [applied_sequence_of_success hfirst, hall (List.cons.inj heq).2]
        rfl
      · rw [applied_sequence_of_success hfirst, hmissing c (by simpa using hc)]
        rfl
    · have hfirst : (Parser.primitive key' (.satisfy (Token.quoted c) (· == c))).applied
          g tokens active start a = (.ok (.failure start (missingAt tokens start _)), a) :=
        applied_satisfy_of_refused _ _ _ _ _ hrefused
      refine ⟨[], start, longestCommonPrefix_of_ne fun t ht heq => ?_, rfl, nofun, ?_⟩
      · have hne := hrefused t ht
        simp [heq] at hne
      · rintro _ ⟨⟩
        rw [applied_sequence_of_not_isSuccess (by rw [hfirst]; exact Result.not_isSuccess_failure),
          hfirst]

/-- A parser of the characters of a text, in order, with the text as its value. -/
def SpellsText (s : String) (p : Parser Char) : Prop :=
  ∃ key key' ps,
    p = .modified key' (.map fun v => .text (Value.joined v.items)) (.sequence key ps) ∧
      List.Forall₂ Spells s.toList ps

theorem runFrom_string (s : String) (d : Draft Char) :
    ∃ p d', (Build.string s).runFrom d = (.ok p, d') ∧ SpellsText s p := by
  obtain ⟨ps, d', hps, hspells⟩ := runFrom_mapM_just s.toList d
  have hbuilt : (Build.string s).runFrom d =
      (.ok (.modified (d'.nextKey + 1) (.map fun v => .text (Value.joined v.items))
        (.sequence d'.nextKey ps)), { d' with nextKey := d'.nextKey + 1 + 1 }) := by
    rw [Build.string, Effect.runFrom_bind, hps]
    rfl
  exact ⟨_, _, hbuilt, _, _, ps, rfl, hspells⟩

variable {tokens : Array Char} {start : Fin (tokens.size + 1)} {s : String} {p : Parser Char}

/-- A text matches as far as the input agrees with it. -/
theorem SpellsText.applied (h : SpellsText s p) (g : Grammar Char) (tokens : Array Char)
    (active : Guard) (start : Fin (tokens.size + 1)) (a : Account) :
    ∃ shared place, LongestCommonPrefix shared s.toList (tokensFrom tokens start) ∧
      place.val = start.val + shared.length ∧
      (shared = s.toList →
        p.applied g tokens active start a = (.ok (.success (.text s) place), a)) ∧
      ∀ c, s.toList[shared.length]? = some c → p.applied g tokens active start a =
        (.ok (.failure place (missingAt tokens place (Token.quoted c))), a) := by
  obtain ⟨key, key', ps, rfl, hspells⟩ := h
  obtain ⟨shared, place, hshared, hplace, hall, hmissing⟩ :=
    applied_sequence_of_spells hspells g tokens active key start a
  refine ⟨shared, place, hshared, hplace, fun heq => ?_, fun c hc => ?_⟩
  · rw [applied_modified, hall heq]
    simp [Except.map, Modifier.settle, Outcome.map, Value.items, Value.joined_chars]
  · rw [applied_modified, hmissing c hc]
    rfl

/-- It matches where the input begins with it, -/
theorem SpellsText.applied_of_prefix (h : SpellsText s p) (g : Grammar Char) (active : Guard)
    (a : Account) {rest : List Char}
    (hts : tokensFrom tokens start = s.toList ++ rest) :
    ∃ place, place.val = start.val + s.toList.length ∧ tokensFrom tokens place = rest ∧
      p.applied g tokens active start a = (.ok (.success (.text s) place), a) := by
  obtain ⟨shared, place, hshared, hplace, hall, -⟩ := h.applied g tokens active start a
  obtain rfl := hshared.eq_iff.2 ⟨rest, hts.symm⟩
  exact ⟨place, hplace, tokensFrom_of_append hts hplace, hall rfl⟩

/-- and nowhere else. -/
theorem SpellsText.not_isSuccess (h : SpellsText s p) (g : Grammar Char) (active : Guard)
    (a : Account) (hts : ¬s.toList <+: tokensFrom tokens start) :
    ¬(p.applied g tokens active start a).1.IsSuccess := by
  obtain ⟨shared, place, hshared, -, -, hmissing⟩ := h.applied g tokens active start a
  have hne : shared ≠ s.toList := fun heq => hts (hshared.eq_iff.1 heq)
  have hlt : shared.length < s.toList.length := by
    refine Nat.lt_of_le_of_ne hshared.left.length_le fun hlen => hne ?_
    exact hshared.left.eq_of_length hlen
  rw [hmissing _ (List.getElem?_eq_getElem hlt)]
  exact Result.not_isSuccess_failure

end Texts

/-- **A text is matched as far as the input agrees with it.** Let `shared` be what the text and the
input from a place on have in common. If that is the whole text, the text is the value, and the match
ends after it. If not, the failure is after it, too, and only the next character of the text was
expected; the token there was found instead, or the end of the input. -/
theorem string_exact (s : String) (d : Draft Char) :
    ∃ p d', (Build.string s).runFrom d = (.ok p, d') ∧
      ∀ (g : Grammar Char) (tokens : Array Char) (active : Guard) (start : Fin (tokens.size + 1))
        (a : Account),
        ∃ shared place, LongestCommonPrefix shared s.toList (tokensFrom tokens start) ∧
          place.val = start.val + shared.length ∧
          (shared = s.toList →
            p.applied g tokens active start a = (.ok (.success (.text s) place), a)) ∧
          ∀ c, s.toList[shared.length]? = some c → p.applied g tokens active start a =
            (.ok (.failure place (missingAt tokens place (Token.quoted c))), a) := by
  obtain ⟨p, d', hbuilt, hp⟩ := runFrom_string s d
  exact ⟨p, d', hbuilt, hp.applied⟩

section Identifiers

variable (isStart isContinue : Char → Bool)

/-- A whole identifier: an underscore or a character that may stand at the start, and then characters
that may follow. -/
def IsIdentifier : List Char → Prop
  | [] => False
  | c :: cs => (c = '_' ∨ isStart c = true) ∧ ∀ x ∈ cs, isContinue x = true

/-- The text is what is left of the input, up to a place where no identifier goes on. -/
def StandsAlone (cs : List Char) (ts : List Char) : Prop :=
  ∃ rest, ts = cs ++ rest ∧ ∀ t ∈ rest.head?, isContinue t = false

variable {isStart isContinue} {cs rest : List Char} {c : Char}

/-- An identifier that stands alone is the longest one that is there. -/
theorem IsIdentifier.eq_longest (h : IsIdentifier isStart isContinue cs)
    (halone : StandsAlone isContinue cs (c :: rest)) : cs = c :: rest.takeWhile isContinue := by
  obtain ⟨after, hts, hafter⟩ := halone
  rcases cs with _ | ⟨x, cs⟩
  · exact h.elim
  · rw [List.cons_append] at hts
    obtain ⟨rfl, rfl⟩ := List.cons.inj hts
    rw [List.takeWhile_append_of_pos h.2, takeWhile_of_refused hafter, List.append_nil]

theorem IsIdentifier.not_standsAlone_nil (h : IsIdentifier isStart isContinue cs) :
    ¬StandsAlone isContinue cs [] := by
  rintro ⟨rest, hnil, -⟩
  obtain ⟨rfl, -⟩ := List.append_eq_nil_iff.1 hnil.symm
  exact h

/-- The longest identifier that is there stands alone. -/
theorem standsAlone_longest :
    StandsAlone isContinue (c :: rest.takeWhile isContinue) (c :: rest) := by
  refine ⟨rest.dropWhile isContinue, ?_, refused_dropWhile⟩
  rw [List.cons_append, List.takeWhile_append_dropWhile]

theorem isIdentifier_longest (h : c = '_' ∨ isStart c = true) :
    IsIdentifier isStart isContinue (c :: rest.takeWhile isContinue) :=
  ⟨h, List.all_eq_true.1 List.all_takeWhile⟩

end Identifiers

section Keywords

/-- A match stops at one place. -/
theorem exists_success_iff {n : Nat} {w : Value} {last next : Fin n} :
    (∃ v, (.ok (.success w last) : Except Fault (Outcome (Fin n) Value)) = .ok (.success v next)) ↔
      next.val = last.val := by
  constructor
  · rintro ⟨_, ⟨⟩⟩
    rfl
  · intro h
    exact ⟨w, by rw [Fin.ext h]⟩

/-- The parser takes the longest identifier that is there. -/
structure ReadsIdentifier (isStart isContinue : Char → Bool) (p : Parser Char) : Prop where
  matched {g : Grammar Char} {tokens : Array Char} {active : Guard} {start : Fin (tokens.size + 1)}
    {a : Account} {c : Char} {rest : List Char} : tokensFrom tokens start = c :: rest →
    (c = '_' ∨ isStart c = true) → ∃ next : Fin (tokens.size + 1),
      next.val = start.val + (c :: rest.takeWhile isContinue).length ∧
      p.applied g tokens active start a =
        (.ok (.success (.text (String.ofList (c :: rest.takeWhile isContinue))) next), a)
  refused {g : Grammar Char} {tokens : Array Char} {active : Guard} {start : Fin (tokens.size + 1)}
    {a : Account} : (∀ t ∈ (tokensFrom tokens start).head?, ¬(t = '_' ∨ isStart t = true)) →
    p.applied g tokens active start a =
      (.ok (.failure start (missingAt tokens start "identifier")), a)

theorem runFrom_identWhere (isStart isContinue : Char → Bool) (d : Draft Char) :
    ∃ p d', (Build.identWhere isStart isContinue).runFrom d = (.ok p, d') ∧
      ReadsIdentifier isStart isContinue p := by
  refine ⟨_, _, rfl, ?matched, ?refused⟩
  case matched =>
    intro g tokens active start a c rest hts hc
    obtain ⟨next, hnext, -, hrest⟩ := exists_next hts
    have hfirst : (Parser.primitive d.nextKey
        (.satisfy "identifier" fun c => c == '_' || isStart c)).applied g tokens active start a =
          (.ok (.success (Token.toValue c) next), a) :=
      applied_satisfy_of_accepted _ _ _ _ _ hts (by simpa using hc) hnext
    refine ⟨skip isContinue tokens next, ?_, ?_⟩
    · rw [val_skip, hrest, hnext, List.length_cons]
      omega
    · rw [applied_map_and_of_success hfirst, applied_many_satisfy, hrest, ← Value.joined_chars]
      rfl
  case refused =>
    intro g tokens active start a h
    exact applied_map_and_of_failure (applied_satisfy_of_refused _ _ _ _ _ (by simpa using h))

variable {isStart isContinue : Char → Bool} {g : Grammar Char} {tokens : Array Char}
  {active : Guard} {start : Fin (tokens.size + 1)} {a : Account} {k : String} {p : Parser Char}
  {key : Key}

/-- A keyword that is an identifier and stands alone matches. -/
theorem ReadsIdentifier.keyword_of_standsAlone (h : ReadsIdentifier isStart isContinue p)
    (g : Grammar Char) (active : Guard) (a : Account)
    (hk : IsIdentifier isStart isContinue k.toList)
    (halone : StandsAlone isContinue k.toList (tokensFrom tokens start)) :
    ∃ next : Fin (tokens.size + 1), next.val = start.val + k.toList.length ∧
      (Parser.modified key (.tryMap (Build.acceptKeyword k)) p).applied g tokens active start a =
        (.ok (.success .unit next), a) := by
  rcases hts : tokensFrom tokens start with _ | ⟨c, rest⟩ <;> rw [hts] at halone
  · exact absurd halone hk.not_standsAlone_nil
  · have heq := hk.eq_longest halone
    rw [heq] at hk
    obtain ⟨next, hnext, hident⟩ := h.matched (g := g) (a := a) hts hk.1
    rw [← heq] at hnext hident
    refine ⟨next, hnext, ?_⟩
    rw [String.ofList_toList] at hident
    exact applied_tryMap_of_ok key hident (if_pos rfl)

/-- Any other keyword, and one that does not stand alone, fails where it was tried. -/
theorem ReadsIdentifier.keyword_of_not (h : ReadsIdentifier isStart isContinue p)
    (g : Grammar Char) (active : Guard) (a : Account)
    (hk : ¬(IsIdentifier isStart isContinue k.toList ∧
      StandsAlone isContinue k.toList (tokensFrom tokens start))) :
    ∃ e, (Parser.modified key (.tryMap (Build.acceptKeyword k)) p).applied g tokens active start a =
      (.ok (.failure start e), a) := by
  rcases accepted_or_refused (fun c => c == '_' || isStart c) tokens start with
    ⟨c, rest, hts, hc⟩ | hrefused
  · have hstart : c = '_' ∨ isStart c = true := by simpa using hc
    obtain ⟨next, -, hident⟩ := h.matched (g := g) (a := a) hts hstart
    have hne : String.ofList (c :: rest.takeWhile isContinue) ≠ k := by
      intro heq
      refine hk ?_
      rw [← heq, String.toList_ofList, hts]
      exact ⟨isIdentifier_longest hstart, standsAlone_longest⟩
    exact ⟨_, applied_tryMap_of_error key hident (if_neg hne)⟩
  · rw [applied_modified, h.refused (by simpa using hrefused)]
    exact ⟨_, rfl⟩

theorem runFrom_keywordWhere (isStart isContinue : Char → Bool) (k : String) (d : Draft Char) :
    ∃ p key d', (Build.keywordWhere isStart isContinue k).runFrom d =
      (.ok (.modified key (.tryMap (Build.acceptKeyword k)) p), d') ∧
      ReadsIdentifier isStart isContinue p := by
  obtain ⟨p, d', hident, hreads⟩ := runFrom_identWhere isStart isContinue d
  refine ⟨p, d'.nextKey, { d' with nextKey := d'.nextKey + 1 }, ?_, hreads⟩
  rw [Build.keywordWhere, Effect.runFrom_bind, hident]
  rfl

/-- **A keyword matches where it is an identifier that stands alone**, and stops after it. -/
theorem ReadsIdentifier.keyword_iff (h : ReadsIdentifier isStart isContinue p)
    (next : Fin (tokens.size + 1)) :
    (∃ v, ((Parser.modified key (.tryMap (Build.acceptKeyword k)) p).applied
        g tokens active start a).1 = .ok (.success v next)) ↔
      IsIdentifier isStart isContinue k.toList ∧
        StandsAlone isContinue k.toList (tokensFrom tokens start) ∧
        next.val = start.val + k.toList.length := by
  rw [← and_assoc]
  by_cases hk : IsIdentifier isStart isContinue k.toList ∧
      StandsAlone isContinue k.toList (tokensFrom tokens start)
  · obtain ⟨last, hlast, happ⟩ := h.keyword_of_standsAlone g active a hk.1 hk.2
    rw [happ, and_iff_right hk, ← hlast]
    exact exists_success_iff
  · obtain ⟨e, happ⟩ := h.keyword_of_not g active a hk
    rw [happ]
    exact iff_of_false nofun fun hall => hk hall.1

end Keywords

section Lookahead

/-- A parser of a text, up to a place where no character goes on that `accepts` accepts. -/
def Build.stringNotBefore (s expected : String) (accepts : Char → Bool) :
    Build Char (Parser Char) := do
  thenIgnore (← string s) (← not (← satisfy expected accepts))

theorem runFrom_stringNotBefore (s expected : String) (accepts : Char → Bool) (d : Draft Char) :
    ∃ p key key₁ key₂ key₃ d', (Build.stringNotBefore s expected accepts).runFrom d =
      (.ok (.modified key₃ (.map Value.first) (.and key₂ p
        (.modified key₁ .not (.primitive key (.satisfy expected accepts))))), d') ∧
      SpellsText s p := by
  obtain ⟨p, d', htext, hspells⟩ := runFrom_string s d
  refine ⟨p, d'.nextKey, d'.nextKey + 1, d'.nextKey + 1 + 1, d'.nextKey + 1 + 1 + 1,
    { d' with nextKey := d'.nextKey + 1 + 1 + 1 + 1 }, ?_, hspells⟩
  rw [Build.stringNotBefore, Effect.runFrom_bind, htext]
  rfl

variable {s expected : String} {accepts : Char → Bool} {g : Grammar Char} {tokens : Array Char}
  {active : Guard} {start : Fin (tokens.size + 1)} {a : Account} {p : Parser Char}
  {key key₁ key₂ key₃ : Key}

/-- **A text that is looked after matches where it stands alone**, and stops after it. -/
theorem SpellsText.notBefore_iff (h : SpellsText s p) (next : Fin (tokens.size + 1)) :
    (∃ v, ((Parser.modified key₃ (.map Value.first) (.and key₂ p
        (.modified key₁ .not (.primitive key (.satisfy expected accepts))))).applied
          g tokens active start a).1 = .ok (.success v next)) ↔
      StandsAlone accepts s.toList (tokensFrom tokens start) ∧
        next.val = start.val + s.toList.length := by
  by_cases hprefix : s.toList <+: tokensFrom tokens start
  · obtain ⟨rest, hts⟩ := hprefix
    obtain ⟨last, hlast, hrest, happ⟩ := h.applied_of_prefix g active a hts.symm
    have halone : StandsAlone accepts s.toList (tokensFrom tokens start) ↔
        ∀ t ∈ rest.head?, accepts t = false := by
      rw [← hts]
      exact ⟨fun ⟨_, heq, hafter⟩ => List.append_cancel_left heq ▸ hafter,
        fun hafter => ⟨_, rfl, hafter⟩⟩
    rw [applied_map_and_of_success happ, applied_modified, halone, ← hlast, ← hrest]
    rcases accepted_or_refused accepts tokens last with ⟨t, after, hts', ht⟩ | hrefused
    · obtain ⟨next', hnext', -⟩ := exists_next hts'
      rw [applied_satisfy_of_accepted g active expected key a hts' ht hnext', hts']
      refine iff_of_false nofun fun hall => ?_
      rw [hall.1 t rfl] at ht
      cases ht
    · rw [applied_satisfy_of_refused g active expected key a hrefused, and_iff_right hrefused]
      simp only [Except.map, Modifier.settle, isFatal_missingAt]
      exact exists_success_iff
  · refine iff_of_false (fun hmatch => ?_) fun hall => ?_
    · obtain ⟨v, hv⟩ := hmatch
      have hnot := h.not_isSuccess g active a hprefix
      rw [applied_map_and_of_not_isSuccess hnot] at hv
      exact hnot ⟨v, next, hv⟩
    · obtain ⟨rest, hts, -⟩ := hall.1
      exact hprefix ⟨rest, hts.symm⟩

end Lookahead

/-- **A keyword is its text, with a look at what comes after it.** An identifier as a keyword and
the same text with no character of an identifier after it match at the same places, and stop at the
same place. The classes of the characters may be any; `Build.keyword` has those of Unicode. A text
that is no identifier matches nowhere as a keyword. A keyword that does not match fails where it was
tried. -/
theorem keyword_lookahead (isStart isContinue : Char → Bool) (k expected : String)
    (d d' : Draft Char) :
    ∃ p q e e', (Build.keywordWhere isStart isContinue k).runFrom d = (.ok p, e) ∧
      (Build.stringNotBefore k expected isContinue).runFrom d' = (.ok q, e') ∧
      ∀ (g : Grammar Char) (tokens : Array Char) (active : Guard) (start : Fin (tokens.size + 1))
        (a : Account),
        (IsIdentifier isStart isContinue k.toList → ∀ next : Fin (tokens.size + 1),
          (∃ v, (p.applied g tokens active start a).1 = .ok (.success v next)) ↔
            ∃ w, (q.applied g tokens active start a).1 = .ok (.success w next)) ∧
        (∀ next : Fin (tokens.size + 1),
          (∃ w, (q.applied g tokens active start a).1 = .ok (.success w next)) ↔
            StandsAlone isContinue k.toList (tokensFrom tokens start) ∧
              next.val = start.val + k.toList.length) ∧
        (¬IsIdentifier isStart isContinue k.toList →
          ¬(p.applied g tokens active start a).1.IsSuccess) ∧
        (¬(p.applied g tokens active start a).1.IsSuccess →
          ∃ error, (p.applied g tokens active start a).1 = .ok (.failure start error) ∧
            error.position = start.val) := by
  obtain ⟨ident, key, e, hkeyword, hreads⟩ := runFrom_keywordWhere isStart isContinue k d
  obtain ⟨text, key₀, key₁, key₂, key₃, e', hahead, hspells⟩ :=
    runFrom_stringNotBefore k expected isContinue d'
  refine ⟨_, _, _, _, hkeyword, hahead, fun g tokens active start a => ⟨fun hk next => ?same,
    hspells.notBefore_iff, fun hk hmatch => ?nowhere, fun hmatch => ?failure⟩⟩
  case same => rw [hreads.keyword_iff next, hspells.notBefore_iff next, and_iff_right hk]
  case nowhere =>
    obtain ⟨v, next, hv⟩ := hmatch
    exact hk ((hreads.keyword_iff next).1 ⟨v, hv⟩).1
  case failure =>
    have hnot : ¬(IsIdentifier isStart isContinue k.toList ∧
        StandsAlone isContinue k.toList (tokensFrom tokens start)) := fun hk => by
      obtain ⟨next, -, happ⟩ := hreads.keyword_of_standsAlone g active a hk.1 hk.2
      exact hmatch ⟨_, _, congrArg Prod.fst happ⟩
    obtain ⟨error, happ⟩ := hreads.keyword_of_not g active a hnot
    exact ⟨error, congrArg Prod.fst happ, position_eq_of_applied happ⟩

end GuardedParsing
