import GuardedParsing.Proofs.LeftRecursion
import GuardedParsing.Proofs.Spelling

/-!
# Numerals

A numeral is a sign or none, and then the longest run of digits that is there. Its number is read at
once: it has to fit into a word of 64 bits with a sign, however long the run is.

* `Text.readInt64_ofList`: reading the text of a numeral.
* `SignAt`: the sign in front of a numeral; `ReadsNumeral`: what the digits after it give.
* `exists_decimal`: the decimal text of an integer is a numeral of it.
* `numerals_exact`: **numbers and integers are read exactly.** Of the run of digits, the value is
  given if it fits; the failures are where the numeral starts, but for a sign without digits. The
  decimal text of a word is read as the word.
-/

namespace GuardedParsing

/-- Is there a word of 64 bits with a sign for the integer? The words are those from `-2^63` to
`2^63 - 1`. -/
def FitsInt64 (n : Int) : Prop := -0x8000000000000000 ≤ n ∧ n ≤ 0x7FFFFFFFFFFFFFFF

theorem fitsInt64_toInt (n : Int64) : FitsInt64 n.toInt :=
  ⟨n.le_toInt, Int.le_sub_one_of_lt n.toInt_lt⟩

/-- The integer with a sign and an absolute value. Only a minus makes it negative. -/
def signed (sign : Option Char) (n : Nat) : Int := if sign = some '-' then -(n : Int) else n

/-- The minus in front of the digits, if that is the sign. -/
def minus (sign : Option Char) : List Char := if sign = some '-' then ['-'] else []

/-- The greatest absolute value with a sign. -/
def greatest (sign : Option Char) : Nat :=
  if sign = some '-' then 0x8000000000000000 else 0x7FFFFFFFFFFFFFFF

/-- Why a number with a greater one is refused. -/
def refusal (sign : Option Char) : Text.DecimalError :=
  if sign = some '-' then .tooSmall else .tooLarge

theorem fitsInt64_signed_iff (sign : Option Char) (n : Nat) :
    FitsInt64 (signed sign n) ↔ n ≤ greatest sign := by
  rw [FitsInt64, signed, greatest]
  split <;> omega

section Reading

variable {cs : List Char} {limit start : Nat} {why : Text.DecimalError}

namespace Text

theorem numberFrom_zero : numberFrom 0 cs = Nat.ofDigitChars 10 cs 0 :=
  Nat.ofDigitChars_eq_foldl.symm

theorem readDigits_of_le (h : ∀ c ∈ cs, c.isDigit) (hle : Nat.ofDigitChars 10 cs 0 ≤ limit) :
    readDigits limit why 0 cs = .ok (Nat.ofDigitChars 10 cs 0) := by
  rw [← numberFrom_zero] at hle ⊢
  exact (readDigits_eq_ok_iff (Nat.zero_le limit)).2 ⟨h, hle, rfl⟩

/-- Digits of a number beyond the limit are refused, at one of them. -/
theorem readDigits_of_lt (h : ∀ c ∈ cs, c.isDigit) (hstart : start ≤ limit)
    (hlt : limit < numberFrom start cs) : readDigits limit why start cs = .error why := by
  induction cs generalizing start with
  | nil => exact absurd hstart (Nat.not_le_of_lt hlt)
  | cons c cs ih =>
    rw [readDigits, if_pos (h c (.head _))]
    split
    · rename_i hle
      exact ih (fun x hx => h x (.tail _ hx)) hle hlt
    · rfl

/-- Without a sign, digits are read up to the greatest number. -/
theorem readDecimal_of_isDigit (h : ∀ c ∈ cs, c.isDigit) (hne : cs ≠ []) (most : Nat)
    (least : Option Nat) :
    readDecimal most least cs = Int.ofNat <$> readDigits most .tooLarge 0 cs := by
  obtain ⟨c, cs, rfl⟩ := List.exists_cons_of_ne_nil hne
  have hc := h c (.head _)
  have hplus : c ≠ '+' := by
    rintro rfl
    cases hc
  have hminus : c ≠ '-' := by
    rintro rfl
    cases hc
  unfold readDecimal
  split <;> simp_all

/-- After a sign or none, they are read up to the greatest number with it. -/
theorem readDecimal_minus_append (sign : Option Char) (h : ∀ c ∈ cs, c.isDigit) (hne : cs ≠ []) :
    readDecimal 0x7FFFFFFFFFFFFFFF (some 0x8000000000000000) (minus sign ++ cs) =
      signed sign <$> readDigits (greatest sign) (refusal sign) 0 cs := by
  by_cases hsign : sign = some '-'
  · subst hsign
    obtain ⟨c, cs, rfl⟩ := List.exists_cons_of_ne_nil hne
    rfl
  · have hsigned : signed sign = Int.ofNat := funext fun n => if_neg hsign
    rw [minus, greatest, refusal, if_neg hsign, if_neg hsign, if_neg hsign, List.nil_append, hsigned,
      readDecimal_of_isDigit h hne]

/-- **The text of a numeral is read iff its number fits**, and then it is the number. -/
theorem readInt64_ofList (sign : Option Char) (h : ∀ c ∈ cs, c.isDigit) (hne : cs ≠ []) :
    (FitsInt64 (signed sign (Nat.ofDigitChars 10 cs 0)) →
      ∃ n : Int64, n.toInt = signed sign (Nat.ofDigitChars 10 cs 0) ∧
        readInt64 (String.ofList (minus sign ++ cs)) = .ok n) ∧
    (¬FitsInt64 (signed sign (Nat.ofDigitChars 10 cs 0)) →
      readInt64 (String.ofList (minus sign ++ cs)) = .error (refusal sign)) := by
  rw [readInt64, String.toList_ofList, readDecimal_minus_append sign h hne]
  refine ⟨fun hv => ⟨_, Int64.toInt_ofInt_of_le hv.1 (Int.lt_of_le_sub_one hv.2), ?_⟩, fun hv => ?_⟩
  · rw [readDigits_of_le h ((fitsInt64_signed_iff sign _).1 hv)]
    rfl
  · have hlt : greatest sign < numberFrom 0 cs := by
      rw [numberFrom_zero]
      exact Nat.lt_of_not_le (mt (fitsInt64_signed_iff sign _).2 hv)
    rw [readDigits_of_lt h (Nat.zero_le _) hlt]
    rfl

end Text

/-- The number of a numeral is read iff it fits. -/
theorem readNumber_ofList (sign : Option Char) (h : ∀ c ∈ cs, c.isDigit) (hne : cs ≠ []) :
    (FitsInt64 (signed sign (Nat.ofDigitChars 10 cs 0)) →
      ∃ n : Int64, n.toInt = signed sign (Nat.ofDigitChars 10 cs 0) ∧
        Build.readNumber (.text (String.ofList (minus sign ++ cs))) = .ok (.int n)) ∧
    (¬FitsInt64 (signed sign (Nat.ofDigitChars 10 cs 0)) →
      Build.readNumber (.text (String.ofList (minus sign ++ cs))) =
        .error (refusal sign).message) := by
  have hread := Text.readInt64_ofList sign h hne
  refine ⟨fun hv => ?_, fun hv => ?_⟩
  · obtain ⟨n, hn, hok⟩ := hread.1 hv
    exact ⟨n, hn, by rw [Build.readNumber, Value.toText, hok]; rfl⟩
  · rw [Build.readNumber, Value.toText, hread.2 hv]
    rfl

/-- The value of a sign or none. -/
def signValue : Option Char → Value
  | none => .none
  | some c => .some (.char c)

/-- The minus is put back in front of the digits. -/
theorem readSigned_pair (sign : Option Char) (cs : List Char) :
    Build.readSigned (.pair (signValue sign) (.text (String.ofList cs))) =
      Build.readNumber (.text (String.ofList (minus sign ++ cs))) := by
  rcases sign with _ | c
  · rfl
  · by_cases hc : c = '-'
    · subst hc
      rw [signValue, Build.readSigned, minus, if_pos rfl, String.ofList_append]
      rfl
    · rw [minus, if_neg (by simpa using hc), List.nil_append]
      unfold Build.readSigned
      split
      · rename_i heq
        cases heq
        exact absurd rfl hc
      · rfl

end Reading

/-- Is the character a sign? -/
def isSign (c : Char) : Bool := c == '+' || c == '-'

/-- `SignAt start sign place`: the sign at `start` is `sign`, if there is one, and `place` is after
it. -/
inductive SignAt {tokens : Array Char} (start : Fin (tokens.size + 1)) :
    Option Char → Fin (tokens.size + 1) → Prop
  | none (h : ∀ t ∈ (tokensFrom tokens start).head?, isSign t = false) : SignAt start none start
  | some {c : Char} {rest : List Char} {next : Fin (tokens.size + 1)}
      (h : tokensFrom tokens start = c :: rest) (hc : isSign c = true)
      (hnext : next.val = start.val + 1) : SignAt start (some c) next

/-- The digits at a place. -/
def digitsAt (tokens : Array Char) (place : Fin (tokens.size + 1)) : List Char :=
  (tokensFrom tokens place).takeWhile Char.isDigit

/-- The number that they stand for. -/
def numberAt (tokens : Array Char) (place : Fin (tokens.size + 1)) : Nat :=
  Nat.ofDigitChars 10 (digitsAt tokens place) 0

/-- `ReadsNumeral label start place sign res`: the result of reading a numeral that starts at `start`.
Its digits are at `place`, after the sign or none. -/
inductive ReadsNumeral (label : String) {tokens : Array Char} (start place : Fin (tokens.size + 1))
    (sign : Option Char) : Result tokens → Prop
  /-- The number fits. -/
  | value {n : Int64} (hdigits : digitsAt tokens place ≠ [])
      (hn : n.toInt = signed sign (numberAt tokens place)) :
      ReadsNumeral label start place sign
        (.ok (.success (.int n) (skip Char.isDigit tokens place)))
  /-- It does not. -/
  | beyond (hdigits : digitsAt tokens place ≠ [])
      (h : ¬FitsInt64 (signed sign (numberAt tokens place))) :
      ReadsNumeral label start place sign
        (.ok (.failure start (.custom start (refusal sign).message)))
  /-- There is no numeral. -/
  | noNumeral (hdigits : digitsAt tokens place = []) (h : place = start) :
      ReadsNumeral label start place sign (.ok (.failure start (missingAt tokens start label)))
  /-- There is a sign, but no digit after it. -/
  | noDigit (hdigits : digitsAt tokens place = []) (h : place ≠ start) :
      ReadsNumeral label start place sign (.ok (.failure place (missingAt tokens place "digit")))

section Numerals

variable {g : Grammar Char} {tokens : Array Char} {active : Guard}
  {start place : Fin (tokens.size + 1)} {sign : Option Char} {label : String} {a : Account}
  {res : Result tokens} {key key' : Key}

theorem isDigit_of_mem_digitsAt : ∀ c ∈ digitsAt tokens place, c.isDigit :=
  List.all_eq_true.1 List.all_takeWhile

/-- A numeral is read iff there is a digit and the number fits. -/
theorem ReadsNumeral.isSuccess_iff (h : ReadsNumeral label start place sign res) :
    res.IsSuccess ↔
      digitsAt tokens place ≠ [] ∧ FitsInt64 (signed sign (numberAt tokens place)) := by
  cases h with
  | value hdigits hn => exact iff_of_true ⟨_, _, rfl⟩ ⟨hdigits, hn ▸ fitsInt64_toInt _⟩
  | beyond _ hbeyond => exact iff_of_false Result.not_isSuccess_failure fun h => hbeyond h.2
  | noNumeral hdigits | noDigit hdigits =>
    exact iff_of_false Result.not_isSuccess_failure fun h => h.1 hdigits

/-- Digits of the number of a word are read as the word. -/
theorem ReadsNumeral.eq_value (h : ReadsNumeral label start place sign res) {n : Int64}
    (hdigits : digitsAt tokens place ≠ []) (hn : n.toInt = signed sign (numberAt tokens place)) :
    res = .ok (.success (.int n) (skip Char.isDigit tokens place)) := by
  cases h with
  | value _ hn' => rw [Int64.toInt_inj.1 (hn.trans hn'.symm)]
  | beyond _ hbeyond => exact absurd (hn ▸ fitsInt64_toInt n) hbeyond
  | noNumeral hnone | noDigit hnone => exact absurd hnone hdigits

/-- A label is for a pattern that is not there, where it starts. -/
theorem applied_labelled_of_missing {p : Parser Char} {label' : String}
    (h : p.applied g tokens active start a =
      (.ok (.failure place (missingAt tokens place label')), a)) :
    (Parser.modified key (.labelled label) p).applied g tokens active start a =
      (.ok (.failure place
        (missingAt tokens place (if place = start then label else label'))), a) := by
  have hposition : (missingAt tokens place label').position = place.val := rfl
  rw [applied_modified, h]
  simp only [Except.map, Modifier.settle, hposition, isFatal_missingAt, withLabel_missingAt,
    ← Fin.ext_iff]
  split <;> simp_all

/-- It is not for a message. -/
theorem applied_labelled_of_custom {p : Parser Char} {message : String}
    (h : p.applied g tokens active start a = (.ok (.failure start (.custom start message)), a)) :
    (Parser.modified key (.labelled label) p).applied g tokens active start a =
      (.ok (.failure start (.custom start message)), a) := by
  have hlabel : Modifier.settle start (.labelled label) (.failure start (.custom start message)) =
      .failure start (.custom start message) := ite_self _
  rw [applied_modified, h]
  exact congrArg (fun out => (Except.ok out, a)) hlabel

/-- **What is made of the digits**: `f` reads the value `w` that the parsers of the sign and the
digits give. -/
theorem readsNumeral_of_inner {f : Value → Except String Value} {inner : Parser Char} {w : Value}
    (hmatched : digitsAt tokens place ≠ [] → inner.applied g tokens active start a =
      (.ok (.success w (skip Char.isDigit tokens place)), a))
    (hrefused : digitsAt tokens place = [] → inner.applied g tokens active start a =
      (.ok (.failure place (missingAt tokens place "digit")), a))
    (hread : f w = Build.readNumber (.text (String.ofList (minus sign ++ digitsAt tokens place)))) :
    ∃ res, (Parser.modified key (.labelled label) (.modified key' (.tryMap f) inner)).applied
      g tokens active start a = (res, a) ∧ ReadsNumeral label start place sign res := by
  by_cases hdigits : digitsAt tokens place = []
  · rw [applied_labelled_of_missing (applied_tryMap_of_failure key' (hrefused hdigits))]
    refine ⟨_, rfl, ?_⟩
    by_cases hplace : place = start
    · subst hplace
      rw [if_pos rfl]
      exact .noNumeral hdigits rfl
    · rw [if_neg hplace]
      exact .noDigit hdigits hplace
  · have hnumber := readNumber_ofList sign isDigit_of_mem_digitsAt hdigits
    rw [← hread] at hnumber
    by_cases hfits : FitsInt64 (signed sign (numberAt tokens place))
    · obtain ⟨n, hn, hok⟩ := hnumber.1 hfits
      rw [applied_modified, applied_tryMap_of_ok key' (hmatched hdigits) hok]
      exact ⟨_, rfl, .value hdigits hn⟩
    · have hrefusal := applied_tryMap_of_error key' (hmatched hdigits) (hnumber.2 hfits)
      rw [applied_labelled_of_custom hrefusal]
      exact ⟨_, rfl, .beyond hdigits hfits⟩

end Numerals

section Parts

/-- The parser takes the digits that are there, at least one. -/
structure ReadsDigits (p : Parser Char) : Prop where
  matched {g : Grammar Char} {tokens : Array Char} {active : Guard} {place : Fin (tokens.size + 1)}
    {a : Account} : digitsAt tokens place ≠ [] → p.applied g tokens active place a =
      (.ok (.success (.text (String.ofList (digitsAt tokens place)))
        (skip Char.isDigit tokens place)), a)
  refused {g : Grammar Char} {tokens : Array Char} {active : Guard} {place : Fin (tokens.size + 1)}
    {a : Account} : digitsAt tokens place = [] → p.applied g tokens active place a =
      (.ok (.failure place (missingAt tokens place "digit")), a)

theorem readsDigits {key key₁ key₂ key₃ key₄ : Key} : ReadsDigits (.modified key₄
    (.map fun v => .text (Value.joined v.items)) (.modified key₃ (.map Build.prepended) (.and key₂
      (.primitive key (.satisfy "digit" Char.isDigit))
      (.many key₁ (.primitive key (.satisfy "digit" Char.isDigit)))))) where
  matched {g tokens active place a} h := by
    rw [applied_modified, applied_atLeastOnce_satisfy h]
    simp only [Except.map, Modifier.settle, Outcome.map, Value.items, Value.joined_chars, digitsAt]
  refused {g tokens active place a} h := by
    have hrefused : ∀ t ∈ (tokensFrom tokens place).head?, t.isDigit = false := by
      rcases accepted_or_refused Char.isDigit tokens place with ⟨t, rest, hts, ht⟩ | hrefused
      · rw [digitsAt, hts, List.takeWhile_cons_of_pos ht] at h
        cases h
      · exact hrefused
    rw [applied_modified, applied_atLeastOnce_of_refused hrefused]
    rfl

/-- A sign is taken if there is one. -/
theorem applied_sign {g : Grammar Char} {tokens : Array Char} {active : Guard}
    {start place : Fin (tokens.size + 1)} {sign : Option Char} {label label' : String} {a : Account}
    {key key₁ key₂ key₃ : Key} (h : SignAt start sign place) :
    (Parser.modified key₃ .optional (.or key₂ (.primitive key (.satisfy label (· == '+')))
      (.primitive key₁ (.satisfy label' (· == '-'))))).applied g tokens active start a =
      (.ok (.success (signValue sign) place), a) := by
  rw [applied_modified]
  cases h with
  | none h =>
    have hplus : (Parser.primitive key (.satisfy label (· == '+'))).applied
        g tokens active start a = (.ok (.failure start (missingAt tokens start label)), a) :=
      applied_satisfy_of_refused _ _ _ _ _ fun t ht => (Bool.or_eq_false_iff.1 (h t ht)).1
    have hminus : (Parser.primitive key₁ (.satisfy label' (· == '-'))).applied
        g tokens active start a = (.ok (.failure start (missingAt tokens start label')), a) :=
      applied_satisfy_of_refused _ _ _ _ _ fun t ht => (Bool.or_eq_false_iff.1 (h t ht)).2
    rw [applied_or_of_isRecoverable hplus (by simp [Outcome.isRecoverable, isFatal_missingAt]),
      hminus]
    simp [Except.map, Outcome.orElse, Modifier.settle, ParseError.isFatal_merge, isFatal_missingAt,
      signValue]
  | @some c rest _ h hc hnext =>
    by_cases hplus : c = '+'
    · have hmatch : (Parser.primitive key (.satisfy label (· == '+'))).applied
          g tokens active start a = (.ok (.success (Token.toValue c) place), a) :=
        applied_satisfy_of_accepted _ _ _ _ _ h (by simpa using hplus) hnext
      rw [applied_or_of_not_isRecoverable (by rw [hmatch]; rintro ⟨_, ⟨⟩, ⟨⟩⟩), hmatch]
      rfl
    · have hminus : c = '-' := by simpa [isSign, hplus] using hc
      have hrefused : (Parser.primitive key (.satisfy label (· == '+'))).applied
          g tokens active start a = (.ok (.failure start (missingAt tokens start label)), a) := by
        refine applied_satisfy_of_refused _ _ _ _ _ ?_
        rw [h]
        rintro _ ⟨⟩
        simpa using hplus
      have hmatch : (Parser.primitive key₁ (.satisfy label' (· == '-'))).applied
          g tokens active start a = (.ok (.success (Token.toValue c) place), a) :=
        applied_satisfy_of_accepted _ _ _ _ _ h (by simpa using hminus) hnext
      rw [applied_or_of_isRecoverable hrefused (by simp [Outcome.isRecoverable, isFatal_missingAt]),
        hmatch]
      rfl

theorem exists_signAt (tokens : Array Char) (start : Fin (tokens.size + 1)) :
    ∃ sign place, SignAt start sign place := by
  rcases accepted_or_refused isSign tokens start with ⟨c, rest, hts, hc⟩ | hrefused
  · obtain ⟨next, hnext, -⟩ := exists_next hts
    exact ⟨_, _, .some hts hc hnext⟩
  · exact ⟨_, _, .none hrefused⟩

end Parts

section Decimal

/-- **The decimal text of an integer is a numeral of it.** -/
theorem exists_decimal (n : Int) : ∃ sign digits, (toString n).toList = sign.toList ++ digits ∧
    (∀ c ∈ sign, isSign c = true) ∧ (∀ c ∈ digits, c.isDigit) ∧ digits ≠ [] ∧
    n = signed sign (Nat.ofDigitChars 10 digits 0) := by
  have hdigits : ∀ k : Nat, ∀ c ∈ Nat.toDigits 10 k, c.isDigit := fun k c =>
    Nat.isDigit_of_mem_toDigits (by decide) (by decide)
  rw [Int.toString_eq_repr, Int.repr_eq_if]
  split
  · refine ⟨none, Nat.toDigits 10 n.toNat, Nat.toList_repr, nofun, hdigits _,
      Nat.toDigits_ne_nil, ?_⟩
    rw [Nat.ofDigitChars_ten_toDigits, signed, if_neg nofun]
    omega
  · refine ⟨some '-', Nat.toDigits 10 (-n).toNat, ?_, ?_, hdigits _, Nat.toDigits_ne_nil, ?_⟩
    · rw [String.toList_append, Nat.toList_repr]
      rfl
    · rintro _ ⟨⟩
      rfl
    · rw [Nat.ofDigitChars_ten_toDigits, signed, if_pos rfl]
      omega

variable {tokens : Array Char} {start place : Fin (tokens.size + 1)} {sign : Option Char}
  {digits rest : List Char}

/-- The run of digits in front of something else. -/
theorem digitsAt_of_append (h : tokensFrom tokens place = digits ++ rest)
    (hdigits : ∀ c ∈ digits, c.isDigit) (hrest : ∀ t ∈ rest.head?, t.isDigit = false) :
    digitsAt tokens place = digits := by
  rw [digitsAt, h, List.takeWhile_append_of_pos hdigits, takeWhile_of_refused hrest,
    List.append_nil]

theorem isSign_of_isDigit {c : Char} (h : c.isDigit = true) : isSign c = false := by
  by_contra hc
  rw [Bool.not_eq_false, isSign, Bool.or_eq_true, beq_iff_eq, beq_iff_eq] at hc
  rcases hc with rfl | rfl <;> cases h

/-- A sign or none in front of digits is the sign that is there. -/
theorem signAt_of_append (h : tokensFrom tokens start = sign.toList ++ (digits ++ rest))
    (hsign : ∀ c ∈ sign, isSign c = true) (hdigits : ∀ c ∈ digits, c.isDigit) (hne : digits ≠ []) :
    ∃ place : Fin (tokens.size + 1), SignAt start sign place ∧
      place.val = start.val + sign.toList.length ∧ tokensFrom tokens place = digits ++ rest := by
  rcases sign with _ | c
  · obtain ⟨c, digits, rfl⟩ := List.exists_cons_of_ne_nil hne
    refine ⟨start, .none ?_, rfl, h⟩
    rw [h]
    rintro _ ⟨⟩
    exact isSign_of_isDigit (hdigits c (.head _))
  · obtain ⟨next, hnext, -, hrest⟩ := exists_next h
    exact ⟨next, .some h (hsign c rfl) hnext, hnext, hrest⟩

end Decimal

section Built

/-- The parser reads a numeral without a sign. -/
def ReadsNumber (p : Parser Char) : Prop :=
  ∀ (g : Grammar Char) (tokens : Array Char) (active : Guard) (start : Fin (tokens.size + 1))
    (a : Account), ∃ res, p.applied g tokens active start a = (res, a) ∧
      ReadsNumeral "number" start start none res

theorem runFrom_number (d : Draft Char) :
    ∃ p d', Build.number.runFrom d = (.ok p, d') ∧ ReadsNumber p :=
  ⟨_, _, rfl, fun _ _ _ _ _ => readsNumeral_of_inner readsDigits.matched readsDigits.refused rfl⟩

/-- The parser reads a numeral, after the sign that is there or none. -/
def ReadsInteger (p : Parser Char) : Prop :=
  ∀ (g : Grammar Char) (tokens : Array Char) (active : Guard) (start place : Fin (tokens.size + 1))
    (sign : Option Char) (a : Account), SignAt start sign place →
    ∃ res, p.applied g tokens active start a = (res, a) ∧
      ReadsNumeral "integer" start place sign res

theorem runFrom_integer (d : Draft Char) :
    ∃ p d', Build.integer.runFrom d = (.ok p, d') ∧ ReadsInteger p := by
  refine ⟨_, _, rfl, fun g tokens active start place sign a hsign => ?_⟩
  refine readsNumeral_of_inner (fun hdigits => ?_) (fun hnone => ?_) (readSigned_pair sign _)
  · rw [applied_and_of_success (applied_sign hsign), readsDigits.matched hdigits]
    rfl
  · rw [applied_and_of_success (applied_sign hsign), readsDigits.refused hnone]
    rfl

/-- **The decimal text of a word is read as the word**, if no digit comes after it. -/
theorem ReadsInteger.applied_of_decimal {p : Parser Char} (h : ReadsInteger p) (g : Grammar Char)
    {tokens : Array Char} (active : Guard) {start : Fin (tokens.size + 1)} (a : Account) {n : Int64}
    {rest : List Char} (hts : tokensFrom tokens start = (toString n).toList ++ rest)
    (hrest : ∀ t ∈ rest.head?, t.isDigit = false) :
    ∃ next : Fin (tokens.size + 1), next.val = start.val + (toString n).toList.length ∧
      tokensFrom tokens next = rest ∧
      p.applied g tokens active start a = (.ok (.success (.int n) next), a) := by
  obtain ⟨sign, digits, htext, hsign, hdigits, hne, hn⟩ := exists_decimal n.toInt
  rw [show toString n = toString n.toInt from rfl, htext] at hts ⊢
  rw [List.append_assoc] at hts
  obtain ⟨place, hat, hplace, hplaced⟩ := signAt_of_append hts hsign hdigits hne
  have hrun := digitsAt_of_append hplaced hdigits hrest
  obtain ⟨res, happ, hread⟩ := h g tokens active start place sign a hat
  rw [← hrun] at hne hn
  have hskip : (skip Char.isDigit tokens place).val = place.val + digits.length :=
    congrArg (fun run : List Char => place.val + run.length) hrun
  refine ⟨skip Char.isDigit tokens place, ?_, tokensFrom_of_append hplaced hskip, ?_⟩
  · rw [hskip, hplace, List.length_append, Nat.add_assoc]
  · rw [happ, hread.eq_value hne hn]

end Built

/-- **Numbers and integers are read exactly**, over the whole range of the words of 64 bits with a
sign. A number is a run of digits, an integer one after a sign or none. It is read iff there is a digit
and the integer that is written there fits, and then it is the value, and the run of digits is
consumed. If it does not fit, or if there is no numeral, the failure is where the numeral starts; if
there is a sign without a digit, it is after the sign. The decimal text of a word is read as the word
wherever no digit comes after it. -/
theorem numerals_exact (d d' : Draft Char) :
    ∃ p q e e', Build.number.runFrom d = (.ok p, e) ∧ Build.integer.runFrom d' = (.ok q, e') ∧
      ∀ (g : Grammar Char) (tokens : Array Char) (active : Guard) (start : Fin (tokens.size + 1))
        (a : Account),
        (∃ res, p.applied g tokens active start a = (res, a) ∧
          ReadsNumeral "number" start start none res ∧
          (res.IsSuccess ↔ digitsAt tokens start ≠ [] ∧
            numberAt tokens start ≤ 0x7FFFFFFFFFFFFFFF)) ∧
        (∃ sign place res, SignAt start sign place ∧
          q.applied g tokens active start a = (res, a) ∧
          ReadsNumeral "integer" start place sign res ∧
          (res.IsSuccess ↔ digitsAt tokens place ≠ [] ∧
            -0x8000000000000000 ≤ signed sign (numberAt tokens place) ∧
            signed sign (numberAt tokens place) ≤ 0x7FFFFFFFFFFFFFFF)) ∧
        ∀ (n : Int64) (rest : List Char), tokensFrom tokens start = (toString n).toList ++ rest →
          (∀ t ∈ rest.head?, t.isDigit = false) →
          ∃ next : Fin (tokens.size + 1), next.val = start.val + (toString n).toList.length ∧
            tokensFrom tokens next = rest ∧
            q.applied g tokens active start a = (.ok (.success (.int n) next), a) := by
  obtain ⟨p, e, hnumber, hp⟩ := runFrom_number d
  obtain ⟨q, e', hinteger, hq⟩ := runFrom_integer d'
  refine ⟨p, q, e, e', hnumber, hinteger, fun g tokens active start a =>
    ⟨?number, ?integer, fun n rest hts hrest => hq.applied_of_decimal g active a hts hrest⟩⟩
  case number =>
    obtain ⟨res, happ, hread⟩ := hp g tokens active start a
    refine ⟨res, happ, hread, hread.isSuccess_iff.trans (and_congr_right fun _ => ?_)⟩
    rw [FitsInt64, signed, if_neg nofun]
    omega
  case integer =>
    obtain ⟨sign, place, hsign⟩ := exists_signAt tokens start
    obtain ⟨res, happ, hread⟩ := hq g tokens active start place sign a hsign
    exact ⟨sign, place, res, hsign, happ, hread, hread.isSuccess_iff⟩

end GuardedParsing
