/-!
# Decimal integers

Reading the decimal text of an integer that has to lie in a range. The text is read from the
left; the first character that is no digit, or the first digit with which the number leaves the
range, is the reason why it is refused.

* `readDigits_eq_ok_iff`: digits are accepted iff they are digits and their number is within the
  limit, and then that number is the result.
-/

namespace GuardedParsing.Text

/-- Why a text is not the decimal form of an integer in the range. -/
inductive DecimalError where
  | empty
  | invalidDigit
  | tooLarge
  | tooSmall
  deriving DecidableEq, Repr

/-- The wording of the reason. -/
def DecimalError.message : DecimalError → String
  | empty => "cannot parse integer from empty string"
  | invalidDigit => "invalid digit found in string"
  | tooLarge => "number too large to fit in target type"
  | tooSmall => "number too small to fit in target type"

/-- The value of a decimal digit. -/
def digitValue (c : Char) : Nat := c.toNat - '0'.toNat

/-- The number that digits add to the number `start` of the digits before them. -/
def numberFrom (start : Nat) (cs : List Char) : Nat :=
  cs.foldl (fun n c => 10 * n + digitValue c) start

/-- Reads digits after those with the number `start`; going beyond `limit` is refused as
`beyond`. -/
def readDigits (limit : Nat) (beyond : DecimalError) (start : Nat) :
    List Char → Except DecimalError Nat
  | [] => .ok start
  | c :: cs =>
    if c.isDigit then
      if 10 * start + digitValue c ≤ limit then
        readDigits limit beyond (10 * start + digitValue c) cs
      else .error beyond
    else .error .invalidDigit

/-- A decimal integer, read from characters: at most one sign, then at least one digit. The
number is at most `most`; a minus sign is accepted if `least` allows it, and the number is then
at least `- least`. -/
def readDecimal (most : Nat) (least : Option Nat) : List Char → Except DecimalError Int
  | [] => .error .empty
  | '+' :: [] => .error .invalidDigit
  | '-' :: [] => .error .invalidDigit
  | '+' :: cs => Int.ofNat <$> readDigits most .tooLarge 0 cs
  | '-' :: cs =>
    match least with
    | some least => (fun n => - Int.ofNat n) <$> readDigits least .tooSmall 0 cs
    | none => .error .invalidDigit
  | cs => Int.ofNat <$> readDigits most .tooLarge 0 cs

/-- Reads a word of 64 bits with a sign: a number from `-2^63` to `2^63 - 1`. -/
def readInt64 (s : String) : Except DecimalError Int64 :=
  Int64.ofInt <$> readDecimal 0x7FFFFFFFFFFFFFFF (some 0x8000000000000000) s.toList

/-- Reads a byte, which has no sign. -/
def readByte (s : String) : Except DecimalError Int64 :=
  Int64.ofInt <$> readDecimal 255 none s.toList

theorem le_numberFrom (start : Nat) (cs : List Char) : start ≤ numberFrom start cs := by
  induction cs generalizing start with
  | nil => exact Nat.le_refl _
  | cons c cs ih => exact Nat.le_trans (by omega) (ih (10 * start + digitValue c))

theorem readDigits_eq_ok_iff {limit : Nat} {beyond : DecimalError} {start : Nat}
    (h : start ≤ limit) {cs : List Char} {n : Nat} :
    readDigits limit beyond start cs = .ok n ↔
      (∀ c ∈ cs, c.isDigit) ∧ numberFrom start cs ≤ limit ∧ n = numberFrom start cs := by
  induction cs generalizing start with
  | nil =>
    simp only [readDigits, numberFrom, List.foldl_nil, Except.ok.injEq]
    exact ⟨fun e => ⟨by simp, h, e.symm⟩, fun e => e.2.2.symm⟩
  | cons c cs ih =>
    have hle := le_numberFrom (10 * start + digitValue c) cs
    simp only [readDigits, List.mem_cons, forall_eq_or_imp, numberFrom, List.foldl_cons]
    split
    · rename_i hc
      split
      · rename_i hlim
        simp [ih hlim, hc, numberFrom]
      · rename_i hlim
        simp only [numberFrom] at hle
        simp only [reduceCtorEq, false_iff]
        rintro ⟨-, h1, -⟩
        omega
    · rename_i hc
      simp [hc]

end GuardedParsing.Text
