import Cloak.Proofs.Text.Numeral
import Cloak.Proofs.Text.Trim
import Cloak.Seed

/-! Seeds in the answers of a service. An answer is accepted if what it says, white space aside, is a decimal numeral whose exact
    value lies in the range. A word of 32 bits is enough to add the digits up, and no number is ever taken for another one. -/

namespace Cloak

namespace Text

/-! ### Adding up in words -/

/-- `10 * value + digit` in a word, unless the product or the sum overflows. A sum that wraps around is less than its parts. -/
def pushDigit? (value digit : UInt32) : Option UInt32 :=
  if 429496729 < value then none
  else if 10 * value + digit < digit then none
  else some (10 * value + digit)

/-- Reads digits like `readDigits`, with no more than a word to hold the value. -/
def readWord (value : UInt32) : Text → Except NumeralFault UInt32
  | [] => .ok value
  | c :: s =>
    if c.isDigit then
      match pushDigit? value (c.toNat - '0'.toNat).toUInt32 with
      | some next => readWord next s
      | none => .error .tooLarge
    else .error .invalidDigit

theorem pushDigit?_eq_some {value digit : UInt32} (hdigit : digit.toNat < 10)
    (h : 10 * value.toNat + digit.toNat ≤ Seed.largest) :
    ∃ next, pushDigit? value digit = some next ∧ next.toNat = 10 * value.toNat + digit.toNat := by
  have hlargest : Seed.largest = 4294967295 := rfl
  have hnext : (10 * value + digit).toNat = 10 * value.toNat + digit.toNat := by
    rw [UInt32.toNat_add, UInt32.toNat_mul]
    change (10 * value.toNat % 2 ^ 32 + digit.toNat) % 2 ^ 32 = _
    omega
  refine ⟨10 * value + digit, ?_, hnext⟩
  rw [pushDigit?, if_neg, if_neg]
  · rw [UInt32.lt_iff_toNat_lt, hnext]
    omega
  · rw [UInt32.lt_iff_toNat_lt]
    change ¬ 429496729 < value.toNat
    omega

theorem pushDigit?_eq_none {value digit : UInt32} (hdigit : digit.toNat < 10)
    (h : Seed.largest < 10 * value.toNat + digit.toNat) : pushDigit? value digit = none := by
  have hlargest : Seed.largest = 4294967295 := rfl
  unfold pushDigit?
  split
  · rfl
  · next hproduct =>
    have hvalue : value.toNat ≤ 429496729 := by simpa [UInt32.lt_iff_toNat_lt] using hproduct
    rw [if_pos]
    rw [UInt32.lt_iff_toNat_lt, UInt32.toNat_add, UInt32.toNat_mul]
    change (10 * value.toNat % 2 ^ 32 + digit.toNat) % 2 ^ 32 < digit.toNat
    omega

theorem toNat_digit {c : Char} (h : c.isDigit = true) :
    (c.toNat - '0'.toNat).toUInt32.toNat = c.toNat - '0'.toNat ∧ c.toNat - '0'.toNat < 10 := by
  have hlow : '0'.toNat ≤ c.toNat := (isDigit_iff.mp h).1
  have hhigh : c.toNat ≤ '9'.toNat := (isDigit_iff.mp h).2
  have hlt : c.toNat - '0'.toNat < 10 := by
    have hnine : '9'.toNat = '0'.toNat + 9 := rfl
    omega
  refine ⟨?_, hlt⟩
  change (c.toNat - '0'.toNat) % 2 ^ 32 = _
  omega

theorem readDigits_eq_readWord (value : UInt32) (s : Text) :
    readDigits Seed.largest value.toNat s = (readWord value s).map UInt32.toNat := by
  induction s generalizing value with
  | nil => rfl
  | cons c s ih =>
    rw [readDigits_cons, readWord]
    split
    · next hc =>
      obtain ⟨hdigit, hlt⟩ := toNat_digit hc
      generalize (c.toNat - '0'.toNat).toUInt32 = digit at hdigit ⊢
      rw [← hdigit] at hlt ⊢
      split
      · next hnext =>
        obtain ⟨next, hpush, hvalue⟩ := pushDigit?_eq_some hlt hnext
        rw [hpush, ← hvalue, ih]
      · next hnext =>
        rw [pushDigit?_eq_none hlt (Nat.lt_of_not_le hnext)]
        rfl
    · rfl

end Text

/-! ### Answers -/

namespace Seed
open Text

/-- What reading an answer comes to. -/
theorem parse_cases (range : SeedRange) (body : Text) :
    (∃ cause, readNatural largest (trim body) = .error cause ∧ parse range body = .error (.unreadable (trim body) cause)) ∨
    (∃ v, readNatural largest (trim body) = .ok v ∧ (range.min ≤ v ∧ v ≤ range.max) ∧ parse range body = .ok v) ∨
    ∃ v, readNatural largest (trim body) = .ok v ∧ ¬(range.min ≤ v ∧ v ≤ range.max) ∧
      parse range body = .error (.outside v range) := by
  unfold parse
  cases readNatural largest (trim body) with
  | error cause => exact .inl ⟨cause, rfl, rfl⟩
  | ok v =>
    by_cases hin : range.min ≤ v ∧ v ≤ range.max
    · exact .inr (.inl ⟨v, rfl, hin, if_pos (decide_eq_true hin)⟩)
    · exact .inr (.inr ⟨v, rfl, hin, if_neg fun h => hin (of_decide_eq_true h)⟩)

section
variable {range : SeedRange} {body : Text} {v : Nat} {cause : NumeralFault}

theorem parse_eq_ok_iff :
    parse range body = .ok v ↔ readNatural largest (trim body) = .ok v ∧ range.min ≤ v ∧ v ≤ range.max := by
  rcases parse_cases range body with ⟨cause, hread, hparse⟩ | ⟨seed, hread, hin, hparse⟩ | ⟨seed, hread, hout, hparse⟩
  · simp [hread, hparse]
  · simp only [hread, hparse, Except.ok.injEq]
    exact ⟨fun h => ⟨h, h ▸ hin⟩, And.left⟩
  · simp only [hread, hparse, Except.ok.injEq, reduceCtorEq, false_iff]
    rintro ⟨rfl, hin⟩
    exact hout hin

theorem parse_eq_outside_iff :
    parse range body = .error (.outside v range) ↔
      readNatural largest (trim body) = .ok v ∧ ¬(range.min ≤ v ∧ v ≤ range.max) := by
  rcases parse_cases range body with ⟨cause, hread, hparse⟩ | ⟨seed, hread, hin, hparse⟩ | ⟨seed, hread, hout, hparse⟩
  · simp [hread, hparse]
  · simp only [hread, hparse, Except.ok.injEq, reduceCtorEq, false_iff]
    rintro ⟨rfl, hout⟩
    exact hout hin
  · simp only [hread, hparse, Except.ok.injEq, Except.error.injEq, Fault.outside.injEq, and_true]
    exact ⟨fun h => ⟨h, h ▸ hout⟩, And.left⟩

theorem parse_eq_unreadable_iff :
    parse range body = .error (.unreadable (trim body) cause) ↔ readNatural largest (trim body) = .error cause := by
  rcases parse_cases range body with ⟨cause, hread, hparse⟩ | ⟨seed, hread, -, hparse⟩ | ⟨seed, hread, -, hparse⟩
  · simp [hread, hparse]
  · simp [hread, hparse]
  · simp [hread, hparse]

end

/-- The seeds between two numbers of 32 bits, both included. -/
def between (least most : UInt32) : SeedRange := ⟨least.toNat, most.toNat⟩

/-- An answer is accepted with the seed `v` exactly if it is a numeral of the value `v`, white space aside, and `v` is in the range. A
    number of 32 bits out of the range is named in the error; anything else is unreadable, and too large as soon as its first
    digits are, whatever follows them. The digits are added up in one word without ever wrapping around. -/
theorem parse_accepts_numerals (least most : UInt32) (body : Text) :
    ∃ t, (∀ u, Trims body u ↔ u = t) ∧
      (∀ v, parse (between least most) body = .ok v ↔ Numeral t v ∧ least.toNat ≤ v ∧ v ≤ most.toNat) ∧
      (∀ v, parse (between least most) body = .error (.outside v (between least most)) ↔
        Numeral t v ∧ v < 2 ^ 32 ∧ ¬(least.toNat ≤ v ∧ v ≤ most.toNat)) ∧
      ((∃ cause, parse (between least most) body = .error (.unreadable t cause)) ↔ ∀ v < 2 ^ 32, ¬ Numeral t v) ∧
      (parse (between least most) body = .error (.unreadable t .tooLarge) ↔ ∃ p v, p <+: t ∧ Numeral p v ∧ 2 ^ 32 ≤ v) ∧
      ∀ digits, readDigits largest 0 digits = (readWord 0 digits).map UInt32.toNat := by
  have hlargest : ∀ v, v ≤ largest ↔ v < 2 ^ 32 := fun v => Nat.lt_succ_iff.symm
  have hmost : ∀ v, v ≤ most.toNat → v ≤ largest := fun v hv => (hlargest v).mpr (Nat.lt_of_le_of_lt hv most.toNat_lt)
  refine ⟨trim body, fun u => trims_iff, fun v => ?_, fun v => ?_, ?_, ?_, readDigits_eq_readWord 0⟩
  · rw [parse_eq_ok_iff, readNatural_eq_ok_iff, and_assoc]
    exact and_congr_right fun _ => and_iff_right_of_imp fun h => hmost v h.2
  · rw [parse_eq_outside_iff, readNatural_eq_ok_iff, and_assoc, hlargest]
    rfl
  · simp only [parse_eq_unreadable_iff]
    constructor
    · rintro ⟨cause, hcause⟩ v hv hnumeral
      rw [readNatural_eq_ok_iff.mpr ⟨hnumeral, (hlargest v).mpr hv⟩] at hcause
      cases hcause
    · intro hnone
      cases hread : readNatural largest (trim body) with
      | error cause => exact ⟨cause, rfl⟩
      | ok v =>
        obtain ⟨hnumeral, hv⟩ := readNatural_eq_ok_iff.mp hread
        exact absurd hnumeral (hnone v ((hlargest v).mp hv))
  · rw [parse_eq_unreadable_iff, readNatural_eq_tooLarge_iff]
    rfl

-- The number is 2 ^ 32 + 12345.
example : parse ⟨10000, 99999⟩ " +4294979641\n".toList = .error (.unreadable "+4294979641".toList .tooLarge) := rfl

end Seed
end Cloak
