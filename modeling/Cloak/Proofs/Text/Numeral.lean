import Cloak.Text.Numeral
import Mathlib.Data.Nat.Digits.Defs
import Mathlib.Tactic.Ring

/-! Reading decimal numerals up to a limit. What is read is a numeral and its exact value. A numeral may have any length; one that is
    too large is refused at the digit that makes it so, since the digits after it can only make it larger. -/

namespace Cloak

/-! ### Numerals -/

/-- One or more ASCII digits. -/
structure IsDigits (digits : Text) : Prop where
  ne_nil : digits ≠ []
  digit : ∀ c ∈ digits, '0' ≤ c ∧ c ≤ '9'

/-- What digits count by their places, the last one for ones. -/
def decimalValue (digits : Text) : Nat := Nat.ofDigits 10 (digits.reverse.map fun c => c.toNat - '0'.toNat)

/-- A natural number as it may be written: digits, with zeros in front or not, and with a plus sign or not. -/
inductive Numeral : Text → Nat → Prop where
  | plain {digits : Text} : IsDigits digits → Numeral digits (decimalValue digits)
  | signed {digits : Text} : IsDigits digits → Numeral ('+' :: digits) (decimalValue digits)

theorem isDigit_iff {c : Char} : c.isDigit = true ↔ '0' ≤ c ∧ c ≤ '9' := by
  simp [Char.isDigit, Char.le_def]

theorem decimalValue_cons (c : Char) (s : Text) :
    decimalValue (c :: s) = (c.toNat - '0'.toNat) * 10 ^ s.length + decimalValue s := by
  simp [decimalValue, Nat.ofDigits_append, Nat.add_comm, Nat.mul_comm]

/-- The number that digits make behind others that count `value`. -/
def valueAfter (value : Nat) (digits : Text) : Nat := value * 10 ^ digits.length + decimalValue digits

theorem valueAfter_zero (digits : Text) : valueAfter 0 digits = decimalValue digits := by
  rw [valueAfter, Nat.zero_mul, Nat.zero_add]

theorem valueAfter_nil (value : Nat) : valueAfter value [] = value := by
  simp [valueAfter, decimalValue]

theorem valueAfter_cons (value : Nat) (c : Char) (s : Text) :
    valueAfter value (c :: s) = valueAfter (10 * value + (c.toNat - '0'.toNat)) s := by
  rw [valueAfter, valueAfter, decimalValue_cons, List.length_cons]
  ring

theorem le_valueAfter (value : Nat) (s : Text) : value ≤ valueAfter value s :=
  Nat.le_trans (Nat.le_mul_of_pos_right value (Nat.pow_pos (by decide))) (Nat.le_add_right _ _)

/-- The text without a plus sign in front. -/
def unsigned : Text → Text
  | '+' :: digits => digits
  | digits => digits

theorem IsDigits.unsigned_eq {digits : Text} (h : IsDigits digits) : unsigned digits = digits := by
  unfold unsigned
  split
  · next rest =>
    have hplus := h.digit '+' List.mem_cons_self
    exact absurd hplus (by decide)
  · rfl

theorem numeral_iff {t : Text} {n : Nat} : Numeral t n ↔ IsDigits (unsigned t) ∧ n = decimalValue (unsigned t) := by
  constructor
  · intro h
    cases h with
    | plain h => exact ⟨h.unsigned_eq.symm ▸ h, by rw [h.unsigned_eq]⟩
    | signed h => exact ⟨h, rfl⟩
  · rintro ⟨h, rfl⟩
    unfold unsigned at h ⊢
    split at h
    · exact .signed h
    · exact .plain h

/-- A numeral that a text begins with is a beginning of its digits, its sign aside. -/
theorem exists_numeral_prefix_iff {t : Text} {P : Nat → Prop} :
    (∃ p n, p <+: t ∧ Numeral p n ∧ P n) ↔ ∃ p, p <+: unsigned t ∧ IsDigits p ∧ P (decimalValue p) := by
  constructor
  · rintro ⟨p, n, ⟨rest, rfl⟩, hn, hp⟩
    cases hn with
    | @plain digits h =>
      obtain ⟨c, s, rfl⟩ := List.exists_cons_of_ne_nil h.ne_nil
      refine ⟨c :: s, ⟨rest, ?_⟩, h, hp⟩
      unfold unsigned
      split
      · next heq =>
        have hplus := h.digit c List.mem_cons_self
        rw [(List.cons.inj heq).1] at hplus
        exact absurd hplus (by decide)
      · rfl
    | @signed digits h => exact ⟨digits, ⟨rest, rfl⟩, h, hp⟩
  · rintro ⟨p, ⟨rest, hrest⟩, h, hp⟩
    unfold unsigned at hrest
    split at hrest
    · exact ⟨'+' :: p, _, ⟨rest, by rw [List.cons_append, hrest]⟩, .signed h, hp⟩
    · exact ⟨p, _, ⟨rest, hrest⟩, .plain h, hp⟩

/-! ### Reading digits -/

/-- The text begins with digits that make more than `limit` behind others that count `value`. -/
def Exceeds (limit value : Nat) (s : Text) : Prop :=
  ∃ p, p <+: s ∧ (∀ c ∈ p, c.isDigit = true) ∧ limit < valueAfter value p

section
variable {limit value : Nat}

theorem exceeds_of_lt (h : limit < value) (s : Text) : Exceeds limit value s :=
  ⟨[], List.nil_prefix, by simp, by rwa [valueAfter_nil]⟩

theorem not_exceeds_nil (h : value ≤ limit) : ¬ Exceeds limit value [] := by
  rintro ⟨p, hp, -, hlarge⟩
  rw [List.prefix_nil.mp hp, valueAfter_nil] at hlarge
  omega

theorem exceeds_cons_iff (h : value ≤ limit) {c : Char} {s : Text} :
    Exceeds limit value (c :: s) ↔ c.isDigit = true ∧ Exceeds limit (10 * value + (c.toNat - '0'.toNat)) s := by
  constructor
  · rintro ⟨p, hp, hdigit, hlarge⟩
    rcases List.prefix_cons_iff.mp hp with rfl | ⟨p', rfl, hp'⟩
    · rw [valueAfter_nil] at hlarge
      omega
    · obtain ⟨hc, hdigit⟩ := List.forall_mem_cons.mp hdigit
      exact ⟨hc, p', hp', hdigit, valueAfter_cons value c p' ▸ hlarge⟩
  · rintro ⟨hc, p, hp, hdigit, hlarge⟩
    exact ⟨c :: p, List.prefix_cons_iff.mpr (.inr ⟨p, rfl, hp⟩), List.forall_mem_cons.mpr ⟨hc, hdigit⟩,
      (valueAfter_cons value c p).symm ▸ hlarge⟩

end

namespace Text
variable {limit value n : Nat} {s t : Text}

theorem readDigits_cons (limit value : Nat) (c : Char) (s : Text) :
    readDigits limit value (c :: s) =
      if c.isDigit then
        if 10 * value + (c.toNat - '0'.toNat) ≤ limit then readDigits limit (10 * value + (c.toNat - '0'.toNat)) s
        else .error .tooLarge
      else .error .invalidDigit := rfl

theorem readDigits_eq_ok_iff (h : value ≤ limit) :
    readDigits limit value s = .ok n ↔ (∀ c ∈ s, c.isDigit = true) ∧ n = valueAfter value s ∧ n ≤ limit := by
  induction s generalizing value with
  | nil =>
    rw [readDigits, valueAfter_nil, Except.ok.injEq]
    constructor
    · rintro rfl
      exact ⟨by simp, rfl, h⟩
    · exact fun hn => hn.2.1.symm
  | cons c s ih =>
    rw [readDigits_cons, List.forall_mem_cons, valueAfter_cons]
    split
    · next hc =>
      split
      · next hnext => rw [ih hnext, and_iff_right hc]
      · next hnext =>
        -- The digits that follow make the number larger still.
        have hle := le_valueAfter (10 * value + (c.toNat - '0'.toNat)) s
        exact iff_of_false (by simp) fun hn => hnext (by omega)
    · next hc => exact iff_of_false (by simp) fun hn => hc hn.1.1

theorem readDigits_eq_tooLarge_iff (h : value ≤ limit) :
    readDigits limit value s = .error .tooLarge ↔ Exceeds limit value s := by
  induction s generalizing value with
  | nil => exact iff_of_false (by simp [readDigits]) (not_exceeds_nil h)
  | cons c s ih =>
    rw [exceeds_cons_iff h, readDigits_cons]
    split
    · next hc =>
      rw [and_iff_right hc]
      split
      · next hnext => exact ih hnext
      · next hnext => exact iff_of_true rfl (exceeds_of_lt (Nat.lt_of_not_le hnext) s)
    · next hc => exact iff_of_false (by simp) fun hp => hc hp.1

theorem readNatural_of_unsigned (h : unsigned t ≠ []) : readNatural limit t = readDigits limit 0 (unsigned t) := by
  unfold unsigned at h ⊢
  unfold readNatural
  split
  · exact absurd rfl h
  · exact absurd rfl h
  · rfl
  · next hplus =>
    split
    · exact absurd rfl (hplus _)
    · rfl

theorem readNatural_of_unsigned_nil (limit : Nat) (h : unsigned t = []) :
    ∃ cause, cause ≠ .tooLarge ∧ readNatural limit t = .error cause := by
  unfold unsigned at h
  split at h
  · subst h
    exact ⟨.invalidDigit, by decide, rfl⟩
  · subst h
    exact ⟨.empty, by decide, rfl⟩

theorem readNatural_eq_ok_iff : readNatural limit t = .ok n ↔ Numeral t n ∧ n ≤ limit := by
  rw [numeral_iff]
  by_cases hnil : unsigned t = []
  · obtain ⟨cause, -, hcause⟩ := readNatural_of_unsigned_nil limit hnil
    rw [hcause]
    exact iff_of_false (by simp) fun h => h.1.1.ne_nil hnil
  · rw [readNatural_of_unsigned hnil, readDigits_eq_ok_iff (Nat.zero_le limit), valueAfter_zero, ← and_assoc]
    refine and_congr_left' (and_congr_left' ?_)
    exact ⟨fun h => ⟨hnil, fun c hc => isDigit_iff.mp (h c hc)⟩, fun h c hc => isDigit_iff.mpr (h.digit c hc)⟩

theorem readNatural_eq_tooLarge_iff :
    readNatural limit t = .error .tooLarge ↔ ∃ p n, p <+: t ∧ Numeral p n ∧ limit < n := by
  rw [exists_numeral_prefix_iff]
  by_cases hnil : unsigned t = []
  · obtain ⟨cause, hne, hcause⟩ := readNatural_of_unsigned_nil limit hnil
    rw [hcause]
    refine iff_of_false (fun h => hne (Except.error.inj h)) ?_
    rintro ⟨p, hp, hdigits, -⟩
    rw [hnil, List.prefix_nil] at hp
    exact hdigits.ne_nil hp
  · rw [readNatural_of_unsigned hnil, readDigits_eq_tooLarge_iff (Nat.zero_le limit)]
    refine exists_congr fun p => and_congr_right fun _ => ?_
    rw [valueAfter_zero]
    constructor
    · rintro ⟨hdigit, hlarge⟩
      refine ⟨⟨?_, fun c hc => isDigit_iff.mp (hdigit c hc)⟩, hlarge⟩
      rintro rfl
      exact absurd hlarge (by simp [decimalValue])
    · rintro ⟨hdigits, hlarge⟩
      exact ⟨fun c hc => isDigit_iff.mpr (hdigits.digit c hc), hlarge⟩

end Text
end Cloak
