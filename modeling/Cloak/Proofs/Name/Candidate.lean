import Cloak.Proofs.Name.Drawing
import Mathlib.Algebra.Ring.Nat

/-! The words that one candidate takes. A candidate is made of the digits of one word. If the first of them is no letter, words are
    drawn until one begins with a letter, and of that word this letter alone is used. How many words are drawn decides where the next
    candidate begins, so it is stated with the candidate. -/

namespace Cloak

/-! ### Places in a source -/

namespace WordSource
variable {σ : Type} [WordSource σ]

/-- The source after `n` words. -/
def drop : (n : Nat) → σ → σ
  | 0, g => g
  | n + 1, g => drop n (next g).2

/-- The words of a source, numbered from 0. -/
def word (g : σ) (n : Nat) : UInt32 := (next (drop n g)).1

theorem word_zero (g : σ) : word g 0 = (next g).1 := rfl

theorem drop_next (g : σ) (n : Nat) : drop n (next g).2 = drop (n + 1) g := rfl

end WordSource

/-- A source with the number of words drawn from it. -/
structure Metered (σ : Type) where
  source : σ
  drawn : Nat

namespace Metered
open WordSource
variable {σ : Type} [WordSource σ]

instance : WordSource (Metered σ) where
  next m := ((next m.source).1, ⟨(next m.source).2, m.drawn + 1⟩)

theorem drop_eq (m : Metered σ) (n : Nat) : drop n m = ⟨drop n m.source, m.drawn + n⟩ := by
  induction n generalizing m with
  | zero => rfl
  | succ n ih =>
    rw [← drop_next, ih, ← drop_next, Nat.add_comm n 1, ← Nat.add_assoc]
    rfl

theorem word_eq (m : Metered σ) : word m = word m.source := by
  funext n
  rw [word, drop_eq]
  rfl

end Metered

/-! ### Digits of a word -/

/-- The hexadecimal digit of a word at a place, counted from the lowest. -/
def digitAt (w : UInt32) (place : Nat) : Char := Nat.digitChar (w.toNat / 16 ^ place % 16)

theorem hexOfByte_eq {w : UInt32} {b : UInt8} {place : Nat} (h : b.toNat = w.toNat / 16 ^ place % 256) :
    hexOfByte b = [digitAt w (place + 1), digitAt w place] := by
  rw [hexOfByte, digitAt, digitAt, h, Nat.pow_succ, ← Nat.div_div_eq_div_mul]
  generalize w.toNat / 16 ^ place = n
  have hhigh : n % 256 / 16 = n / 16 % 16 := by omega
  have hlow : n % 256 % 16 = n % 16 := by omega
  rw [hhigh, hlow]

/-- The digits of a word stand byte by byte from the lowest, the high digit of a byte first. -/
theorem hexOfWord_eq (w : UInt32) : hexOfWord w = [1, 0, 3, 2, 5, 4, 7, 6].map (digitAt w) := by
  have h0 : w.toUInt8.toNat = w.toNat / 16 ^ 0 % 256 := by simp
  have h1 : (w >>> 8).toUInt8.toNat = w.toNat / 16 ^ 2 % 256 := by simp [UInt32.toNat_shiftRight, Nat.shiftRight_eq_div_pow]
  have h2 : (w >>> 16).toUInt8.toNat = w.toNat / 16 ^ 4 % 256 := by simp [UInt32.toNat_shiftRight, Nat.shiftRight_eq_div_pow]
  have h3 : (w >>> 24).toUInt8.toNat = w.toNat / 16 ^ 6 % 256 := by simp [UInt32.toNat_shiftRight, Nat.shiftRight_eq_div_pow]
  simp only [hexOfWord, bytesOfWord, List.flatMap_cons, List.flatMap_nil, hexOfByte_eq h0, hexOfByte_eq h1, hexOfByte_eq h2,
    hexOfByte_eq h3]
  rfl

theorem leadDigit_eq (w : UInt32) : leadDigit w = digitAt w 1 :=
  (List.cons.inj ((hexOfWord_eq_cons w).symm.trans (hexOfWord_eq w))).1

/-- A word begins with a letter if its lowest byte is at least `a0`. -/
theorem isDigit_leadDigit (w : UInt32) : (leadDigit w).isDigit = decide (w.toNat % 256 < 0xa0) := by
  have all : ∀ n < 16, (Nat.digitChar n).isDigit = decide (n < 10) := by decide
  rw [leadDigit_eq, digitAt, all _ (Nat.mod_lt _ (by decide)), decide_eq_decide]
  omega

/-! ### Candidates -/

/-- `j` is the first place after the first word where the lowest byte of a word is at least `a0`. -/
structure IsReroll (word : Nat → UInt32) (j : Nat) : Prop where
  pos : 1 ≤ j
  high : 0xa0 ≤ (word j).toNat % 256
  least : ∀ i, 1 ≤ i → i < j → (word i).toNat % 256 < 0xa0

theorem isReroll_succ_iff {word : Nat → UInt32} {i : Nat} :
    IsReroll word (i + 1) ↔
      (∀ k < i, (leadDigit (word (k + 1))).isDigit = true) ∧ (leadDigit (word (i + 1))).isDigit = false := by
  simp only [isDigit_leadDigit, decide_eq_true_eq, decide_eq_false_iff_not, Nat.not_lt]
  constructor
  · rintro ⟨-, hhigh, hleast⟩
    exact ⟨fun k hk => hleast (k + 1) (by omega) (by omega), hhigh⟩
  · rintro ⟨hleast, hhigh⟩
    refine ⟨by omega, hhigh, fun k hpos hk => ?_⟩
    obtain ⟨k, rfl⟩ := Nat.exists_eq_succ_of_ne_zero (Nat.one_le_iff_ne_zero.mp hpos)
    exact hleast k (by omega)

/-- The name that words make, and how many of them it takes. -/
inductive Makes (word : Nat → UInt32) : Text → Nat → Prop where
  | letter : (digitAt (word 0) 1).isDigit = false → Makes word ([1, 0, 3, 2, 5, 4, 7, 6].map (digitAt (word 0))) 1
  | reroll {j : Nat} : (digitAt (word 0) 1).isDigit = true → IsReroll word j →
      Makes word (digitAt (word j) 1 :: [0, 3, 2, 5, 4, 7, 6].map (digitAt (word 0))) (j + 1)

section
open WordSource
variable {σ : Type} [WordSource σ] {g g' : σ} {limit : Nat} {name : Text}

theorem drawLetter_eq_some_iff {c : Char} :
    drawLetter limit g = some (c, g') ↔ ∃ i < limit, (∀ k < i, (leadDigit (word g k)).isDigit = true) ∧
      (leadDigit (word g i)).isDigit = false ∧ c = leadDigit (word g i) ∧ g' = drop (i + 1) g := by
  induction limit generalizing g with
  | zero => simp [drawLetter]
  | succ limit ih =>
    simp only [drawLetter]
    split
    · next hdigit =>
      -- The first word is passed over, so every place moves on by one.
      rw [ih]
      constructor
      · rintro ⟨i, hi, hbefore, hletter, hc, hg⟩
        refine ⟨i + 1, by omega, fun k hk => ?_, hletter, hc, hg⟩
        cases k with
        | zero => exact hdigit
        | succ k => exact hbefore k (by omega)
      · rintro ⟨i, hi, hbefore, hletter, hc, hg⟩
        cases i with
        | zero => exact absurd hdigit (by rw [← word_zero, hletter]; decide)
        | succ i => exact ⟨i, by omega, fun k hk => hbefore (k + 1) (by omega), hletter, hc, hg⟩
    · next hletter =>
      simp only [Option.some.injEq, Prod.mk.injEq]
      constructor
      · rintro ⟨rfl, rfl⟩
        exact ⟨0, by omega, by simp, by simpa [word_zero] using hletter, rfl, rfl⟩
      · rintro ⟨i, hi, hbefore, -, hc, hg⟩
        cases i with
        | zero => exact ⟨hc.symm, hg.symm⟩
        | succ i => exact absurd (hbefore 0 (by omega)) hletter

theorem drawCandidate_of_letter (h : (leadDigit (word g 0)).isDigit = false) :
    drawCandidate limit g = some (hexOfWord (word g 0), drop 1 g) :=
  if_neg (Bool.eq_false_iff.mp h)

theorem drawCandidate_of_digit (h : (leadDigit (word g 0)).isDigit = true) :
    drawCandidate limit g = (drawLetter limit (next g).2).map fun p => (p.1 :: (hexOfWord (word g 0)).tail, p.2) :=
  if_pos h

theorem drawCandidate_eq_some_iff :
    drawCandidate limit g = some (name, g') ↔ ∃ k ≤ limit + 1, Makes (word g) name k ∧ g' = drop k g := by
  cases hlead : (leadDigit (word g 0)).isDigit with
  | true =>
    rw [drawCandidate_of_digit hlead, Option.map_eq_some_iff, hexOfWord_eq]
    rw [leadDigit_eq] at hlead
    constructor
    · rintro ⟨⟨c, h⟩, hdraw, heq⟩
      obtain ⟨i, hi, hbefore, hletter, rfl, rfl⟩ := drawLetter_eq_some_iff.mp hdraw
      obtain ⟨rfl, rfl⟩ := Prod.mk.inj heq
      refine ⟨i + 2, by omega, ?_, rfl⟩
      rw [leadDigit_eq]
      exact .reroll hlead (isReroll_succ_iff.mpr ⟨hbefore, hletter⟩)
    · rintro ⟨k, hk, hmakes, rfl⟩
      cases hmakes with
      | letter hletter => exact absurd hlead (Bool.eq_false_iff.mp hletter)
      | @reroll j _ hj =>
        obtain ⟨i, rfl⟩ := Nat.exists_eq_succ_of_ne_zero (Nat.one_le_iff_ne_zero.mp hj.pos)
        obtain ⟨hbefore, hletter⟩ := isReroll_succ_iff.mp hj
        refine ⟨_, drawLetter_eq_some_iff.mpr ⟨i, by omega, hbefore, hletter, rfl, rfl⟩, ?_⟩
        rw [leadDigit_eq]
        rfl
  | false =>
    rw [drawCandidate_of_letter hlead, hexOfWord_eq, Option.some.injEq, Prod.mk.injEq]
    rw [leadDigit_eq] at hlead
    constructor
    · rintro ⟨rfl, rfl⟩
      exact ⟨1, by omega, .letter hlead, rfl⟩
    · rintro ⟨k, -, hmakes, rfl⟩
      cases hmakes with
      | letter => exact ⟨rfl, rfl⟩
      | reroll hdigit => exact absurd hdigit (Bool.eq_false_iff.mp hlead)

/-- One candidate takes one word if the first digit of that word is a letter. Else the digit gives way to the first digit of the
    first later word whose lowest byte is at least `a0`, and the words up to that one are taken, while the other seven digits
    stay. No candidate is drawn exactly if there is no such word within the limit. The count of words is that of a meter on the
    source, which changes nothing else. -/
theorem drawCandidate_takes (g g' : σ) (limit : Nat) (name : Text) :
    (∀ k, drawCandidate limit (⟨g, 0⟩ : Metered σ) = some (name, ⟨g', k⟩) ↔
      k ≤ limit + 1 ∧ Makes (word g) name k ∧ g' = drop k g) ∧
    (drawCandidate limit g = some (name, g') ↔ ∃ k, drawCandidate limit (⟨g, 0⟩ : Metered σ) = some (name, ⟨g', k⟩)) := by
  have hmetered : ∀ k, drawCandidate limit (⟨g, 0⟩ : Metered σ) = some (name, ⟨g', k⟩) ↔
      k ≤ limit + 1 ∧ Makes (word g) name k ∧ g' = drop k g := by
    intro k
    rw [drawCandidate_eq_some_iff]
    simp only [Metered.word_eq, Metered.drop_eq, Metered.mk.injEq, Nat.zero_add]
    constructor
    · rintro ⟨k', hk, hmakes, hg, rfl⟩
      exact ⟨hk, hmakes, hg⟩
    · rintro ⟨hk, hmakes, hg⟩
      exact ⟨k, hk, hmakes, hg, rfl⟩
  exact ⟨hmetered, by simp only [hmetered, drawCandidate_eq_some_iff]⟩

end

-- Two words are passed over, the first of them but for seven digits.
example : (drawCandidate 5 (⟨⟨fun n => [0x1b, 0x9f, 0xc5].getD n 0⟩, 0⟩ : Metered WordStream)).map (fun p => (p.1, p.2.drawn)) =
    some ("cb000000".toList, 3) := by decide

end Cloak
