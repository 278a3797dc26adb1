import Cloak.Name.Registry
import Mathlib.Data.List.Basic
import Std.Data.TreeSet.Lemmas

/-! Drawing names from a registry. Every name has the form of opaque names, none was issued before it is drawn, and the
    registry issues nothing else. A draw may go through any number of candidates; only the one it ends with counts. -/

namespace Cloak

/-- A source whose words are given one by one. -/
structure WordStream where
  word : Nat → UInt32

instance : WordSource WordStream where
  next w := (w.word 0, ⟨fun n => w.word (n + 1)⟩)

/-! ### Opaque names -/

theorem isHexDigit_iff {c : Char} : isHexDigit c = true ↔ ('0' ≤ c ∧ c ≤ '9') ∨ ('a' ≤ c ∧ c ≤ 'f') := by
  simp [isHexDigit, Char.isDigit, Char.le_def]

/-- An opaque name has eight digits in all and begins with a letter. -/
theorem isOpaqueName_iff {name : Text} :
    isOpaqueName name = true ↔ name.length = 8 ∧ (∀ c ∈ name, isHexDigit c = true) ∧
      ∃ c ∈ name.head?, c.isDigit = false := by
  simp only [isOpaqueName, Bool.and_eq_true, beq_iff_eq, List.all_eq_true, Option.any_eq_true, Bool.not_eq_true', and_assoc,
    Option.mem_def]

/-- A hexadecimal digit that is no decimal digit is a letter. -/
theorem letter_of_isHexDigit {c : Char} (h : isHexDigit c = true) (hd : c.isDigit = false) : 'a' ≤ c ∧ c ≤ 'f' := by
  simpa only [isHexDigit, hd, Bool.false_or, decide_eq_true_eq] using h

/-- What holds of each of the sixteen digits holds of every hexadecimal digit. -/
theorem forall_hexDigit {P : Char → Prop} (h : ∀ c ∈ "0123456789abcdef".toList, P c) {c : Char} (hc : isHexDigit c = true) :
    P c := by
  have hlt : c.toNat < 128 := by
    rcases isHexDigit_iff.mp hc with ⟨-, hc⟩ | ⟨-, hc⟩
    · exact Nat.lt_of_le_of_lt hc (by decide)
    · exact Nat.lt_of_le_of_lt hc (by decide)
  have all : ∀ n < 128, isHexDigit (Char.ofNat n) = true → Char.ofNat n ∈ "0123456789abcdef".toList := by decide
  have hmem := all c.toNat hlt
  rw [Char.ofNat_toNat] at hmem
  exact h c (hmem hc)

theorem not_infix_of_length_lt {name x : Text} (hname : isOpaqueName name = true) (hx : x.length < 8) : ¬ name <:+: x := by
  intro h
  have := h.length_le
  rw [(isOpaqueName_iff.mp hname).1] at this
  omega

/-! ### The form of a candidate -/

theorem isHexDigit_digitChar {n : Nat} (h : n < 16) : isHexDigit (Nat.digitChar n) = true := by
  have all : ∀ n < 16, isHexDigit (Nat.digitChar n) = true := by decide
  exact all n h

theorem isHexDigit_of_mem_hexOfByte {b : UInt8} {c : Char} (h : c ∈ hexOfByte b) : isHexDigit c = true := by
  have hb : b.toNat < 256 := b.toNat_lt
  simp only [hexOfByte, List.mem_cons, List.not_mem_nil, or_false] at h
  rcases h with rfl | rfl
  · exact isHexDigit_digitChar (by omega)
  · exact isHexDigit_digitChar (by omega)

theorem isHexDigit_of_mem_hexOfWord {w : UInt32} {c : Char} (h : c ∈ hexOfWord w) : isHexDigit c = true := by
  obtain ⟨b, -, hc⟩ := List.mem_flatMap.mp h
  exact isHexDigit_of_mem_hexOfByte hc

theorem length_hexOfWord (w : UInt32) : (hexOfWord w).length = 8 := rfl

theorem hexOfWord_eq_cons (w : UInt32) : hexOfWord w = leadDigit w :: (hexOfWord w).tail := rfl

/-- A letter before the last seven digits of a word makes an opaque name. -/
theorem isOpaqueName_cons {v w : UInt32} (h : (leadDigit v).isDigit = false) :
    isOpaqueName (leadDigit v :: (hexOfWord w).tail) = true := by
  have hlead : isHexDigit (leadDigit v) = true := isHexDigit_of_mem_hexOfWord (hexOfWord_eq_cons v ▸ List.mem_cons_self)
  have htail : (hexOfWord w).tail.all isHexDigit = true :=
    List.all_eq_true.mpr fun c hc => isHexDigit_of_mem_hexOfWord (List.mem_of_mem_tail hc)
  simp [isOpaqueName, hlead, htail, h, length_hexOfWord]

section
variable {σ : Type}

theorem drawLetter_eq_some [WordSource σ] {limit : Nat} {g g' : σ} {c : Char} (h : drawLetter limit g = some (c, g')) :
    ∃ v, c = leadDigit v ∧ (leadDigit v).isDigit = false := by
  induction limit generalizing g with
  | zero => simp [drawLetter] at h
  | succ limit ih =>
    simp only [drawLetter] at h
    split at h
    · exact ih h
    · next hd =>
      simp only [Option.some.injEq, Prod.mk.injEq] at h
      exact ⟨_, h.1.symm, by simpa using hd⟩

theorem isOpaqueName_of_drawCandidate [WordSource σ] {limit : Nat} {g g' : σ} {name : Text}
    (h : drawCandidate limit g = some (name, g')) : isOpaqueName name = true := by
  simp only [drawCandidate] at h
  split at h
  · obtain ⟨⟨c, s⟩, hc, heq⟩ := Option.map_eq_some_iff.mp h
    obtain ⟨v, rfl, hv⟩ := drawLetter_eq_some hc
    simp only [Prod.mk.injEq] at heq
    rw [← heq.1]
    exact isOpaqueName_cons hv
  · next hd =>
    simp only [Option.some.injEq, Prod.mk.injEq] at h
    rw [← h.1, hexOfWord_eq_cons]
    exact isOpaqueName_cons (by simpa using hd)

/-! ### One name -/

namespace Registry

/-- What one draw does to a registry: it adds `name`, which is new and has the form of opaque names. -/
structure Issues (r : Registry σ) (name : Text) (r' : Registry σ) : Prop where
  form : isOpaqueName name = true
  fresh : r.contains name = false
  issued : ∀ x, r'.contains x = true ↔ x = name ∨ r.contains x = true
  size : r'.size = r.size + 1

theorem contains_insert (r : Registry σ) (source : σ) (name x : Text) :
    (⟨source, r.issued.insert name⟩ : Registry σ).contains x = true ↔ x = name ∨ r.contains x = true := by
  simp only [contains, Std.TreeSet.contains_insert, Bool.or_eq_true, beq_iff_eq, Std.compare_eq_iff_eq, eq_comm (a := name)]

theorem size_insert {r : Registry σ} {name : Text} (h : r.contains name = false) (source : σ) :
    (⟨source, r.issued.insert name⟩ : Registry σ).size = r.size + 1 := by
  simp only [size, Std.TreeSet.size_insert]
  exact if_neg (Bool.eq_false_iff.mp h)

theorem issues_of_generateWithin [WordSource σ] {limit tries : Nat} {r r' : Registry σ} {name : Text}
    (h : generateWithin limit tries r = some (name, r')) : r.Issues name r' := by
  induction tries generalizing r with
  | zero => simp [generateWithin] at h
  | succ tries ih =>
    unfold generateWithin at h
    split at h
    · cases h
    · next candidate source hc =>
      split at h
      · -- The candidate was issued before: it is thrown away, and the issued names stay as they are.
        obtain ⟨form, fresh, issued, size⟩ := ih h
        exact ⟨form, fresh, issued, size⟩
      · next hnew =>
        simp only [Option.some.injEq, Prod.mk.injEq] at h
        obtain ⟨rfl, rfl⟩ := h
        rw [Bool.not_eq_true] at hnew
        exact ⟨isOpaqueName_of_drawCandidate hc, hnew, r.contains_insert source candidate, size_insert hnew source⟩

theorem issues_of_generate [WordSource σ] {r r' : Registry σ} {name : Text} (h : r.generate = some (name, r')) :
    r.Issues name r' :=
  issues_of_generateWithin h

end Registry

/-! ### Several names -/

/-- Issues `n` names, one after the other. -/
def drawNames [WordSource σ] : (n : Nat) → Naming σ (List Text)
  | 0 => pure []
  | n + 1 => do
    let name ← freshName
    let names ← drawNames n
    return name :: names

/-- What several draws do to a registry: they add `names`, all new, distinct and of the form of opaque names. -/
structure Registry.IssuesAll (r : Registry σ) (names : List Text) (r' : Registry σ) : Prop where
  form : ∀ x ∈ names, isOpaqueName x = true
  fresh : ∀ x ∈ names, r.contains x = false
  nodup : names.Nodup
  issued : ∀ x, r'.contains x = true ↔ x ∈ names ∨ r.contains x = true

theorem Registry.IssuesAll.nil (r : Registry σ) : r.IssuesAll [] r := ⟨by simp, by simp, List.nodup_nil, by simp⟩

theorem Registry.IssuesAll.cons {r r' r'' : Registry σ} {name : Text} {names : List Text} (h : r.Issues name r')
    (hs : r'.IssuesAll names r'') : r.IssuesAll (name :: names) r'' where
  form := List.forall_mem_cons.mpr ⟨h.form, hs.form⟩
  fresh := by
    refine List.forall_mem_cons.mpr ⟨h.fresh, fun x hx => Bool.eq_false_iff.mpr fun hc => ?_⟩
    exact Bool.eq_false_iff.mp (hs.fresh x hx) ((h.issued x).mpr (Or.inr hc))
  nodup := by
    refine List.nodup_cons.mpr ⟨fun hn => ?_, hs.nodup⟩
    exact Bool.eq_false_iff.mp (hs.fresh name hn) ((h.issued name).mpr (Or.inl rfl))
  issued x := by rw [hs.issued, h.issued, List.mem_cons, or_left_comm, or_assoc]

theorem drawNames_succ_eq_some [WordSource σ] {n : Nat} {r r' : Registry σ} {names : List Text}
    (h : drawNames (n + 1) r = some (names, r')) :
    ∃ name rest q, r.generate = some (name, q) ∧ drawNames n q = some (rest, r') ∧ names = name :: rest := by
  simp only [drawNames, bind, StateT.bind, freshName, Option.bind_eq_some_iff] at h
  obtain ⟨⟨name, q⟩, hg, ⟨rest, q'⟩, hn, hr⟩ := h
  cases (hr : some (name :: rest, q') = some (names, r'))
  exact ⟨name, rest, q, hg, hn, rfl⟩

theorem issuesAll_of_drawNames [WordSource σ] {n : Nat} {r r' : Registry σ} {names : List Text}
    (h : drawNames n r = some (names, r')) : r.IssuesAll names r' := by
  induction n generalizing r names with
  | zero =>
    cases (h : some ([], r) = some (names, r'))
    exact .nil r'
  | succ n ih =>
    obtain ⟨name, rest, q, hg, hn, rfl⟩ := drawNames_succ_eq_some h
    exact .cons (Registry.issues_of_generate hg) (ih hn)

theorem length_of_drawNames [WordSource σ] {n : Nat} {r r' : Registry σ} {names : List Text}
    (h : drawNames n r = some (names, r')) : names.length = n := by
  induction n generalizing r names with
  | zero =>
    cases (h : some ([], r) = some (names, r'))
    rfl
  | succ n ih =>
    obtain ⟨name, rest, q, -, hn, rfl⟩ := drawNames_succ_eq_some h
    rw [List.length_cons, ih hn]

end
end Cloak
