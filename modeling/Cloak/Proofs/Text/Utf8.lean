import Cloak.Text.Utf8

/-! Bytes that are UTF-8 are characters one after the other, and no byte of a longer character is ASCII. So they may be divided
    at any ASCII byte, and both parts are UTF-8. A text may be divided at the byte where any of its parts begins. -/

namespace Cloak.Utf8

/-- The bytes are characters one after the other. -/
inductive IsUtf8 : Bytes → Prop where
  | nil : IsUtf8 []
  | char {b : UInt8} {bs rest : Bytes} {c : Char} : step b bs = .char c rest → IsUtf8 rest → IsUtf8 (b :: bs)

section
variable {b d : UInt8} {bs rest tail : Bytes} {c : Char}

theorem isUtf8_of_decodeFrom {index : Nat} {read s : Text} (h : decodeFrom index read bs = .ok s) : IsUtf8 bs := by
  fun_induction decodeFrom index read bs with
  | case1 => exact .nil
  | case2 _ _ _ _ c rest hstep _ ih => exact .char hstep (ih h)
  | case3 => cases h
  | case4 => cases h

theorem IsUtf8.decodeFrom (h : IsUtf8 bs) (index : Nat) (read : Text) : ∃ s, decodeFrom index read bs = .ok s := by
  induction h generalizing index read with
  | nil => exact ⟨_, by rw [Utf8.decodeFrom]⟩
  | char hstep _ ih =>
    obtain ⟨s, hs⟩ := ih (index + _) (_ :: read)
    refine ⟨s, ?_⟩
    rw [Utf8.decodeFrom]
    split
    · next heq =>
      rw [hstep] at heq
      cases heq
      exact hs
    · next heq => rw [hstep] at heq; cases heq
    · next heq => rw [hstep] at heq; cases heq

theorem isSome_decode?_iff : (decode? bs).isSome = true ↔ IsUtf8 bs := by
  constructor
  · intro h
    cases hdecode : decode bs with
    | ok s => exact isUtf8_of_decodeFrom hdecode
    | error e => rw [decode?, hdecode] at h; cases h
  · intro h
    obtain ⟨s, hs⟩ := h.decodeFrom 0 []
    rw [decode?, decode, hs]
    rfl

/-! ### Dividing at an ASCII byte -/

theorem lo_of_lead? {l : Lead} (h : lead? b = some l) : 0x80 ≤ l.lo := by
  unfold lead? at h
  repeat' split at h
  all_goals cases h
  all_goals
    dsimp only
    decide

theorem lead?_of_ascii (hd : d < 0x80) : lead? d = some ⟨0, d.toNat, 0x80, 0xBF⟩ := if_pos hd

/-- A character that begins before an ASCII byte ends before it. -/
theorem readMore_append_cons {length value more : Nat} {lo hi : UInt8} (hd : d < lo) (hlo : d < 0x80)
    (h : readMore length value lo hi more (bs ++ d :: tail) = .char c rest) :
    ∃ before, rest = before ++ d :: tail ∧ readMore length value lo hi more bs = .char c before := by
  induction more generalizing length value lo hi bs with
  | zero =>
    rw [readMore] at h
    cases h
    exact ⟨bs, rfl, rfl⟩
  | succ more ih =>
    cases bs with
    | nil =>
      rw [List.nil_append, readMore, if_neg fun hrange => absurd hrange.1 (by simpa using hd)] at h
      cases h
    | cons b bs =>
      rw [List.cons_append, readMore] at h
      split at h
      · next hrange =>
        obtain ⟨before, hbefore, hread⟩ := ih hlo h
        exact ⟨before, hbefore, by rw [readMore, if_pos hrange, hread]⟩
      · cases h

theorem step_append_cons (hd : d < 0x80) (h : step b (bs ++ d :: tail) = .char c rest) :
    ∃ before, rest = before ++ d :: tail ∧ step b bs = .char c before := by
  unfold step at h ⊢
  cases hlead : lead? b with
  | none => rw [hlead] at h; cases h
  | some l =>
    rw [hlead] at h
    exact readMore_append_cons (Nat.lt_of_lt_of_le hd (lo_of_lead? hlead)) hd h

theorem IsUtf8.of_append_cons (hd : d < 0x80) (h : IsUtf8 (bs ++ d :: tail)) : IsUtf8 bs ∧ IsUtf8 tail := by
  generalize hall : bs ++ d :: tail = all at h
  induction h generalizing bs with
  | nil => exact absurd hall (by simp)
  | char hstep hrest ih =>
    cases bs with
    | nil =>
      cases hall
      rw [step, lead?_of_ascii hd] at hstep
      cases hstep
      exact ⟨.nil, hrest⟩
    | cons b bs =>
      cases hall
      obtain ⟨before, rfl, hfirst⟩ := step_append_cons hd hstep
      obtain ⟨hbefore, htail⟩ := ih rfl
      exact ⟨.char hfirst hbefore, htail⟩

end

/-! ### Offsets in bytes -/

theorem foldl_utf8Size (n : Nat) (s : Text) : s.foldl (fun n c => n + c.utf8Size) n = n + size s := by
  induction s generalizing n with
  | nil => rfl
  | cons c s ih => rw [size, List.foldl_cons, List.foldl_cons, ih, ih (0 + c.utf8Size), Nat.zero_add, Nat.add_assoc]

theorem size_cons (c : Char) (s : Text) : size (c :: s) = c.utf8Size + size s := by
  rw [size, List.foldl_cons, foldl_utf8Size, Nat.zero_add]

theorem size_append (s t : Text) : size (s ++ t) = size s + size t := by
  rw [size, List.foldl_append, foldl_utf8Size]
  rfl

theorem dropBytes?_size (s t : Text) : dropBytes? (size s) (s ++ t) = some t := by
  induction s with
  | nil =>
    change dropBytes? 0 t = some t
    rw [dropBytes?]
  | cons c s ih =>
    have hpos := c.utf8Size_pos
    obtain ⟨n, hn⟩ : ∃ n, size (c :: s) = n + 1 := ⟨size (c :: s) - 1, by rw [size_cons]; omega⟩
    have hle : c.utf8Size ≤ n + 1 := by rw [← hn, size_cons]; omega
    have hrest : n + 1 - c.utf8Size = size s := by rw [← hn, size_cons]; omega
    rw [hn, List.cons_append, dropBytes?, if_pos hle, hrest, ih]

end Cloak.Utf8
