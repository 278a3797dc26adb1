import Cloak.Proofs.Text.Cluster
import Cloak.Proofs.Text.Cut

/-! Trimming: a text is its trimmed form between white space, and white space put around a text does not change what is left. -/

namespace Cloak

theorem IsSolid.startsOutside {t : Text} (h : IsSolid t) (s : Text) : StartsOutside isBlank (t ++ s) := by
  obtain ⟨c, t, rfl⟩ := List.exists_cons_of_ne_nil h.ne_nil
  exact startsOutside_cons.mpr (h.not_blank c List.mem_cons_self)

namespace Text
variable {a gap s t z : Text}

theorem trimStart_append (h : ∀ c ∈ gap, isBlank c = true) (s : Text) : trimStart (gap ++ s) = trimStart s :=
  List.dropWhile_append_of_pos h

theorem trimStart_of_startsOutside (h : StartsOutside isBlank s) : trimStart s = s := dropWhile_of_startsOutside h

theorem exists_blanks_append (s : Text) : ∃ gap, s = gap ++ trimStart s ∧ ∀ c ∈ gap, isBlank c = true :=
  ⟨s.takeWhile isBlank, List.takeWhile_append_dropWhile.symm, fun _ hc => List.mem_takeWhile_imp hc⟩

theorem exists_trimEnd_append (s : Text) : ∃ z, s = trimEnd s ++ z ∧ ∀ c ∈ z, isBlank c = true := by
  refine ⟨s.rtakeWhile isBlank, ?_, fun c hc => List.mem_rtakeWhile_imp hc⟩
  rw [trimEnd, dropEndWhile_eq_rdropWhile, List.rdropWhile_append_rtakeWhile]

theorem exists_trim_append (s : Text) :
    ∃ a z, s = a ++ (trim s ++ z) ∧ (∀ c ∈ a, isBlank c = true) ∧ ∀ c ∈ z, isBlank c = true := by
  obtain ⟨a, hs, ha⟩ := exists_blanks_append s
  obtain ⟨z, hz, hblank⟩ := exists_trimEnd_append (trimStart s)
  refine ⟨a, z, ?_, ha, hblank⟩
  rw [trim, ← hz, ← hs]

theorem trim_append_left (ha : ∀ c ∈ a, isBlank c = true) (s : Text) : trim (a ++ s) = trim s := by
  rw [trim, trimStart_append ha, trim]

theorem trim_append_right (hz : ∀ c ∈ z, isBlank c = true) (s : Text) : trim (s ++ z) = trim s := by
  rw [trim, trim, trimStart, trimStart, List.dropWhile_append]
  split
  · next hnil =>
    rw [List.isEmpty_iff.mp hnil, List.dropWhile_eq_nil_iff.mpr hz]
  · rw [trimEnd, trimEnd, dropEndWhile, dropEndWhile, List.reverse_append,
      List.dropWhile_append_of_pos fun c hc => hz c (List.mem_reverse.mp hc)]

theorem trim_of_ends (hs : StartsOutside isBlank (s ++ t)) (ht : IsSolid t) : trim (s ++ t) = s ++ t := by
  rw [trim, trimStart_of_startsOutside hs, trimEnd, dropEndWhile_eq_rdropWhile, List.rdropWhile_eq_self_iff]
  intro hne
  rw [List.getLast_append_of_ne_nil hne ht.ne_nil, ht.not_blank _ (List.getLast_mem ht.ne_nil)]
  exact Bool.false_ne_true

theorem trim_of_isSolid (ht : IsSolid t) : trim t = t := by
  have hstart := ht.startsOutside []
  rw [List.append_nil] at hstart
  exact trim_of_ends (s := []) hstart ht

/-- White space at the ends does not matter to what stands before the first `c`, once that is trimmed too. -/
theorem trim_takeWhile_trim {c : Char} (hc : isBlank c = false) (s : Text) :
    trim ((trim s).takeWhile (· ≠ c)) = trim (s.takeWhile (· ≠ c)) := by
  obtain ⟨a, z, hs, ha, hz⟩ := exists_trim_append s
  have keep : ∀ {b : Text}, (∀ d ∈ b, isBlank d = true) → ∀ d ∈ b, decide (d ≠ c) = true := by
    intro b hb d hd
    refine decide_eq_true fun hdc => ?_
    rw [← hdc, hb d hd] at hc
    cases hc
  have hcut : s.takeWhile (· ≠ c) = a ++ (trim s ++ z).takeWhile (· ≠ c) := by
    conv_lhs => rw [hs]
    exact List.takeWhile_append_of_pos (keep ha)
  rw [hcut, trim_append_left ha, List.takeWhile_append]
  split
  · next hall =>
    have hself : (trim s).takeWhile (· ≠ c) = trim s := (List.takeWhile_prefix _).eq_of_length hall
    rw [hself, List.takeWhile_eq_self_iff.mpr (keep hz), trim_append_right hz]
  · rfl

/-- `t` is what is left of the text without white space at its ends. -/
structure Trims (s t : Text) : Prop where
  around : ∃ a z, s = a ++ (t ++ z) ∧ (∀ c ∈ a, isBlank c = true) ∧ ∀ c ∈ z, isBlank c = true
  first : ∀ c ∈ t.head?, isBlank c = false
  last : ∀ c ∈ t.getLast?, isBlank c = false

theorem trims_trim (s : Text) : Trims s (trim s) where
  around := exists_trim_append s
  first c hc := by
    obtain ⟨z, hz, -⟩ := exists_trimEnd_append (trimStart s)
    refine startsOutside_dropWhile isBlank s c ?_
    change c ∈ (trimStart s).head?
    rw [hz]
    exact List.mem_head?_append_of_mem_head? hc
  last c hc := by
    rw [trim, trimEnd, dropEndWhile, List.getLast?_reverse] at hc
    exact startsOutside_dropWhile isBlank _ c hc

theorem Trims.eq_trim {s t : Text} (h : Trims s t) : t = trim s := by
  obtain ⟨a, z, rfl, ha, hz⟩ := h.around
  rw [trim_append_left ha, trim_append_right hz]
  rcases List.eq_nil_or_concat' t with rfl | ⟨u, c, rfl⟩
  · rfl
  · have hc : IsSolid [c] := ⟨List.cons_ne_nil c [], by simpa using h.last c (by simp)⟩
    exact (trim_of_ends h.first hc).symm

theorem trims_iff {s t : Text} : Trims s t ↔ t = trim s := ⟨Trims.eq_trim, fun h => h ▸ trims_trim s⟩

end Text
end Cloak
