import Cloak.Proofs.FileTree.Writing
import Cloak.Proofs.Text.Cut
import Mathlib.Data.List.TakeDrop
import Mathlib.Data.List.TakeWhile

/-! The path of an output file. Its last segment is made of the bytes of the input's file name with the digits of the seed among
    them, so it is a name of its own in the same directory, and never the name of a device. -/

namespace Cloak

theorem isDigit_of_mem_decimal {n : Nat} {c : Char} (h : c ∈ Text.decimal n) : c.isDigit = true :=
  Nat.isDigit_of_mem_toDigits (by decide) (by decide) h

/-- A decimal digit is one byte. -/
theorem utf8EncodeChar_of_isDigit {c : Char} (h : c.isDigit = true) :
    ∃ b : UInt8, String.utf8EncodeChar c = [b] ∧ b.toNat = c.toNat ∧ 48 ≤ b ∧ b ≤ 57 := by
  have all : ∀ n < 128, (Char.ofNat n).isDigit = true → ∃ b ∈ String.utf8EncodeChar (Char.ofNat n),
      String.utf8EncodeChar (Char.ofNat n) = [b] ∧ b.toNat = (Char.ofNat n).toNat ∧ 48 ≤ b ∧ b ≤ 57 := by decide
  have hlt : c.toNat < 128 := by
    simp only [Char.isDigit, Bool.and_eq_true, decide_eq_true_eq] at h
    exact Nat.lt_of_le_of_lt h.2 (by decide)
  have hc := all c.toNat hlt
  rw [Char.ofNat_toNat] at hc
  obtain ⟨b, -, hb⟩ := hc h
  exact ⟨b, hb⟩

theorem mem_encode_decimal {n : Nat} {b : UInt8} (h : b ∈ Utf8.encode (Text.decimal n)) : 48 ≤ b ∧ b ≤ 57 := by
  obtain ⟨c, hc, hb⟩ := List.mem_flatMap.mp h
  obtain ⟨d, hd, -, hrange⟩ := utf8EncodeChar_of_isDigit (isDigit_of_mem_decimal hc)
  rw [hd, List.mem_singleton] at hb
  exact hb ▸ hrange

theorem encode_decimal_ne_nil (n : Nat) : Utf8.encode (Text.decimal n) ≠ [] := by
  obtain ⟨c, digits, hcons⟩ := List.exists_cons_of_ne_nil (Nat.toDigits_ne_nil (n := n) (b := 10))
  have hc : c ∈ Text.decimal n := by
    rw [Text.decimal, hcons]
    exact List.mem_cons_self
  obtain ⟨b, hb, -⟩ := utf8EncodeChar_of_isDigit (isDigit_of_mem_decimal hc)
  intro hnil
  have hmem : b ∈ Utf8.encode (Text.decimal n) := List.mem_flatMap.mpr ⟨c, hc, hb ▸ List.mem_cons_self⟩
  rw [hnil] at hmem
  cases hmem

namespace Path

theorem separator_not_mem_of_mem_segments {p : Path} {s : Segment} (h : s ∈ p.segments) : separator ∉ s := by
  intro hmem
  have := not_of_mem_splitOnP h separator hmem
  simp at this

/-! ### File names -/

/-- A file name has no dot but perhaps a leading one, or is its stem, its last dot and its extension. -/
theorem splitName_cases (name : Segment) :
    splitName name = (name, none) ∧ 46 ∉ name.tail ∨
      ∃ stem extension, splitName name = (stem, some extension) ∧ name = stem ++ 46 :: extension ∧ stem ≠ [] ∧ 46 ∉ extension := by
  have hspan := List.takeWhile_append_dropWhile (p := fun b : UInt8 => decide (b ≠ 46)) (l := name.reverse)
  have hfree : 46 ∉ (name.reverse.takeWhile fun b => decide (b ≠ 46)).reverse := fun hmem => by
    simpa using List.mem_takeWhile_imp (List.mem_reverse.mp hmem)
  unfold splitName
  rw [List.span_eq_takeWhile_dropWhile]
  cases hdrop : name.reverse.dropWhile (fun b => decide (b ≠ 46)) with
  | nil =>
    rw [hdrop, List.append_nil] at hspan
    rw [hspan, List.reverse_reverse] at hfree
    exact Or.inl ⟨by simp, fun hmem => hfree (List.mem_of_mem_tail hmem)⟩
  | cons dot stem =>
    have hdot : dot = 46 := by
      have := List.head?_dropWhile_not (fun b : UInt8 => decide (b ≠ 46)) name.reverse
      rw [hdrop] at this
      simpa using this
    rw [hdrop, hdot, List.append_cons] at hspan
    have hname := congrArg List.reverse hspan
    rw [List.reverse_reverse, List.reverse_append, List.reverse_concat] at hname
    cases stem with
    | nil => exact Or.inl ⟨by simp, by rw [← hname]; exact hfree⟩
    | cons b stem => exact Or.inr ⟨(b :: stem).reverse, _, by simp, hname.symm, by simp, hfree⟩

/-- The digits of a seed come at the end of a name, or at the end of its stem, and then the extension follows or is left out. -/
theorem seededName?_cases {name seeded : Segment} {seed : Nat} (h : seededName? name seed = some seeded) :
    seeded = name ++ Utf8.encode (Text.decimal seed) ∨ ∃ stem extension, name = stem ++ 46 :: extension ∧
      (seeded = stem ++ Utf8.encode (Text.decimal seed) ++ 46 :: extension ∨ seeded = stem ++ Utf8.encode (Text.decimal seed)) := by
  unfold seededName? at h
  rcases splitName_cases name with ⟨hsplit, -⟩ | ⟨stem, extension, hsplit, hname, -, -⟩
  · rw [hsplit] at h
    obtain ⟨-, -, h⟩ := Option.bind_eq_some_iff.mp h
    cases h
    exact Or.inl rfl
  · rw [hsplit] at h
    obtain ⟨-, -, h⟩ := Option.bind_eq_some_iff.mp h
    simp only [Option.pure_def, Option.some.injEq] at h
    refine Or.inr ⟨stem, extension, hname, ?_⟩
    split at h
    · exact Or.inl h.symm
    · exact Or.inr h.symm

/-- A seeded name is the digits of the seed between bytes of the name. -/
theorem seededName?_eq_some {name seeded : Segment} {seed : Nat} (h : seededName? name seed = some seeded) :
    ∃ before after, seeded = before ++ Utf8.encode (Text.decimal seed) ++ after ∧ ∀ b ∈ before ++ after, b ∈ name := by
  rcases seededName?_cases h with rfl | ⟨stem, extension, rfl, rfl | rfl⟩
  · exact ⟨name, [], by simp, by simp⟩
  · exact ⟨stem, 46 :: extension, rfl, fun _ => id⟩
  · exact ⟨stem, [], by simp, fun b hb => by simp_all⟩

section
variable {name seeded : Segment} {seed : Nat} (h : seededName? name seed = some seeded)
include h

theorem separator_not_mem_seededName (hname : separator ∉ name) : separator ∉ seeded := by
  obtain ⟨before, after, rfl, hbytes⟩ := seededName?_eq_some h
  intro hsep
  rw [List.mem_append, List.mem_append] at hsep
  rcases hsep with (hsep | hsep) | hsep
  · exact hname (hbytes _ (List.mem_append_left _ hsep))
  · exact absurd (mem_encode_decimal hsep) (by decide)
  · exact hname (hbytes _ (List.mem_append_right _ hsep))

theorem exists_digit_of_seededName? : ∃ b ∈ seeded, 48 ≤ b ∧ b ≤ 57 := by
  obtain ⟨before, after, rfl, -⟩ := seededName?_eq_some h
  obtain ⟨b, hb⟩ := List.exists_mem_of_ne_nil _ (encode_decimal_ne_nil seed)
  exact ⟨b, by simp [hb], mem_encode_decimal hb⟩

end

theorem ne_of_digit {s : Segment} (h : ∃ b ∈ s, 48 ≤ b ∧ b ≤ 57) {t : Segment}
    (ht : (t.all fun b => !(decide (48 ≤ b) && decide (b ≤ 57))) = true) : s ≠ t := by
  rintro rfl
  obtain ⟨b, hb, hlow, hhigh⟩ := h
  have := List.all_eq_true.mp ht b hb
  simp [hlow, hhigh] at this

theorem isNormal_of_digit {s : Segment} (h : ∃ b ∈ s, 48 ≤ b ∧ b ≤ 57) : s.isNormal = true := by
  have hempty : s ≠ [] := ne_of_digit h (by decide)
  have hhere : s ≠ Segment.here := ne_of_digit h (by decide)
  have hup : s ≠ Segment.up := ne_of_digit h (by decide)
  simp [Segment.isNormal, Segment.isVoid, hempty, hhere, hup]

/-! ### The last segment -/

theorem mem_of_mem_trimVoid {s : Segment} {segments : List Segment} (h : s ∈ trimVoid segments) : s ∈ segments := by
  cases segments with
  | nil => cases h
  | cons first rest =>
    rcases List.mem_cons.mp h with rfl | h
    · exact List.mem_cons_self
    · exact List.mem_cons_of_mem first ((List.rdropWhile_prefix _ _).subset h)

theorem mem_segments_of_mem_parentSegments {p : Path} {s : Segment} (h : s ∈ p.parentSegments) : s ∈ p.segments :=
  mem_of_mem_trimVoid ((List.dropLast_sublist _).subset (mem_of_mem_trimVoid h))

theorem segments_withFileName (p : Path) {name : Segment} (h : separator ∉ name) :
    (p.withFileName name).segments = p.parentSegments ++ [name] := by
  refine List.splitOn_intercalate separator (fun s hs => ?_) (by simp)
  rcases List.mem_append.mp hs with hs | hs
  · exact separator_not_mem_of_mem_segments (mem_segments_of_mem_parentSegments hs)
  · rwa [List.mem_singleton.mp hs]

theorem separator_not_mem_of_fileName? {p : Path} {name : Segment} (h : p.fileName? = some name) : separator ∉ name := by
  obtain ⟨hlast, -⟩ := Option.filter_eq_some_iff.mp h
  exact separator_not_mem_of_mem_segments (mem_of_mem_trimVoid (List.mem_of_getLast? hlast))

/-- The output path ends with a segment that holds a digit, in the directory of the input. -/
theorem output?_eq_some {input output : Path} {seed : Nat} (h : input.output? seed = some output) :
    ∃ seeded, output.segments = input.parentSegments ++ [seeded] ∧ ∃ b ∈ seeded, 48 ≤ b ∧ b ≤ 57 := by
  obtain ⟨name, hname, h⟩ := Option.bind_eq_some_iff.mp h
  obtain ⟨seeded, hseeded, h⟩ := Option.bind_eq_some_iff.mp h
  cases h
  have hsep := separator_not_mem_seededName hseeded (separator_not_mem_of_fileName? hname)
  exact ⟨seeded, segments_withFileName input hsep, exists_digit_of_seededName? hseeded⟩

end Path

/-! ### Where the path leads -/

namespace FileTree

/-- A path leads to its last segment in some directory, if that is a normal one. -/
theorem last_eq_of_target {t : FileTree} {l : Limits} {p : Path} {g : Target} (h : t.target l p = .ok g) :
    g.last = (dropEndWhile List.isEmpty p.segments).getLast?.filter Segment.isNormal := by
  unfold target at h
  split at h
  · cases h
  split at h
  · cases h
  split at h
  · cases h
  simp only at h
  split at h
  · next last hlast =>
    obtain ⟨d, -, hg⟩ := exists_of_bind_eq_ok h
    cases hg
    exact hlast.symm
  · next hlast =>
    obtain ⟨d, -, hg⟩ := exists_of_bind_eq_ok h
    cases hg
    exact hlast.symm

theorem last_of_target {t : FileTree} {l : Limits} {p : Path} {g : Target} {front : List Segment} {last : Segment}
    (hp : p.segments = front ++ [last]) (hlast : last.isNormal = true) (h : t.target l p = .ok g) : g.last = some last := by
  have hkeep : dropEndWhile List.isEmpty (front ++ [last]) = front ++ [last] := by
    have hne : last.isEmpty = false := by
      cases last with
      | nil => cases hlast
      | cons b s => rfl
    rw [dropEndWhile_eq_rdropWhile, List.rdropWhile_concat_neg _ _ _ (by simp [hne])]
  rw [last_eq_of_target h, hp, hkeep, List.getLast?_concat, Option.filter_some, if_pos hlast]

/-- The output of a run is no device. -/
theorem device?_of_output? {t : FileTree} {l : Limits} {input output : Path} {seed : Nat} (h : input.output? seed = some output)
    {g : Target} (hg : t.target l output = .ok g) : device? g.name = none := by
  obtain ⟨seeded, hsegments, hdigit⟩ := Path.output?_eq_some h
  have hlast : g.name.getLast? = some seeded := by
    rw [Target.name, last_of_target hsegments (Path.isNormal_of_digit hdigit) hg, Option.toList_some, List.getLast?_concat]
  have hdevices : ∀ d ∈ devices,
      (d.1.getLast?.all fun s => s.all fun b => !(decide (48 ≤ b) && decide (b ≤ 57))) = true := by
    decide
  rw [device?, List.lookup_eq_none_iff]
  intro d hd
  refine bne_iff_ne.mpr fun heq => ?_
  have hfree := hdevices d hd
  rw [← heq, hlast] at hfree
  exact Path.ne_of_digit hdigit hfree rfl

end FileTree
end Cloak
