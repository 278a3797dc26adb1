import Cloak.Proofs.Path.Output
import Cloak.Proofs.Text.Utf8

/-! The name of an output file. A file name that is UTF-8 is divided at a dot, an ASCII byte, so its stem and its extension are
    UTF-8 too and both are kept: the seeded name differs from the name by the digits of the seed alone. -/

namespace Cloak

/-! ### The digits of a seed -/

/-- The bytes are decimal digits, and read from the left they give `n`. -/
structure SpellsDecimal (digits : Bytes) (n : Nat) : Prop where
  digit : ∀ b ∈ digits, 48 ≤ b ∧ b ≤ 57
  value : digits.foldl (fun v b => 10 * v + (b.toNat - 48)) 0 = n

section
variable {s : Text} (h : ∀ c ∈ s, c.isDigit = true)
include h

theorem length_encode_of_isDigit : (Utf8.encode s).length = s.length := by
  induction s with
  | nil => rfl
  | cons c s ih =>
    obtain ⟨hc, hs⟩ := List.forall_mem_cons.mp h
    obtain ⟨b, hb, -⟩ := utf8EncodeChar_of_isDigit hc
    rw [Utf8.encode, List.flatMap_cons, hb, List.singleton_append, List.length_cons, List.length_cons, ← ih hs]
    rfl

theorem foldl_encode_of_isDigit (v : Nat) :
    (Utf8.encode s).foldl (fun v b => 10 * v + (b.toNat - 48)) v = Nat.ofDigitChars 10 s v := by
  induction s generalizing v with
  | nil => rfl
  | cons c s ih =>
    obtain ⟨hc, hs⟩ := List.forall_mem_cons.mp h
    obtain ⟨b, hb, hvalue, -⟩ := utf8EncodeChar_of_isDigit hc
    rw [Nat.ofDigitChars_cons, ← ih hs, Utf8.encode, List.flatMap_cons, hb, List.singleton_append, List.foldl_cons, hvalue]
    rfl

end

theorem spellsDecimal_encode (n : Nat) : SpellsDecimal (Utf8.encode (Text.decimal n)) n where
  digit _ hb := mem_encode_decimal hb
  value := (foldl_encode_of_isDigit (fun _ hc => isDigit_of_mem_decimal hc) 0).trans Nat.ofDigitChars_ten_toDigits

theorem length_encode_decimal {n : Nat} (hlow : 10000 ≤ n) (hhigh : n ≤ 99999) : (Utf8.encode (Text.decimal n)).length = 5 := by
  have hfive : (Text.decimal n).length ≤ 5 := (Nat.length_toDigits_le_iff (by decide) (by decide)).mpr (by omega)
  have hfour : ¬ (Text.decimal n).length ≤ 4 := fun hle => by
    have := (Nat.length_toDigits_le_iff (by decide) (by decide)).mp hle
    omega
  rw [length_encode_of_isDigit fun c hc => isDigit_of_mem_decimal hc]
  omega

namespace Path

/-! ### Seeded names -/

/-- `digits` stand between the stem and the extension of a name, or at its end if it has no extension. The extension comes after
    the last dot; a dot at the beginning of a name starts none. -/
inductive Seeded (digits : Bytes) : Segment → Segment → Prop where
  | plain {name : Segment} : 46 ∉ name.tail → Seeded digits name (name ++ digits)
  | extended {stem extension : Segment} : stem ≠ [] → 46 ∉ extension →
      Seeded digits (stem ++ 46 :: extension) (stem ++ digits ++ 46 :: extension)

theorem seededName?_of_isUtf8 {name : Segment} (h : Utf8.IsUtf8 name) (seed : Nat) :
    ∃ seeded, seededName? name seed = some seeded ∧ Seeded (Utf8.encode (Text.decimal seed)) name seeded := by
  unfold seededName?
  rcases splitName_cases name with ⟨hsplit, hfree⟩ | ⟨stem, extension, hsplit, rfl, hstem, hfree⟩
  · obtain ⟨s, hs⟩ := Option.isSome_iff_exists.mp (Utf8.isSome_decode?_iff.mpr h)
    exact ⟨_, by rw [hsplit]; simp [hs], .plain hfree⟩
  · obtain ⟨hstem', hextension⟩ := Utf8.IsUtf8.of_append_cons (by decide) h
    obtain ⟨s, hs⟩ := Option.isSome_iff_exists.mp (Utf8.isSome_decode?_iff.mpr hstem')
    refine ⟨_, ?_, .extended hstem hfree⟩
    rw [hsplit]
    simp [hs, Utf8.isSome_decode?_iff.mpr hextension]

/-! ### The directory -/

theorem filter_dropEndWhile {dropped : Segment → Bool} (h : ∀ s, dropped s = true → s.isVoid = true) (l : List Segment) :
    (dropEndWhile dropped l).filter (!·.isVoid) = l.filter (!·.isVoid) := by
  have hvoid : (l.rtakeWhile dropped).filter (!·.isVoid) = [] := by
    rw [List.filter_eq_nil_iff]
    intro s hs
    simp [h s (List.mem_rtakeWhile_imp hs)]
  conv_rhs => rw [← List.rdropWhile_append_rtakeWhile (p := dropped) (l := l), List.filter_append, hvoid, List.append_nil]
  rw [dropEndWhile_eq_rdropWhile]

theorem filter_trimVoid (l : List Segment) : (trimVoid l).filter (!·.isVoid) = l.filter (!·.isVoid) := by
  cases l with
  | nil => rfl
  | cons first rest => rw [trimVoid, List.filter_cons, List.filter_cons, filter_dropEndWhile fun _ => id]

/-- A path begins at the root if its first segment is empty and not its last. -/
theorem start_eq {p : Path} {first : Segment} {rest : List Segment} (h : p.segments = first :: rest) :
    p.start = if first = [] ∧ rest ≠ [] then [.root] else if first = Segment.here then [.here] else [] := by
  have hbytes : [separator].intercalate (first :: rest) = p.bytes := h ▸ List.intercalate_splitOn separator
  have hfirst : separator ∉ first := separator_not_mem_of_mem_segments (h ▸ List.mem_cons_self)
  have hroot : p.bytes.head? = some separator ↔ first = [] ∧ rest ≠ [] := by
    rw [← hbytes]
    cases first with
    | nil => cases rest <;> simp [List.intercalate]
    | cons b first =>
      have hb : b ≠ separator := fun heq => hfirst (heq ▸ List.mem_cons_self)
      cases rest <;> simp [List.intercalate, hb]
  simp [start, hroot, h]

theorem start_of_isNormal {p : Path} {first : Segment} {rest : List Segment} (h : p.segments = first :: rest)
    (hfirst : first.isNormal = true) : p.start = [] := by
  have hne : ∀ s : Segment, s.isNormal = false → first ≠ s := by
    rintro s hs rfl
    exact absurd hfirst (Bool.not_eq_true _ ▸ hs)
  rw [start_eq h, if_neg fun hroot => hne [] rfl hroot.1, if_neg (hne Segment.here (by decide))]

section
variable {p : Path} {front : List Segment} {name : Segment}

theorem fileName?_of_segments (hp : p.segments = front ++ [name]) (hname : name.isNormal = true) : p.fileName? = some name := by
  have hsolid : name.isVoid = false := by
    simpa using (Bool.and_eq_true_iff.mp hname).1
  have hlast : (trimVoid (front ++ [name])).getLast? = some name := by
    cases front with
    | nil => rfl
    | cons first front =>
      rw [List.cons_append, trimVoid, dropEndWhile_eq_rdropWhile, List.rdropWhile_concat_neg _ _ _ (by simp [hsolid]),
        ← List.cons_append, List.getLast?_concat]
  rw [fileName?, hp, hlast, Option.filter_some, if_pos hname]

theorem map_componentOf_concat (front : List Segment) (h : name.isNormal = true) :
    ((front ++ [name]).filter (!·.isVoid)).map componentOf = (front.filter (!·.isVoid)).map componentOf ++ [.normal name] := by
  obtain ⟨hsolid, hup⟩ := Bool.and_eq_true_iff.mp h
  have hnormal : componentOf name = .normal name := if_neg (bne_iff_ne.mp hup)
  rw [List.filter_append, List.filter_cons, if_pos hsolid, List.filter_nil, List.map_append, List.map_singleton, hnormal]

theorem exists_front (h : p.fileName? = some name) :
    ∃ front, trimVoid p.segments = front ++ [name] ∧ p.parentSegments = trimVoid front ∧ name.isNormal = true := by
  obtain ⟨hlast, hnormal⟩ := Option.filter_eq_some_iff.mp h
  obtain ⟨front, hfront⟩ := List.getLast?_eq_some_iff.mp hlast
  exact ⟨front, hfront, by rw [parentSegments, hfront, List.dropLast_concat], hnormal⟩

variable {other : Segment} (hname : p.fileName? = some name) (hother : other.isNormal = true) (hsep : separator ∉ other)
include hname hother hsep

theorem start_withFileName : (p.withFileName other).start = p.start := by
  obtain ⟨front, hfront, hparent, hnormal⟩ := exists_front hname
  have hsegments := hparent ▸ segments_withFileName p hsep
  cases hp : p.segments with
  | nil =>
    rw [hp] at hfront
    cases (List.append_eq_nil_iff.mp hfront.symm).2
  | cons first rest =>
    rw [hp, trimVoid] at hfront
    cases front with
    | nil =>
      obtain ⟨rfl, -⟩ := List.cons.inj hfront
      rw [start_of_isNormal hp hnormal, start_of_isNormal hsegments hother]
    | cons f front =>
      obtain ⟨rfl, hrest⟩ := List.cons.inj hfront
      have hne : rest ≠ [] := by
        rintro rfl
        cases (List.append_eq_nil_iff.mp hrest.symm).2
      rw [start_eq hp, start_eq hsegments]
      simp [hne]

/-- Another normal name at the end is another last component, and all before it stays. -/
theorem components_withFileName :
    ∃ directory, p.components = directory ++ [.normal name] ∧ (p.withFileName other).components = directory ++ [.normal other] := by
  obtain ⟨front, hfront, hparent, hnormal⟩ := exists_front hname
  have hsegments := hparent ▸ segments_withFileName p hsep
  refine ⟨p.start ++ (front.filter (!·.isVoid)).map componentOf, ?_, ?_⟩
  · rw [components, ← filter_trimVoid, hfront, map_componentOf_concat front hnormal, List.append_assoc]
  · rw [components, start_withFileName hname hother hsep, hsegments, map_componentOf_concat (trimVoid front) hother,
      filter_trimVoid, List.append_assoc]

end

/-- A file whose name is UTF-8 has an output: the file of the seeded name in the same directory. -/
theorem output?_of_isUtf8 {input : Path} {name : Segment} (hname : input.fileName? = some name) (h : Utf8.IsUtf8 name) (seed : Nat) :
    ∃ output seeded directory, input.output? seed = some output ∧ output.fileName? = some seeded ∧
      Seeded (Utf8.encode (Text.decimal seed)) name seeded ∧
      input.components = directory ++ [.normal name] ∧ output.components = directory ++ [.normal seeded] := by
  obtain ⟨seeded, hseeded, hinserted⟩ := seededName?_of_isUtf8 h seed
  have hnormal := isNormal_of_digit (exists_digit_of_seededName? hseeded)
  have hsep := separator_not_mem_seededName hseeded (separator_not_mem_of_fileName? hname)
  obtain ⟨directory, hinput, houtput⟩ := components_withFileName hname hnormal hsep
  refine ⟨input.withFileName seeded, seeded, directory, ?_, ?_, hinserted, hinput, houtput⟩
  · rw [output?, hname, Option.bind_eq_bind, Option.bind_some, hseeded]
    rfl
  · exact fileName?_of_segments (segments_withFileName input hsep) hnormal

end Path
end Cloak
