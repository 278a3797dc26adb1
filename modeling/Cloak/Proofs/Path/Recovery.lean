import Cloak.Proofs.Path.SeededName

/-! What an output path tells. It differs from the input in its last component alone. A file name is divided in one way only, and
    digits at the end of its stem do not change where it is divided: so from an output that was made with a seed of five digits
    one can read its input and the seed. -/

namespace Cloak.Path

/-! ### Stem and extension -/

/-- A file name is divided at its last dot. A name without a dot, or with no dot but a leading one, is all stem. -/
inductive Divides : Segment → Segment → Option Segment → Prop where
  | whole {name : Segment} : 46 ∉ name.tail → Divides name name none
  | cut {stem extension : Segment} : stem ≠ [] → 46 ∉ extension → Divides (stem ++ 46 :: extension) stem (some extension)

theorem dot_mem_tail {stem extension : Segment} (h : stem ≠ []) : 46 ∈ (stem ++ 46 :: extension).tail := by
  cases stem with
  | nil => exact absurd rfl h
  | cons c stem => simp

theorem eq_of_append_dot_eq {a b c d : Segment} (h : a ++ 46 :: b = c ++ 46 :: d) (hb : 46 ∉ b) (hd : 46 ∉ d) :
    a = c ∧ b = d := by
  rcases List.append_eq_append_iff.mp h with ⟨x, hc, hx⟩ | ⟨x, ha, hx⟩
  · cases x with
    | nil => simp_all
    | cons e x =>
      obtain ⟨-, rfl⟩ := List.cons.inj hx
      simp at hb
  · cases x with
    | nil => simp_all
    | cons e x =>
      obtain ⟨-, rfl⟩ := List.cons.inj hx
      simp at hd

theorem Divides.unique {name stem stem' : Segment} {extension extension' : Option Segment} (h : Divides name stem extension)
    (h' : Divides name stem' extension') : stem = stem' ∧ extension = extension' := by
  generalize hname : name = other at h'
  cases h with
  | whole hfree =>
    cases h' with
    | whole _ => exact ⟨hname, rfl⟩
    | cut hne _ =>
      rw [hname] at hfree
      exact absurd (dot_mem_tail hne) hfree
  | cut hne hfree =>
    cases h' with
    | whole hfree' =>
      rw [← hname] at hfree'
      exact absurd (dot_mem_tail hne) hfree'
    | cut _ hfree' =>
      obtain ⟨rfl, rfl⟩ := eq_of_append_dot_eq hname hfree hfree'
      exact ⟨rfl, rfl⟩

theorem Divides.name_unique {name name' stem : Segment} {extension : Option Segment} (h : Divides name stem extension)
    (h' : Divides name' stem extension) : name = name' := by
  cases h with
  | whole _ => cases h' with | whole _ => rfl
  | cut _ _ => cases h' with | cut _ _ => rfl

theorem divides_splitName (name : Segment) : Divides name (splitName name).1 (splitName name).2 := by
  rcases splitName_cases name with ⟨hsplit, hfree⟩ | ⟨stem, extension, hsplit, rfl, hne, hfree⟩
  · rw [hsplit]
    exact .whole hfree
  · rw [hsplit]
    exact .cut hne hfree

theorem isSome_seededName? {name stem : Segment} {extension : Option Segment} (h : Divides name stem extension) (seed : Nat) :
    (seededName? name seed).isSome = (Utf8.decode? stem).isSome := by
  obtain ⟨rfl, rfl⟩ := h.unique (divides_splitName name)
  rw [seededName?]
  rcases splitName name with ⟨stem, extension⟩
  cases hdecode : Utf8.decode? stem with
  | none => simp [hdecode]
  | some s => cases extension <;> simp [hdecode]

/-! ### Digits at the end of a stem -/

theorem dot_not_mem_digits (seed : Nat) : 46 ∉ Utf8.encode (Text.decimal seed) := fun h =>
  absurd (mem_encode_decimal h) (by decide)

theorem seededName?_ne {name seeded : Segment} {seed : Nat} (h : seededName? name seed = some seeded) : seeded ≠ name := by
  have hdigits := encode_decimal_ne_nil seed
  rcases seededName?_cases h with rfl | ⟨stem, extension, rfl, rfl | rfl⟩
  · simpa using hdigits
  · simpa using hdigits
  · -- The extension was left out, and its dot is no digit.
    intro heq
    have hdot : 46 ∈ Utf8.encode (Text.decimal seed) := by
      rw [List.append_cancel_left heq]
      exact List.mem_cons_self
    exact dot_not_mem_digits seed hdot

theorem Seeded.exists_divides {digits name seeded : Segment} (h : Seeded digits name seeded) (hdigits : 46 ∉ digits) :
    ∃ stem extension, Divides name stem extension ∧ Divides seeded (stem ++ digits) extension := by
  cases h with
  | plain hfree =>
    refine ⟨name, none, .whole hfree, .whole ?_⟩
    cases name with
    | nil => exact fun hmem => hdigits (List.mem_of_mem_tail hmem)
    | cons c name => simpa using ⟨hfree, hdigits⟩
  | @extended stem extension hne hfree => exact ⟨stem, some extension, .cut hne hfree, .cut (by simp [hne]) hfree⟩

theorem Seeded.injective {digits digits' name name' seeded : Segment} (h : Seeded digits name seeded)
    (h' : Seeded digits' name' seeded) (hd : 46 ∉ digits) (hd' : 46 ∉ digits') (hl : digits.length = digits'.length) :
    name = name' ∧ digits = digits' := by
  obtain ⟨stem, extension, hname, hseeded⟩ := h.exists_divides hd
  obtain ⟨stem', extension', hname', hseeded'⟩ := h'.exists_divides hd'
  obtain ⟨hstem, rfl⟩ := hseeded.unique hseeded'
  obtain ⟨rfl, rfl⟩ := List.append_inj' hstem hl
  exact ⟨hname.name_unique hname', rfl⟩

theorem encode_decimal_injective {m n : Nat} (h : Utf8.encode (Text.decimal m) = Utf8.encode (Text.decimal n)) : m = n := by
  rw [← (spellsDecimal_encode m).value, h, (spellsDecimal_encode n).value]

/-! ### The last component -/

theorem front_of_void {l front : List Segment} {last : Segment} (h : trimVoid l = front ++ [last]) (hlast : last.isVoid = true) :
    front = [] := by
  cases l with
  | nil => simp [trimVoid] at h
  | cons first rest =>
    cases front with
    | nil => rfl
    | cons f front =>
      have hrest : rest.rdropWhile Segment.isVoid = front ++ [last] := (List.cons.inj h).2
      have hsolid := List.rdropWhile_last_not Segment.isVoid rest (by simp [hrest])
      simp [hrest, hlast] at hsolid

theorem normal_not_mem_start (p : Path) (name : Segment) : Component.normal name ∉ p.start := by
  unfold start
  split
  · simp
  · split <;> simp

theorem exists_directory {p : Path} {name : Segment} (h : p.fileName? = some name) :
    ∃ directory, p.components = directory ++ [.normal name] := by
  obtain ⟨-, -, -, hnormal⟩ := exists_front h
  obtain ⟨directory, hcomponents, -⟩ := components_withFileName h hnormal (separator_not_mem_of_fileName? h)
  exact ⟨directory, hcomponents⟩

theorem fileName?_eq_some_iff {p : Path} {name : Segment} :
    p.fileName? = some name ↔ p.components.getLast? = some (.normal name) := by
  constructor
  · intro h
    obtain ⟨directory, hcomponents⟩ := exists_directory h
    rw [hcomponents, List.getLast?_concat]
  intro h
  cases hname : p.fileName? with
  | some other =>
    obtain ⟨directory, hcomponents⟩ := exists_directory hname
    rw [hcomponents, List.getLast?_concat] at h
    cases h
    rfl
  | none =>
    -- The last segment that counts for a file name is void and then the only one, or it is `..`.
    exfalso
    rcases List.eq_nil_or_concat' (trimVoid p.segments) with hnil | ⟨front, last, hlast⟩
    · cases hsegments : p.segments with
      | nil => exact List.splitOn_ne_nil separator p.bytes hsegments
      | cons first rest =>
        rw [hsegments] at hnil
        cases hnil
    rw [components, ← filter_trimVoid, hlast] at h
    rw [fileName?, hlast, List.getLast?_concat] at hname
    cases hvoid : last.isVoid with
    | true =>
      rw [front_of_void hlast hvoid] at h
      have hmem := List.mem_of_getLast? h
      simp [hvoid, normal_not_mem_start] at hmem
    | false =>
      have hup : last = Segment.up := by simpa [Segment.isNormal, hvoid] using hname
      subst hup
      simp [hvoid, componentOf] at h

theorem fileName?_of_components {p : Path} {directory : List Component} {name : Segment}
    (h : p.components = directory ++ [.normal name]) : p.fileName? = some name :=
  fileName?_eq_some_iff.mpr (by rw [h, List.getLast?_concat])

/-! ### Output paths -/

theorem exists_of_output? {input output : Path} {seed : Nat} (h : input.output? seed = some output) :
    ∃ directory name seeded, input.fileName? = some name ∧ seededName? name seed = some seeded ∧
      output.segments = input.parentSegments ++ [seeded] ∧ input.components = directory ++ [.normal name] ∧
      output.components = directory ++ [.normal seeded] := by
  obtain ⟨name, hname, h⟩ := Option.bind_eq_some_iff.mp h
  obtain ⟨seeded, hseeded, h⟩ := Option.bind_eq_some_iff.mp h
  cases h
  have hsep := separator_not_mem_seededName hseeded (separator_not_mem_of_fileName? hname)
  have hnormal := isNormal_of_digit (exists_digit_of_seededName? hseeded)
  obtain ⟨directory, hinput, houtput⟩ := components_withFileName hname hnormal hsep
  exact ⟨directory, name, seeded, hname, hseeded, segments_withFileName input hsep, hinput, houtput⟩

theorem output?_eq_none_iff (input : Path) (seed : Nat) :
    input.output? seed = none ↔ (∀ name, input.components.getLast? ≠ some (.normal name)) ∨
      ∃ name stem extension, input.components.getLast? = some (.normal name) ∧ Divides name stem extension ∧
        Utf8.decode? stem = none := by
  simp only [Ne, ← fileName?_eq_some_iff]
  cases hname : input.fileName? with
  | none => simp [output?, hname]
  | some name =>
    have hdivides := divides_splitName name
    have houtput : input.output? seed = (seededName? name seed).map input.withFileName := by
      rw [output?, hname, Option.bind_eq_bind, Option.bind_some]
      cases seededName? name seed <;> rfl
    rw [houtput, Option.map_eq_none_iff, ← Option.not_isSome_iff_eq_none, isSome_seededName? hdivides seed,
      Option.not_isSome_iff_eq_none]
    constructor
    · intro hnone
      exact Or.inr ⟨name, _, _, rfl, hdivides, hnone⟩
    · rintro (hno | ⟨other, stem, extension, hother, hdivides', hnone⟩)
      · exact absurd rfl (hno name)
      · cases hother
        rwa [(hdivides.unique hdivides').1]

/-- With seeds of five digits, the output of a file whose name is UTF-8 tells the input and the seed. -/
theorem eq_of_output_components_eq {p q o o' : Path} {directory directory' : List Component} {name name' : Segment} {m n : Nat}
    (hp : p.components = directory ++ [.normal name]) (hq : q.components = directory' ++ [.normal name'])
    (hname : Utf8.IsUtf8 name) (hname' : Utf8.IsUtf8 name') (hm : 10000 ≤ m ∧ m ≤ 99999) (hn : 10000 ≤ n ∧ n ≤ 99999)
    (ho : p.output? m = some o) (ho' : q.output? n = some o') (h : o.components = o'.components) :
    directory = directory' ∧ name = name' ∧ m = n := by
  obtain ⟨_, seeded, d, hout, -, hseeded, hpd, hod⟩ := output?_of_isUtf8 (fileName?_of_components hp) hname m
  obtain ⟨_, seeded', d', hout', -, hseeded', hqd, hod'⟩ := output?_of_isUtf8 (fileName?_of_components hq) hname' n
  cases ho.symm.trans hout
  cases ho'.symm.trans hout'
  obtain ⟨rfl, -⟩ := List.append_inj' (hp.symm.trans hpd) rfl
  obtain ⟨rfl, -⟩ := List.append_inj' (hq.symm.trans hqd) rfl
  obtain ⟨hdirectory, hlast⟩ := List.append_inj' (hod.symm.trans (h.trans hod')) rfl
  obtain rfl : seeded = seeded' := by simpa using hlast
  have hlength := (length_encode_decimal hm.1 hm.2).trans (length_encode_decimal hn.1 hn.2).symm
  obtain ⟨heq, hdigits⟩ := hseeded.injective hseeded' (dot_not_mem_digits m) (dot_not_mem_digits n) hlength
  exact ⟨hdirectory, heq, encode_decimal_injective hdigits⟩

end Cloak.Path
