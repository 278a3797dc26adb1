import Cloak.Proofs.Path.SeededName
import Mathlib.Logic.Relation

/-! Ways of writing one path. A separator may be repeated or come at the end, and `.` may stand anywhere but at the beginning:
    none of this adds a component. Conversely, paths with the same components differ by nothing else. So whether a signature is
    declared in a file does not depend on how the two paths were written. -/

namespace Cloak

/-- The bytes by which a component is told from the others. -/
def Component.bytes : Component → Bytes
  | root => [Path.separator]
  | here => Segment.here
  | up => Segment.up
  | normal name => name

namespace Path

/-- The second path is the first with one more separator or one more `.`, not at the beginning. -/
inductive Pads : Path → Path → Prop where
  | repeated (a b : Bytes) : Pads ⟨a ++ separator :: b⟩ ⟨a ++ separator :: separator :: b⟩
  | inserted (a b : Bytes) : Pads ⟨a ++ separator :: b⟩ ⟨a ++ separator :: 46 :: separator :: b⟩
  | appended {a : Bytes} : a ≠ [] → Pads ⟨a⟩ ⟨a ++ [separator, 46]⟩
  | trailing {a : Bytes} : a ≠ [] → Pads ⟨a⟩ ⟨a ++ [separator]⟩

/-! ### Padding keeps the components -/

theorem segments_append (a b : Bytes) : segments ⟨a ++ separator :: b⟩ = segments ⟨a⟩ ++ segments ⟨b⟩ :=
  List.splitOnP_append_cons a b (by simp)

theorem eq_of_isVoid {s : Segment} (h : s.isVoid = true) : s = [] ∨ s = Segment.here := by
  simpa only [Segment.isVoid, Bool.or_eq_true, List.isEmpty_iff, beq_iff_eq] using h

theorem segments_of_isVoid {s : Segment} (h : s.isVoid = true) : segments ⟨s⟩ = [s] := by
  rcases eq_of_isVoid h with rfl | rfl <;> decide

theorem start_append (a b : Bytes) : start ⟨a ++ separator :: b⟩ = if a = [] then [.root] else start ⟨a⟩ := by
  cases a with
  | nil => simp [start]
  | cons c a =>
    have hfirst : (segments ⟨c :: a⟩ ++ segments ⟨b⟩).head? = (segments ⟨c :: a⟩).head? :=
      List.head?_append_of_ne_nil _ (List.splitOn_ne_nil separator (c :: a))
    rw [start, segments_append, hfirst]
    simp [start]

theorem components_append (a b : Bytes) :
    components ⟨a ++ separator :: b⟩ =
      (if a = [] then [.root] else components ⟨a⟩) ++ ((segments ⟨b⟩).filter (!·.isVoid)).map componentOf := by
  rw [components, start_append, segments_append, List.filter_append, List.map_append, ← List.append_assoc]
  split
  · next ha =>
    subst ha
    rfl
  · rfl

theorem components_inserted {s : Segment} (hs : s.isVoid = true) (a b : Bytes) :
    components ⟨a ++ separator :: (s ++ separator :: b)⟩ = components ⟨a ++ separator :: b⟩ := by
  rw [components_append, components_append, segments_append, segments_of_isVoid hs]
  simp [hs]

theorem components_appended {s : Segment} (hs : s.isVoid = true) {a : Bytes} (ha : a ≠ []) :
    components ⟨a ++ separator :: s⟩ = components ⟨a⟩ := by
  rw [components_append, segments_of_isVoid hs]
  simp [hs, ha]

theorem Pads.components_eq {p q : Path} (h : Pads p q) : q.components = p.components := by
  cases h with
  | repeated a b => exact components_inserted (s := []) rfl a b
  | inserted a b => exact components_inserted (s := Segment.here) rfl a b
  | appended ha => exact components_appended (s := Segment.here) rfl ha
  | trailing ha => exact components_appended (s := []) rfl ha

theorem components_eq_of_eqvGen {p q : Path} (h : Relation.EqvGen Pads p q) : p.components = q.components := by
  induction h with
  | rel p q h => exact h.components_eq.symm
  | refl p => rfl
  | symm p q _ ih => exact ih.symm
  | trans p q r _ _ ih ih' => exact ih.trans ih'

/-! ### The components determine a path up to padding -/

theorem pads_inserted {s : Segment} (hs : s.isVoid = true) (a b : Bytes) :
    Pads ⟨a ++ separator :: b⟩ ⟨a ++ separator :: (s ++ separator :: b)⟩ := by
  rcases eq_of_isVoid hs with rfl | rfl
  · exact .repeated a b
  · exact .inserted a b

theorem pads_appended {s : Segment} (hs : s.isVoid = true) {a : Bytes} (ha : a ≠ []) : Pads ⟨a⟩ ⟨a ++ separator :: s⟩ := by
  rcases eq_of_isVoid hs with rfl | rfl
  · exact .trailing ha
  · exact .appended ha

/-- Segments, each after a separator. -/
def continuation (segments : List Segment) : Bytes := segments.flatMap (separator :: ·)

theorem bytes_ofSegments (first : Segment) (rest : List Segment) :
    (ofSegments (first :: rest)).bytes = first ++ continuation rest := by
  induction rest generalizing first with
  | nil => simp [ofSegments, continuation]
  | cons s rest ih =>
    have hrest : [separator].intercalate (s :: rest) = s ++ continuation rest := ih s
    simp [ofSegments, continuation, List.intercalate_cons_cons, hrest]

theorem ofSegments_segments (p : Path) : ofSegments p.segments = p :=
  congrArg Path.mk (List.intercalate_splitOn separator)

/-- Void segments can be taken out of a path one by one, as long as something stands before them. -/
theorem eqvGen_continuation {a : Bytes} (ha : a ≠ []) (rest : List Segment) :
    Relation.EqvGen Pads ⟨a ++ continuation (rest.filter (!·.isVoid))⟩ ⟨a ++ continuation rest⟩ := by
  induction rest generalizing a with
  | nil => exact .refl _
  | cons s rest ih =>
    cases hs : s.isVoid with
    | false =>
      have hcons : ∀ l, a ++ continuation (s :: l) = a ++ separator :: s ++ continuation l := by simp [continuation]
      rw [List.filter_cons_of_pos (by simp [hs]), hcons, hcons]
      exact ih (by simp)
    | true =>
      rw [List.filter_cons_of_neg (by simp [hs])]
      refine .trans _ _ _ (ih ha) (.rel _ _ ?_)
      cases rest with
      | nil => simpa [continuation] using pads_appended hs ha
      | cons s' rest => exact pads_inserted hs a _

theorem bytes_componentOf (s : Segment) : (componentOf s).bytes = s := by
  unfold componentOf
  split
  · next h => exact h.symm
  · rfl

theorem map_bytes_componentOf (l : List Segment) : (l.map componentOf).map Component.bytes = l := by
  simp [Function.comp_def, bytes_componentOf]

theorem components_cons {p : Path} {first : Segment} {rest : List Segment} (h : p.segments = first :: rest)
    (hp : p.bytes ≠ []) :
    ∃ c, p.components = c :: (rest.filter (!·.isVoid)).map componentOf ∧ c.bytes = if first = [] then [separator] else first := by
  rw [components, start_eq h, h]
  by_cases hempty : first = []
  · subst hempty
    have hrest : rest ≠ [] := by
      rintro rfl
      rw [← ofSegments_segments p, h] at hp
      exact hp rfl
    exact ⟨.root, by simp [hrest, Segment.isVoid], rfl⟩
  by_cases hhere : first = Segment.here
  · subst hhere
    exact ⟨.here, by simp [Segment.isVoid, Segment.here], rfl⟩
  · refine ⟨componentOf first, ?_, by rw [bytes_componentOf, if_neg hempty]⟩
    simp [hempty, hhere, Segment.isVoid]

theorem components_empty : components ⟨[]⟩ = [] := by decide

/-- A path is, up to padding, its components one after the other. -/
theorem eqvGen_ofSegments_components (p : Path) :
    Relation.EqvGen Pads (ofSegments (p.components.map Component.bytes)) p := by
  by_cases hp : p.bytes = []
  · obtain rfl : p = ⟨[]⟩ := congrArg Path.mk hp
    rw [components_empty]
    exact .refl _
  cases hsegments : p.segments with
  | nil => exact absurd hsegments (List.splitOn_ne_nil separator p.bytes)
  | cons first rest =>
    obtain ⟨c, hcomponents, hc⟩ := components_cons hsegments hp
    have hbytes : p.bytes = first ++ continuation rest := by
      rw [← bytes_ofSegments, ← hsegments, ofSegments_segments]
    have hplain : ofSegments (p.components.map Component.bytes) = ⟨c.bytes ++ continuation (rest.filter (!·.isVoid))⟩ := by
      rw [hcomponents, List.map_cons, map_bytes_componentOf]
      exact congrArg Path.mk (bytes_ofSegments _ _)
    obtain rfl : p = ⟨first ++ continuation rest⟩ := congrArg Path.mk hbytes
    rw [hplain, hc]
    split
    · next hempty =>
      subst hempty
      cases rest with
      | nil => exact absurd rfl hp
      | cons s rest =>
        -- The root is a separator of its own, and the path has one less.
        exact .trans _ _ _ (eqvGen_continuation (by simp) (s :: rest)) (.symm _ _ (.rel _ _ (.repeated [] (s ++ continuation rest))))
    · next hne => exact eqvGen_continuation hne rest

theorem components_eq_iff_eqvGen {p q : Path} : p.components = q.components ↔ Relation.EqvGen Pads p q := by
  refine ⟨fun h => ?_, components_eq_of_eqvGen⟩
  have hp := eqvGen_ofSegments_components p
  rw [h] at hp
  exact .trans _ _ _ (.symm _ _ hp) (eqvGen_ofSegments_components q)

theorem components_eq_nil_iff {p : Path} : p.components = [] ↔ p.bytes = [] := by
  constructor
  · intro h
    by_contra hp
    cases hsegments : p.segments with
    | nil => exact List.splitOn_ne_nil separator p.bytes hsegments
    | cons first rest =>
      obtain ⟨c, hcomponents, -⟩ := components_cons hsegments hp
      rw [hcomponents] at h
      cases h
  · intro h
    obtain rfl : p = ⟨[]⟩ := congrArg Path.mk h
    exact components_empty

/-! ### Declared in a file -/

theorem isDeclaredIn_iff {origin source : Path} :
    origin.isDeclaredIn source = true ↔ origin.components ≠ [] ∧
      (origin.components <:+ source.components ∨ source.components <:+ origin.components) := by
  rw [isDeclaredIn, Bool.and_eq_true, Bool.or_eq_true, List.isSuffixOf_iff_suffix, List.isSuffixOf_iff_suffix, Bool.not_eq_true',
    List.isEmpty_eq_false_iff, Ne, ← components_eq_nil_iff, or_comm]

/-- A path names a file if the components of one are the last components of the other. So it does not matter which of the two is
    taken for the origin, nor how they are padded; and padding is all in which paths with the same components differ. -/
theorem isDeclaredIn_suffix_comparable :
    (∀ origin source : Path, origin.bytes ≠ [] → (origin.isDeclaredIn source = true ↔
        origin.components <:+ source.components ∨ source.components <:+ origin.components)) ∧
      (∀ p q : Path, p.bytes ≠ [] → q.bytes ≠ [] → p.isDeclaredIn q = q.isDeclaredIn p) ∧
      (∀ p p' q q' : Path, Relation.EqvGen Pads p p' → Relation.EqvGen Pads q q' →
        p.isDeclaredIn q = p'.isDeclaredIn q') ∧
      ∀ p q : Path, p.components = q.components ↔ Relation.EqvGen Pads p q := by
  refine ⟨fun origin source horigin => ?_, fun p q hp hq => ?_, fun p p' q q' hp hq => ?_, fun p q => components_eq_iff_eqvGen⟩
  · rw [isDeclaredIn_iff, Ne, components_eq_nil_iff]
    exact and_iff_right horigin
  · rw [Bool.eq_iff_iff, isDeclaredIn_iff, isDeclaredIn_iff, Ne, components_eq_nil_iff, Ne, components_eq_nil_iff, or_comm]
    exact and_congr_left fun _ => ⟨fun _ => hq, fun _ => hp⟩
  · rw [Bool.eq_iff_iff, isDeclaredIn_iff, isDeclaredIn_iff, components_eq_of_eqvGen hp, components_eq_of_eqvGen hq]

/-- The paths `d/a` and `a`, in two spellings. -/
theorem isDeclaredIn_suffix_comparable_sample :
    (⟨[100, 47, 97]⟩ : Path).isDeclaredIn ⟨[97]⟩ = true ∧ (⟨[97]⟩ : Path).isDeclaredIn ⟨[100, 47, 97]⟩ = true ∧
      (⟨[100, 47, 47, 46, 47, 97]⟩ : Path).isDeclaredIn ⟨[97, 47]⟩ = true := by
  obtain ⟨hsuffix, hsymm, hpadded, -⟩ := isDeclaredIn_suffix_comparable
  have hdeclared : (⟨[100, 47, 97]⟩ : Path).isDeclaredIn ⟨[97]⟩ = true :=
    (hsuffix ⟨[100, 47, 97]⟩ ⟨[97]⟩ (by decide)).mpr (.inr ⟨[.normal [100]], by decide⟩)
  have hlong : Relation.EqvGen Pads ⟨[100, 47, 97]⟩ ⟨[100, 47, 47, 46, 47, 97]⟩ :=
    .trans _ _ _ (.rel _ _ (.repeated [100] [97])) (.rel _ _ (.inserted [100, 47] [97]))
  have hshort : Relation.EqvGen Pads ⟨[97]⟩ ⟨[97, 47]⟩ := .rel _ _ (.trailing (by decide))
  refine ⟨hdeclared, ?_, ?_⟩
  · rw [← hsymm ⟨[100, 47, 97]⟩ ⟨[97]⟩ (by decide) (by decide), hdeclared]
  · rw [← hpadded _ _ _ _ hlong hshort, hdeclared]

end Path
end Cloak
