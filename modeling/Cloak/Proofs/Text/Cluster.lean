import Mathlib.Data.List.SplitBy
import Mathlib.Data.List.TakeWhile

/-! Clusters of a list with respect to a class of elements: the longest runs inside the class, and every element outside it
    by itself. -/

namespace Cloak
variable {α β : Type} {p : α → Bool} {q : β → Bool}

/-- The list cut into its longest runs of elements of the class, and single elements outside it. -/
def clusters (p : α → Bool) (l : List α) : List (List α) := l.splitBy fun a b => p a && p b

/-- The list is empty or begins with an element outside the class. -/
def StartsOutside (p : α → Bool) (l : List α) : Prop := ∀ a ∈ l.head?, p a = false

theorem startsOutside_nil (p : α → Bool) : StartsOutside p [] := fun _ h => by cases h

theorem startsOutside_cons {a : α} {l : List α} : StartsOutside p (a :: l) ↔ p a = false := by
  simp [StartsOutside]

theorem StartsOutside.append {l m : List α} (hl : StartsOutside p l) (hm : StartsOutside p m) : StartsOutside p (l ++ m) := by
  cases l with
  | nil => exact hm
  | cons a l => exact startsOutside_cons.mpr (startsOutside_cons.mp hl)

theorem startsOutside_dropWhile (p : α → Bool) (l : List α) : StartsOutside p (l.dropWhile p) := by
  intro a ha
  have h := List.head?_dropWhile_not p l
  rwa [Option.mem_def.mp ha] at h

theorem takeWhile_of_startsOutside {l : List α} (h : StartsOutside p l) : l.takeWhile p = [] := by
  cases l with
  | nil => rfl
  | cons a l => exact List.takeWhile_cons_of_neg (by simp [startsOutside_cons.mp h])

theorem dropWhile_of_startsOutside {l : List α} (h : StartsOutside p l) : l.dropWhile p = l := by
  cases l with
  | nil => rfl
  | cons a l => exact List.dropWhile_cons_of_neg (by simp [startsOutside_cons.mp h])

/-! ### Clusters one by one -/

@[simp]
theorem clusters_nil (p : α → Bool) : clusters p [] = [] := rfl

@[simp]
theorem flatten_clusters (p : α → Bool) (l : List α) : (clusters p l).flatten = l := List.flatten_splitBy _ l

theorem ne_nil_of_mem_clusters {l c : List α} (h : c ∈ clusters p l) : c ≠ [] := List.ne_nil_of_mem_splitBy h

theorem clusters_append {l m : List α} (h : ∀ x ∈ l.getLast?, ∀ y ∈ m.head?, (p x && p y) = false) :
    clusters p (l ++ m) = clusters p l ++ clusters p m :=
  List.splitBy_append h

theorem clusters_append_of_startsOutside {l m : List α} (h : StartsOutside p m) :
    clusters p (l ++ m) = clusters p l ++ clusters p m :=
  clusters_append fun _ _ y hy => by rw [h y hy, Bool.and_false]

theorem clusters_cons_of_neg {a : α} (h : p a = false) (l : List α) : clusters p (a :: l) = [a] :: clusters p l := by
  refine clusters_append (l := [a]) fun x hx y _ => ?_
  rw [List.getLast?_singleton, Option.mem_def, Option.some.injEq] at hx
  rw [← hx, h, Bool.false_and]

theorem clusters_of_all {r : List α} (hne : r ≠ []) (hr : ∀ a ∈ r, p a = true) : clusters p r = [r] := by
  refine List.splitBy_of_isChain hne ?_
  induction r with
  | nil => exact .nil
  | cons a r ih =>
    cases r with
    | nil => exact .singleton a
    | cons b r =>
      refine .cons_cons ?_ (ih (List.cons_ne_nil b r) fun c hc => hr c (List.mem_cons_of_mem a hc))
      rw [hr a List.mem_cons_self, hr b (List.mem_cons_of_mem a List.mem_cons_self), Bool.and_self]

theorem clusters_run_append {r l : List α} (hne : r ≠ []) (hr : ∀ a ∈ r, p a = true) (hl : StartsOutside p l) :
    clusters p (r ++ l) = r :: clusters p l := by
  rw [clusters_append_of_startsOutside hl, clusters_of_all hne hr, List.singleton_append]

/-- Induction along the clusters of a list. -/
theorem cluster_induction (p : α → Bool) {motive : List α → Prop} (nil : motive [])
    (single : ∀ a l, p a = false → motive l → motive (a :: l))
    (run : ∀ r l, r ≠ [] → (∀ a ∈ r, p a = true) → StartsOutside p l → motive l → motive (r ++ l)) (l : List α) :
    motive l := by
  induction hn : l.length using Nat.strongRecOn generalizing l with
  | _ n ih =>
    cases l with
    | nil => exact nil
    | cons a l =>
      by_cases ha : p a = true
      · have hcut := List.takeWhile_append_dropWhile (p := p) (l := a :: l)
        have hne : (a :: l).takeWhile p ≠ [] := by rw [List.takeWhile_cons_of_pos ha]; exact List.cons_ne_nil _ _
        have hlt : ((a :: l).dropWhile p).length < n := by
          rw [List.dropWhile_cons_of_pos ha, ← hn, List.length_cons]
          exact Nat.lt_succ_of_le (List.dropWhile_sublist p).length_le
        rw [← hcut]
        exact run _ _ hne (fun b hb => List.mem_takeWhile_imp hb) (startsOutside_dropWhile p _) (ih _ hlt _ rfl)
      · exact single a l (Bool.eq_false_iff.mpr ha) (ih _ (by rw [← hn, List.length_cons]; omega) l rfl)

/-- A cluster is a run inside the class, or one element outside it. -/
theorem mem_clusters_cases {l c : List α} (h : c ∈ clusters p l) : (∀ a ∈ c, p a = true) ∨ ∃ a, c = [a] ∧ p a = false := by
  induction l using cluster_induction p with
  | nil => cases h
  | single a l ha ih =>
    rw [clusters_cons_of_neg ha] at h
    rcases List.mem_cons.mp h with rfl | h
    · exact Or.inr ⟨a, rfl, ha⟩
    · exact ih h
  | run r l hne hr hl ih =>
    rw [clusters_run_append hne hr hl] at h
    rcases List.mem_cons.mp h with rfl | h
    · exact Or.inl hr
    · exact ih h

theorem singleton_mem_clusters {l : List α} {a : α} (ha : a ∈ l) (h : p a = false) : [a] ∈ clusters p l := by
  rw [← flatten_clusters p l] at ha
  obtain ⟨c, hc, ha⟩ := List.mem_flatten.mp ha
  rcases mem_clusters_cases hc with hall | ⟨b, rfl, -⟩
  · rw [hall a ha] at h
    cases h
  · rwa [List.mem_singleton.mp ha]

theorem infix_of_mem_clusters {l c : List α} (h : c ∈ clusters p l) : c <:+: l := by
  obtain ⟨pre, post, hsplit⟩ := List.append_of_mem h
  refine ⟨pre.flatten, post.flatten, ?_⟩
  rw [← flatten_clusters p l, hsplit, List.flatten_append, List.flatten_cons, List.append_assoc]

/-! ### Clusters put for clusters -/

/-- Both are runs inside the class, or both single elements outside it. -/
def SameKind (p : α → Bool) (q : β → Bool) (c : List α) (d : List β) : Prop :=
  ((∀ a ∈ c, p a = true) ∧ d ≠ [] ∧ ∀ b ∈ d, q b = true) ∨ ∃ a b, c = [a] ∧ d = [b] ∧ p a = false ∧ q b = false

theorem SameKind.refl {l c : List α} (h : c ∈ clusters p l) : SameKind p p c c := by
  rcases mem_clusters_cases h with hc | ⟨a, rfl, ha⟩
  · exact Or.inl ⟨hc, ne_nil_of_mem_clusters h, hc⟩
  · exact Or.inr ⟨a, a, rfl, rfl, ha, ha⟩

theorem SameKind.of_neg {a : α} {d : List β} (h : SameKind p q [a] d) (ha : p a = false) :
    ∃ b, d = [b] ∧ q b = false := by
  rcases h with ⟨hc, -⟩ | ⟨-, b, -, rfl, -, hb⟩
  · rw [hc a List.mem_cons_self] at ha
    cases ha
  · exact ⟨b, rfl, hb⟩

theorem SameKind.of_all {c : List α} {d : List β} (h : SameKind p q c d) (hne : c ≠ []) (hc : ∀ a ∈ c, p a = true) :
    d ≠ [] ∧ ∀ b ∈ d, q b = true := by
  rcases h with ⟨-, h⟩ | ⟨a, -, rfl, -, ha, -⟩
  · exact h
  · rw [hc a List.mem_cons_self] at ha
    cases ha

theorem startsOutside_of_forall₂ {l : List α} {ds : List (List β)} (h : List.Forall₂ (SameKind p q) (clusters p l) ds)
    (hl : StartsOutside p l) : StartsOutside q ds.flatten := by
  cases l with
  | nil =>
    cases h
    exact startsOutside_nil q
  | cons a l =>
    rw [startsOutside_cons] at hl
    rw [clusters_cons_of_neg hl] at h
    cases h with
    | cons hd _ =>
      obtain ⟨b, rfl, hb⟩ := hd.of_neg hl
      exact startsOutside_cons.mpr hb

/-- Lists of the same kinds as the clusters of a list are the clusters of what they join to. -/
theorem clusters_flatten_of_forall₂ {l : List α} {ds : List (List β)}
    (h : List.Forall₂ (SameKind p q) (clusters p l) ds) : clusters q ds.flatten = ds := by
  induction l using cluster_induction p generalizing ds with
  | nil =>
    cases h
    rfl
  | single a l ha ih =>
    rw [clusters_cons_of_neg ha] at h
    cases h with
    | @cons _ d _ ds hd hds =>
      obtain ⟨b, rfl, hb⟩ := hd.of_neg ha
      rw [List.flatten_cons, List.singleton_append, clusters_cons_of_neg hb, ih hds]
  | run r l hne hr hl ih =>
    rw [clusters_run_append hne hr hl] at h
    cases h with
    | @cons _ d _ ds hd hds =>
      obtain ⟨hdne, hdall⟩ := hd.of_all hne hr
      rw [List.flatten_cons, clusters_run_append hdne hdall (startsOutside_of_forall₂ hds hl), ih hds]

theorem clusters_map (f : α → β) (l : List α) :
    clusters q (l.map f) = (clusters (fun a => q (f a)) l).map (List.map f) := by
  have h : List.Forall₂ (SameKind (fun a => q (f a)) q) (clusters (fun a => q (f a)) l)
      ((clusters (fun a => q (f a)) l).map (List.map f)) := by
    refine List.forall₂_map_right_iff.mpr (List.forall₂_same.mpr fun c hc => ?_)
    rcases mem_clusters_cases hc with hall | ⟨a, rfl, ha⟩
    · exact Or.inl ⟨hall, mt List.map_eq_nil_iff.mp (ne_nil_of_mem_clusters hc), List.forall_mem_map.mpr hall⟩
    · exact Or.inr ⟨a, f a, rfl, rfl, ha, ha⟩
  rw [← clusters_flatten_of_forall₂ h, ← List.map_flatten, flatten_clusters]

theorem clusters_congr {r : α → Bool} {l : List α} (h : ∀ a ∈ l, p a = r a) : clusters p l = clusters r l := by
  refine (clusters_flatten_of_forall₂ (p := p) (l := l) (q := r) (List.forall₂_same.mpr fun c hc => ?_)).symm.trans
    (congrArg (clusters r) (flatten_clusters p l))
  have hin := (infix_of_mem_clusters hc).subset
  rcases mem_clusters_cases hc with hall | ⟨a, rfl, ha⟩
  · exact Or.inl ⟨hall, ne_nil_of_mem_clusters hc, fun a ha => h a (hin ha) ▸ hall a ha⟩
  · exact Or.inr ⟨a, a, rfl, rfl, ha, h a (hin List.mem_cons_self) ▸ ha⟩

end Cloak
