import Cloak.FileTree
import Mathlib.Data.List.Infix

/-! Writing a file changes what stands under its own name and nothing else, whether the write comes to its end or stops. A file is
    only put into a directory that is there, so no directory comes into being with it, and every path leads to where it led before. -/

namespace Cloak

theorem exists_of_bind_eq_ok {ε α β : Type} {x : Except ε α} {f : α → Except ε β} {b : β} (h : x >>= f = .ok b) :
    ∃ a, x = .ok a ∧ f a = .ok b := by
  cases x with
  | error e => cases h
  | ok a => exact ⟨a, rfl, h⟩

namespace FileTree

variable {t u : FileTree} {l : Limits} {disk : Disk} {p : Path} {contents : Bytes}

/-! ### Putting a file -/

theorem find?_map_put (name m : List Segment) (contents : Bytes) (es : List (List Segment × Option Bytes)) :
    ((es.map fun e => if e.1 = name then (name, some contents) else e).find? fun e => decide (e.1 = m)) =
      if m = name then (es.find? fun e => decide (e.1 = m)).map fun _ => (name, some contents)
      else es.find? fun e => decide (e.1 = m) := by
  induction es with
  | nil => simp
  | cons e es ih =>
    rw [List.map_cons, List.find?_cons, List.find?_cons, ih]
    by_cases he : e.1 = name
    · by_cases hm : m = name
      · simp [he, hm]
      · simp [he, hm, Ne.symm hm]
    · by_cases hm : e.1 = m
      · have hne : m ≠ name := fun h => he (hm.trans h)
        simp [hm, hne]
      · simp [he, hm]

theorem find?_put (t : FileTree) (name m : List Segment) (contents : Bytes) :
    (t.put name contents).find? m = if m = name then some contents else t.find? m := by
  unfold put find?
  split
  · next hany =>
    simp only [find?_map_put]
    split
    · next hm =>
      subst hm
      obtain ⟨e, he, hname⟩ := List.any_eq_true.mp hany
      have hsome : (t.entries.find? fun e => decide (e.1 = m)).isSome = true := by
        rw [List.find?_isSome]
        exact ⟨e, he, by simpa using hname⟩
      obtain ⟨g, hg⟩ := Option.isSome_iff_exists.mp hsome
      rw [hg, Option.map_some, Option.bind_some]
    · rfl
  · next hany =>
    simp only [List.find?_append]
    split
    · next hm =>
      subst hm
      have hnone : (t.entries.find? fun e => decide (e.1 = m)) = none := by
        rw [List.find?_eq_none]
        intro e he hname
        exact hany (List.any_eq_true.mpr ⟨e, he, by simpa using hname⟩)
      simp [hnone]
    · next hm => simp [Ne.symm hm]

theorem mem_entries_put {name : List Segment} {e : List Segment × Option Bytes} :
    e ∈ (t.put name contents).entries ↔ e = (name, some contents) ∨ e ∈ t.entries ∧ e.1 ≠ name := by
  unfold put
  split
  · next hany =>
    obtain ⟨old, hold, hname⟩ := List.any_eq_true.mp hany
    simp only [List.mem_map]
    constructor
    · rintro ⟨e, he, rfl⟩
      split
      · exact Or.inl rfl
      · next hne => exact Or.inr ⟨he, hne⟩
    · rintro (rfl | ⟨he, hne⟩)
      · exact ⟨old, hold, if_pos (beq_iff_eq.mp hname)⟩
      · exact ⟨e, he, if_neg hne⟩
  · next hany =>
    have hnew : ∀ e ∈ t.entries, e.1 ≠ name := fun e he heq => hany (List.any_eq_true.mpr ⟨e, he, beq_iff_eq.mpr heq⟩)
    rw [List.mem_append, List.mem_singleton, or_comm]
    exact or_congr_right ⟨fun he => ⟨he, hnew e he⟩, And.left⟩

/-! ### Directories -/

theorem isInside_iff {d m : List Segment} : isInside d m = true ↔ d <+: m ∧ m ≠ d := by
  rw [isInside, Bool.and_eq_true, List.isPrefixOf_iff_prefix, bne_iff_ne]

theorem isInside_of_isPrefix {d m n : List Segment} (hd : isInside d n = true) (h : m <+: d) : isInside m n = true := by
  obtain ⟨hpre, hne⟩ := isInside_iff.mp hd
  refine isInside_iff.mpr ⟨h.trans hpre, ?_⟩
  rintro rfl
  exact hne (h.eq_of_length_le hpre.length_le)

theorem isDirectory_iff {m : List Segment} :
    t.isDirectory m = true ↔ (∀ s ∈ m, s = Segment.up) ∨ (∃ d ∈ devices, isInside m d.1 = true) ∨
      ∃ e ∈ t.entries, isInside m e.1 = true ∨ e.1 = m ∧ e.2 = none := by
  simp [isDirectory, or_assoc]

theorem isDirectory_of_isPrefix {d m : List Segment} (hd : t.isDirectory d = true) (h : m <+: d) :
    t.isDirectory m = true := by
  rw [isDirectory_iff] at hd ⊢
  rcases hd with hup | ⟨device, hdevice, hin⟩ | ⟨e, he, hin | ⟨rfl, hnone⟩⟩
  · exact Or.inl fun s hs => hup s (h.subset hs)
  · exact Or.inr (Or.inl ⟨device, hdevice, isInside_of_isPrefix hin h⟩)
  · exact Or.inr (Or.inr ⟨e, he, Or.inl (isInside_of_isPrefix hin h)⟩)
  · by_cases hm : e.1 = m
    · exact Or.inr (Or.inr ⟨e, he, Or.inr ⟨hm, hnone⟩⟩)
    · exact Or.inr (Or.inr ⟨e, he, Or.inl (isInside_iff.mpr ⟨h, hm⟩)⟩)

/-- A file in a directory that is there makes no new directory, and takes the place of none. -/
theorem isDirectory_put {d : List Segment} {last : Segment} (hd : t.isDirectory d = true)
    (hname : t.isDirectory (d ++ [last]) = false) (contents : Bytes) (m : List Segment) :
    (t.put (d ++ [last]) contents).isDirectory m = t.isDirectory m := by
  rw [Bool.eq_iff_iff]
  constructor
  · intro h
    rcases isDirectory_iff.mp h with hup | hdevice | ⟨e, he, hin⟩
    · exact isDirectory_iff.mpr (Or.inl hup)
    · exact isDirectory_iff.mpr (Or.inr (Or.inl hdevice))
    · rcases mem_entries_put.mp he with rfl | ⟨he, -⟩
      · rcases hin with hin | ⟨-, hnone⟩
        · obtain ⟨hpre, hne⟩ := isInside_iff.mp hin
          rcases List.prefix_concat_iff.mp hpre with heq | hpre
          · exact absurd heq.symm hne
          · exact isDirectory_of_isPrefix hd hpre
        · cases hnone
      · exact isDirectory_iff.mpr (Or.inr (Or.inr ⟨e, he, hin⟩))
  · intro h
    rcases isDirectory_iff.mp h with hup | hdevice | ⟨e, he, hin⟩
    · exact isDirectory_iff.mpr (Or.inl hup)
    · exact isDirectory_iff.mpr (Or.inr (Or.inl hdevice))
    · refine isDirectory_iff.mpr (Or.inr (Or.inr ?_))
      by_cases heq : e.1 = d ++ [last]
      · rcases hin with hin | hnone
        · exact ⟨_, mem_entries_put.mpr (Or.inl rfl), Or.inl (heq ▸ hin)⟩
        · -- What stands under the name is no directory.
          have hdir := isDirectory_iff.mpr (Or.inr (Or.inr ⟨e, he, Or.inr ⟨heq, hnone.2⟩⟩))
          rw [hname] at hdir
          cases hdir
      · exact ⟨e, mem_entries_put.mpr (Or.inr ⟨he, heq⟩), hin⟩

theorem entry?_eq_directory_iff {m : List Segment} : t.entry? m = some .directory ↔ t.isDirectory m = true := by
  unfold entry?
  split
  · next h => simp [h]
  · next h =>
    refine iff_of_false ?_ h
    split
    · simp
    · simp

/-- `t'` has a file with these contents under the name, where no directory stood, and else all that `t` has. -/
structure Replaces (t : FileTree) (name : List Segment) (contents : Bytes) (t' : FileTree) : Prop where
  notDirectory : t.entry? name ≠ some .directory
  entry : ∀ m, t'.entry? m = if m = name then some (.file contents) else t.entry? m

theorem replaces_put {d : List Segment} {last : Segment} (hd : t.isDirectory d = true)
    (hname : t.isDirectory (d ++ [last]) = false) (hdevice : device? (d ++ [last]) = none) (contents : Bytes) :
    t.Replaces (d ++ [last]) contents (t.put (d ++ [last]) contents) := by
  refine ⟨fun h => Bool.eq_false_iff.mp hname (entry?_eq_directory_iff.mp h), fun m => ?_⟩
  unfold entry?
  rw [isDirectory_put hd hname, find?_put]
  by_cases hm : m = d ++ [last]
  · rw [hm, hname, hdevice, if_pos rfl, if_pos rfl]
    rfl
  · rw [if_neg hm, if_neg hm]

theorem Replaces.entry_name {t' : FileTree} {name : List Segment} (h : t.Replaces name contents t') :
    t'.entry? name = some (.file contents) := by
  rw [h.entry, if_pos rfl]

theorem Replaces.entry_of_ne {t' : FileTree} {name m : List Segment} (h : t.Replaces name contents t') (hm : m ≠ name) :
    t'.entry? m = t.entry? m := by
  rw [h.entry, if_neg hm]

theorem Replaces.isDirectory_eq {t' : FileTree} {name : List Segment} (h : t.Replaces name contents t') (m : List Segment) :
    t'.isDirectory m = t.isDirectory m := by
  rw [Bool.eq_iff_iff, ← entry?_eq_directory_iff, ← entry?_eq_directory_iff]
  by_cases hm : m = name
  · subst hm
    rw [h.entry_name]
    exact iff_of_false (by simp) h.notDirectory
  · rw [h.entry_of_ne hm]

/-! ### Where a path leads -/

theorem isDirectory_of_follow {place segments d : List Segment} (h : t.follow l place segments = .ok d) :
    t.isDirectory d = true := by
  induction segments generalizing place with
  | nil =>
    unfold follow at h
    split at h
    · cases h
    · next hp =>
      cases h
      simpa using hp
  | cons s rest ih =>
    unfold follow at h
    split at h
    · cases h
    · simp only at h
      split at h
      · cases h
      · exact ih h

theorem follow_congr (hu : ∀ m, u.isDirectory m = t.isDirectory m) {place segments d : List Segment}
    (h : t.follow l place segments = .ok d) : u.follow l place segments = .ok d := by
  induction segments generalizing place with
  | nil =>
    unfold follow at h ⊢
    rw [hu]
    split at h
    · cases h
    · next hp => rw [if_neg hp]; exact h
  | cons s rest ih =>
    unfold follow at h ⊢
    rw [hu]
    split at h
    · cases h
    · next hp =>
      rw [if_neg hp]
      simp only at h ⊢
      split at h
      · cases h
      · next hs => rw [if_neg hs]; exact ih h

/-- A path that leads somewhere follows segments to a directory, and in every tree where these lead to the same directory the
    path leads to the same place. -/
theorem exists_follow_of_target {g : Target} (h : t.target l p = .ok g) :
    ∃ place segments, t.follow l place segments = .ok g.directory ∧
      ∀ u : FileTree, u.follow l place segments = .ok g.directory → u.target l p = .ok g := by
  unfold target at h ⊢
  split at h
  · cases h
  · next hnul =>
    split at h
    · cases h
    · next hlong =>
      split at h
      · cases h
      · next hempty =>
        simp only at h ⊢
        split at h
        · next last _ =>
          obtain ⟨d, hd, hg⟩ := exists_of_bind_eq_ok h
          cases hg
          refine ⟨_, _, hd, fun u hu => ?_⟩
          rw [if_neg hnul, if_neg hlong, if_neg hempty, hu]
          rfl
        · obtain ⟨d, hd, hg⟩ := exists_of_bind_eq_ok h
          cases hg
          refine ⟨_, _, hd, fun u hu => ?_⟩
          rw [if_neg hnul, if_neg hlong, if_neg hempty, hu]
          rfl

theorem target_congr (hu : ∀ m, u.isDirectory m = t.isDirectory m) {g : Target} (h : t.target l p = .ok g) :
    u.target l p = .ok g := by
  obtain ⟨place, segments, hfollow, hall⟩ := exists_follow_of_target h
  exact hall u (follow_congr hu hfollow)

theorem isDirectory_of_target {g : Target} (h : t.target l p = .ok g) : t.isDirectory g.directory = true := by
  obtain ⟨place, segments, hfollow, -⟩ := exists_follow_of_target h
  exact isDirectory_of_follow hfollow

/-! ### Writing -/

theorem entry?_cases (t : FileTree) (name : List Segment) :
    (t.isDirectory name = true ∧ t.entry? name = some .directory) ∨
      t.isDirectory name = false ∧ ((∃ d, device? name = some d ∧ t.entry? name = some (.device d)) ∨
        device? name = none ∧ t.entry? name = (t.find? name).map .file) := by
  unfold entry?
  cases hdir : t.isDirectory name with
  | true => exact Or.inl ⟨rfl, rfl⟩
  | false =>
    refine Or.inr ⟨rfl, ?_⟩
    cases hdevice : device? name with
    | some d => exact Or.inl ⟨d, rfl, rfl⟩
    | none => exact Or.inr ⟨rfl, rfl⟩

/-- What it takes to open a path for writing: it leads to a name in a directory, no directory stands there, and the disk opens it
    if it is no device. -/
theorem openSlot_eq_ok_iff {slot : Slot} : t.openSlot l disk p = .ok slot ↔
    ∃ (g : Target) (last : Segment), t.target l p = .ok g ∧ g.last = some last ∧ g.slash = false ∧ last.length ≤ l.name ∧
      t.isDirectory g.name = false ∧ ((∃ d, device? g.name = some d ∧ slot = .device d) ∨
        device? g.name = none ∧ disk.opens t g.name = .ok () ∧ slot = .file g.name) := by
  constructor
  · intro h
    obtain ⟨g, hg, h⟩ := exists_of_bind_eq_ok h
    simp only at h
    split at h
    · cases h
    next hfile =>
    split at h
    · cases h
    next hlength =>
    simp only [Bool.or_eq_true, not_or, Option.isNone_iff_eq_none, Bool.not_eq_true] at hfile
    obtain ⟨last, hlast⟩ := Option.ne_none_iff_exists'.mp hfile.1
    have hshort : last.length ≤ l.name := by simpa [hlast] using hlength
    refine ⟨g, last, hg, hlast, hfile.2, hshort, ?_⟩
    rcases t.entry?_cases g.name with ⟨-, hentry⟩ | ⟨hdir, ⟨d, hdevice, hentry⟩ | ⟨hdevice, hentry⟩⟩
    · rw [hentry] at h
      cases h
    · rw [hentry] at h
      cases h
      exact ⟨hdir, Or.inl ⟨d, hdevice, rfl⟩⟩
    · refine ⟨hdir, Or.inr ⟨hdevice, ?_⟩⟩
      rw [hentry] at h
      cases hold : t.find? g.name with
      | some old =>
        rw [hold] at h
        obtain ⟨⟨⟩, hopens, h⟩ := exists_of_bind_eq_ok h
        cases h
        exact ⟨hopens, rfl⟩
      | none =>
        rw [hold] at h
        obtain ⟨⟨⟩, hopens, h⟩ := exists_of_bind_eq_ok h
        cases h
        exact ⟨hopens, rfl⟩
  · rintro ⟨g, last, hg, hlast, hslash, hshort, hdir, h⟩
    have hlong : (g.last.any fun s => decide (l.name < s.length)) = false := by simpa [hlast] using hshort
    have hplain : (g.last.isNone || g.slash) = false := by simp [hlast, hslash]
    simp only [openSlot, hg, hplain, hlong, bind, Except.bind, Bool.false_eq_true, if_false]
    rcases h with ⟨d, hdevice, rfl⟩ | ⟨hdevice, hopens, rfl⟩
    · simp only [ entry?, hdir, hdevice]
      rfl
    · cases hold : t.find? g.name with
      | some old =>
        simp only [ entry?, hdir, hdevice, hold, hopens]
        rfl
      | none =>
        simp only [ entry?, hdir, hdevice, hold, hopens]
        rfl

/-- What a disk opens, a disk that takes everything opens too. -/
theorem openSlot_ample {slot : Slot} (h : t.openSlot l disk p = .ok slot) : t.openSlot l .ample p = .ok slot := by
  obtain ⟨g, last, hg, hlast, hslash, hshort, hdir, h⟩ := openSlot_eq_ok_iff.mp h
  exact openSlot_eq_ok_iff.mpr ⟨g, last, hg, hlast, hslash, hshort, hdir, h.imp_right fun h => ⟨h.1, rfl, h.2.2⟩⟩

/-- What a write comes to: the file is not opened, a device takes it, it stops on the way, where a disk that takes everything has
    it done, or it is done. -/
inductive Written (t : FileTree) (l : Limits) (p : Path) (contents : Bytes) : Except FileFault Unit → FileTree → Prop where
  | refused (fault : FileFault) : Written t l p contents (.error fault) t
  | swallowed {g : Target} : t.target l p = .ok g → device? g.name = some .null → Written t l p contents (.ok ()) t
  | stopped {g : Target} {n : Nat} {t' whole : FileTree} (fault : FileFault) : t.target l p = .ok g → n < contents.length →
      t.Replaces g.name (contents.take n) t' → t.write l .ample p contents = (.ok (), whole) → t.Replaces g.name contents whole →
      Written t l p contents (.error fault) t'
  | done {g : Target} {t' : FileTree} : t.target l p = .ok g → t.Replaces g.name contents t' → t'.read l p = .ok contents →
      Written t l p contents (.ok ()) t'

theorem read_of_replaces {g : Target} {last : Segment} {t' : FileTree} (hg : t.target l p = .ok g) (hlast : g.last = some last)
    (hslash : g.slash = false) (hshort : last.length ≤ l.name) (h : t.Replaces g.name contents t') :
    t'.read l p = .ok contents := by
  have htarget := target_congr h.isDirectory_eq hg
  have hlong : (g.last.any fun s => decide (l.name < s.length)) = false := by simpa [hlast] using hshort
  simp only [read, lookUp, htarget, h.entry_name, hlong, hslash, bind, Except.bind]
  rfl

theorem written_write (t : FileTree) (l : Limits) (disk : Disk) (p : Path) (contents : Bytes) :
    Written t l p contents (t.write l disk p contents).1 (t.write l disk p contents).2 := by
  unfold write
  cases hslot : t.openSlot l disk p with
  | error fault => exact .refused fault
  | ok slot =>
    obtain ⟨g, last, hg, hlast, hslash, hshort, hdir, ⟨d, hdevice, rfl⟩ | ⟨hdevice, -, rfl⟩⟩ := openSlot_eq_ok_iff.mp hslot
    · cases d with
      | null => exact .swallowed hg hdevice
      | full => exact .refused .noSpace
    · have hname : g.name = g.directory ++ [last] := by rw [Target.name, hlast, Option.toList_some]
      have hput : ∀ bytes, t.Replaces g.name bytes (t.put g.name bytes) := by
        rw [hname] at hdir hdevice ⊢
        exact replaces_put (isDirectory_of_target hg) hdir hdevice
      cases hstop : disk.stop? t g.name contents with
      | some stop =>
        have hlt : stop.1 < contents.length := by simpa using (Option.filter_eq_some_iff.mp hstop).2
        have hample : t.write l .ample p contents = (.ok (), t.put g.name contents) := by
          unfold write
          rw [openSlot_ample hslot]
          rfl
        simp only [hstop]
        exact .stopped stop.2 hg hlt (hput _) hample (hput _)
      | none =>
        simp only [hstop]
        exact .done hg (hput _) (read_of_replaces hg hlast hslash hshort (hput _))

end FileTree
end Cloak
