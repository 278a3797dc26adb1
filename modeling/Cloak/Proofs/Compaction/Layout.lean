import Cloak.Proofs.Compaction.Line

/-! The layout of a compact text. Reading line by line, ordinary lines are kept pending until a directive or the end comes; then
    what is pending becomes one row, unless it is blank, and the directive a row of its own. The rows are in a normal form that
    a second compaction leaves as it is: no white space side by side, no blank row, no two ordinary rows in a row. -/

namespace Cloak.Compaction

/-! ### Collapsed texts -/

/-- No two white space characters stand side by side. -/
def IsTight (s : Text) : Prop := s.IsChain fun a b => (isBlank a && isBlank b) = false

/-- The characters of a text that are not white space. -/
def ink (s : Text) : Text := s.filter fun c => !isBlank c

theorem ink_append (s t : Text) : ink (s ++ t) = ink s ++ ink t := List.filter_append s t

theorem ink_cons_of_isBlank {c : Char} (h : isBlank c = true) (s : Text) : ink (c :: s) = ink s := by
  simp [ink, h]

theorem ink_cons_of_neg {c : Char} (h : isBlank c = false) (s : Text) : ink (c :: s) = c :: ink s := by
  simp [ink, h]

theorem ink_eq_nil_of_forall {s : Text} (h : ∀ c ∈ s, isBlank c = true) : ink s = [] :=
  List.filter_eq_nil_iff.mpr fun c hc => by simp [h c hc]

theorem startsOutside_collapse {s : Text} (h : StartsOutside isBlank s) : StartsOutside isBlank (collapse s) := by
  cases s with
  | nil => exact startsOutside_nil isBlank
  | cons c s =>
    rw [startsOutside_cons] at h
    rw [collapse_cons_of_neg h, startsOutside_cons]
    exact h

theorem isTight_collapse (s : Text) : IsTight (collapse s) := by
  induction s using cluster_induction isBlank with
  | nil => exact .nil
  | single c s hc ih =>
    rw [collapse_cons_of_neg hc]
    refine List.isChain_cons.mpr ⟨fun d _ => ?_, ih⟩
    rw [hc, Bool.false_and]
  | run r s hne hr hs ih =>
    obtain ⟨b, hb, -⟩ := squeeze_eq_singleton hne hr
    rw [collapse_run_append hne hr hs, hb]
    refine List.isChain_cons.mpr ⟨fun d hd => ?_, ih⟩
    rw [startsOutside_collapse hs d hd, Bool.and_false]

theorem collapse_of_isTight {s : Text} (h : IsTight s) : collapse s = s := by
  induction s using cluster_induction isBlank with
  | nil => rfl
  | single c s hc ih => rw [collapse_cons_of_neg hc, ih (List.isChain_cons.mp h).2]
  | run r s hne hr hs ih =>
    obtain ⟨hrun, hrest, -⟩ := List.isChain_append.mp h
    have hone : squeeze r = r := by
      rcases r with _ | ⟨a, _ | ⟨b, r⟩⟩
      · rfl
      · rfl
      · have hab := (List.isChain_cons.mp hrun).1 b rfl
        simp [hr a, hr b] at hab
    rw [collapse_run_append hne hr hs, hone, ih hrest]

theorem ink_collapse (s : Text) : ink (collapse s) = ink s := by
  induction s using cluster_induction isBlank with
  | nil => rfl
  | single c s hc ih => rw [collapse_cons_of_neg hc, ink_cons_of_neg hc, ink_cons_of_neg hc, ih]
  | run r s hne hr hs ih =>
    obtain ⟨b, hb, hblank⟩ := squeeze_eq_singleton hne hr
    rw [collapse_run_append hne hr hs, hb, List.singleton_append, ink_cons_of_isBlank hblank, ink_append,
      ink_eq_nil_of_forall hr, ih, List.nil_append]

theorem isBlankText_iff {s : Text} : Text.isBlankText s = true ↔ ink s = [] := by
  simp [Text.isBlankText, ink, List.filter_eq_nil_iff]

theorem isBlankText_collapse (s : Text) : Text.isBlankText (collapse s) = Text.isBlankText s := by
  rw [Bool.eq_iff_iff, isBlankText_iff, isBlankText_iff, ink_collapse]

theorem isDirective_collapse (s : Text) : isDirective (collapse s) = isDirective s := by
  cases s using cluster_induction isBlank with
  | nil => rfl
  | single c s hc _ => rw [collapse_cons_of_neg hc, isDirective_eq, isDirective_eq, List.head?_cons, List.head?_cons]
  | run r s hne hr hs _ =>
    -- Neither the run nor the blank put for it is the mark of a directive.
    have hmark : ∀ {c : Char}, isBlank c = true → ∀ t : Text, isDirective (c :: t) = false := by
      intro c hc t
      refine Bool.eq_false_iff.mpr fun h => ?_
      rw [isDirective_eq, List.head?_cons, beq_iff_eq, Option.some.injEq] at h
      rw [h] at hc
      cases hc
    obtain ⟨b, hb, hblank⟩ := squeeze_eq_singleton hne hr
    obtain ⟨c, r, rfl⟩ := List.exists_cons_of_ne_nil hne
    rw [collapse_run_append hne hr hs, hb, List.singleton_append, List.cons_append, hmark hblank, hmark (hr c List.mem_cons_self)]

theorem not_isBlankText_of_isDirective {l : Text} (h : isDirective l = true) : Text.isBlankText l = false := by
  obtain ⟨rest, rfl⟩ := List.head?_eq_some_iff.mp (beq_iff_eq.mp h)
  rfl

/-! ### Rows -/

/-- The row of the ordinary lines that are pending, if it is to be written. -/
def pendingRow (pending : Text) : List Text := if Text.isBlankText pending then [] else [collapse pending]

/-- The rows of lines, after ordinary lines whose joined text is pending. -/
def layout (pending : Text) : List Text → List Text
  | [] => pendingRow pending
  | l :: ls => if isDirective l then pendingRow pending ++ collapse l :: layout [] ls else layout (pending ++ l) ls

/-- Writes rows, each ended by a line feed, except an ordinary row at the end. -/
def writeRows : List Text → Text
  | [] => []
  | [row] => if isDirective row then row ++ ['\n'] else row
  | row :: rows => row ++ '\n' :: writeRows rows

theorem pendingRow_nil : pendingRow [] = [] := rfl

theorem mem_pendingRow_iff {p row : Text} : row ∈ pendingRow p ↔ Text.isBlankText p = false ∧ row = collapse p := by
  unfold pendingRow
  split
  · next h => simp [h]
  · next h => simp [h]

theorem writeRows_cons_of_isDirective {row : Text} (h : isDirective row = true) (rows : List Text) :
    writeRows (row :: rows) = row ++ '\n' :: writeRows rows := by
  cases rows with
  | nil => simp [writeRows, h]
  | cons r rows => rfl

theorem writeRows_cons_of_ne_nil {rows : List Text} (h : rows ≠ []) (row : Text) :
    writeRows (row :: rows) = row ++ '\n' :: writeRows rows := by
  cases rows with
  | nil => exact absurd rfl h
  | cons r rows => rfl

theorem ink_writeRows (rows : List Text) : ink (writeRows rows) = rows.flatMap ink := by
  have hbreak : isBlank '\n' = true := by decide
  fun_induction writeRows rows with
  | case1 => rfl
  | case2 row h =>
    rw [ink_append, ink_cons_of_isBlank hbreak, List.flatMap_singleton]
    exact List.append_nil _
  | case3 row h => rw [List.flatMap_singleton]
  | case4 row rows hrows ih => rw [ink_append, ink_cons_of_isBlank hbreak, ih, List.flatMap_cons]

/-! ### Layout line by line -/

section
variable {p l : Text} {ls r : List Text}

theorem layout_cons_of_isDirective (h : isDirective l = true) (p : Text) (ls : List Text) :
    layout p (l :: ls) = pendingRow p ++ collapse l :: layout [] ls := by
  rw [layout, if_pos h]

theorem layout_cons_of_neg (h : isDirective l = false) (p : Text) (ls : List Text) : layout p (l :: ls) = layout (p ++ l) ls := by
  rw [layout, if_neg (by rw [h]; exact Bool.false_ne_true)]

theorem layout_append_of_neg (h : ∀ l ∈ r, isDirective l = false) (p : Text) (ls : List Text) :
    layout p (r ++ ls) = layout (p ++ r.flatten) ls := by
  induction r generalizing p with
  | nil => rw [List.flatten_nil, List.append_nil, List.nil_append]
  | cons l r ih =>
    obtain ⟨hl, hr⟩ := List.forall_mem_cons.mp h
    rw [List.cons_append, layout_cons_of_neg hl, ih hr, List.flatten_cons, List.append_assoc]

/-- Before a directive or the end, what is pending is written. -/
theorem layout_of_startsOutside (h : StartsOutside (fun l => !isDirective l) ls) (p : Text) :
    layout p ls = pendingRow p ++ layout [] ls := by
  cases ls with
  | nil => rw [layout, layout, pendingRow_nil, List.append_nil]
  | cons l ls =>
    have hl : isDirective l = true := by simpa using startsOutside_cons.mp h
    rw [layout_cons_of_isDirective hl, layout_cons_of_isDirective hl, pendingRow_nil, List.nil_append]

theorem layout_filter_ne_nil (p : Text) (ls : List Text) : layout p (ls.filter (!·.isEmpty)) = layout p ls := by
  induction ls generalizing p with
  | nil => rfl
  | cons l ls ih =>
    cases l with
    | nil =>
      rw [List.filter_cons_of_neg (by simp), ih, layout_cons_of_neg rfl, List.append_nil]
    | cons c l =>
      rw [List.filter_cons_of_pos (by simp), layout, layout, ih, ih]

theorem isDirective_append_of_neg {a b : Text} (ha : isDirective a = false) (hb : isDirective b = false) :
    isDirective (a ++ b) = false := by
  cases a with
  | nil => exact hb
  | cons c a => exact ha

theorem isDirective_flatten (h : ∀ l ∈ r, isDirective l = false) : isDirective r.flatten = false := by
  induction r with
  | nil => rfl
  | cons l r ih =>
    obtain ⟨hl, hr⟩ := List.forall_mem_cons.mp h
    exact isDirective_append_of_neg hl (ih hr)

theorem join_of_isDirective (h : isDirective l = true) : characters.join [l] = .directive l := if_pos h

theorem join_of_neg (hne : r ≠ []) (h : ∀ l ∈ r, isDirective l = false) : characters.join r = .code r.flatten := by
  rcases r with _ | ⟨l, _ | ⟨l', r⟩⟩
  · exact absurd rfl hne
  · rw [List.flatten_singleton]
    exact if_neg (Bool.eq_false_iff.mp (h l List.mem_cons_self))
  · rfl

theorem layout_ne_nil (hne : ls ≠ []) (h : StartsOutside (fun l => !isDirective l) ls) : layout [] ls ≠ [] := by
  obtain ⟨l, ls, rfl⟩ := List.exists_cons_of_ne_nil hne
  have hl : isDirective l = true := by simpa using startsOutside_cons.mp h
  rw [layout_cons_of_isDirective hl]
  exact List.append_ne_nil_of_right_ne_nil _ (List.cons_ne_nil _ _)

end

/-- Rendering the stretches of lines is writing the rows that reading them one by one gives. -/
theorem render_map_join (ls : List Text) :
    characters.render ((clusters (fun l => !isDirective l) ls).map characters.join) = writeRows (layout [] ls) := by
  induction ls using cluster_induction fun l => !isDirective l with
  | nil => rfl
  | single l ls hl ih =>
    have hdir : isDirective l = true := by simpa using hl
    rw [clusters_cons_of_neg (p := fun l => !isDirective l) hl, List.map_cons, join_of_isDirective hdir, render_directive_cons, ih,
      layout_cons_of_isDirective hdir, pendingRow_nil, List.nil_append,
      writeRows_cons_of_isDirective (by rw [isDirective_collapse, hdir])]
  | run r ls hne hr hout ih =>
    have hord : ∀ l ∈ r, isDirective l = false := fun l hl => by simpa using hr l hl
    have hjoined := isDirective_flatten hord
    rw [clusters_run_append hne hr hout, List.map_cons, join_of_neg hne hord, layout_append_of_neg hord, List.nil_append,
      layout_of_startsOutside hout, pendingRow]
    by_cases hls : ls = []
    · subst hls
      rw [clusters_nil, List.map_nil, render_code, layout, pendingRow_nil, List.append_nil]
      split
      · rfl
      · rw [writeRows, isDirective_collapse, hjoined, if_neg Bool.false_ne_true]
    · have hmore : (clusters (fun l => !isDirective l) ls).map characters.join ≠ [] := by
        intro hnil
        have hflat := flatten_clusters (fun l => !isDirective l) ls
        rw [List.map_eq_nil_iff.mp hnil] at hflat
        exact hls hflat.symm
      rw [render_code_cons _ hmore, ih]
      split
      · rfl
      · rw [List.singleton_append, writeRows_cons_of_ne_nil (layout_ne_nil hls hout), List.append_assoc, List.singleton_append]

theorem compact_eq_writeRows (s : Text) : compact s = writeRows (layout [] (lines s)) := render_map_join (lines s)

/-! ### Rows of a compact text -/

/-- The normal form of rows. -/
structure NormalRows (rows : List Text) : Prop where
  tight : ∀ row ∈ rows, IsTight row
  oneLine : ∀ row ∈ rows, ∀ c ∈ row, isLineBreak c = false
  inked : ∀ row ∈ rows, Text.isBlankText row = false
  apart : rows.IsChain fun a b => (isDirective a || isDirective b) = true

theorem not_isLineBreak_of_mem_collapse {s : Text} (h : ∀ c ∈ s, isLineBreak c = false) :
    ∀ c ∈ collapse s, isLineBreak c = false := by
  intro c hc
  rcases mem_collapse hc with hc | rfl
  · exact h c hc
  · rfl

/-- A row is a text that is not blank, collapsed; all of it comes from the lines and from what was pending. -/
theorem mem_layout_cases {p row : Text} {ls : List Text} (h : row ∈ layout p ls) :
    ∃ t, row = collapse t ∧ Text.isBlankText t = false ∧ ∀ c ∈ t, c ∈ p ∨ ∃ l ∈ ls, c ∈ l := by
  have pending : ∀ {p : Text} {ls : List Text}, row ∈ pendingRow p →
      ∃ t, row = collapse t ∧ Text.isBlankText t = false ∧ ∀ c ∈ t, c ∈ p ∨ ∃ l ∈ ls, c ∈ l := by
    intro p ls hrow
    obtain ⟨hp, rfl⟩ := mem_pendingRow_iff.mp hrow
    exact ⟨p, rfl, hp, fun c hc => Or.inl hc⟩
  fun_induction layout p ls with
  | case1 p => exact pending h
  | case2 p l ls hl ih =>
    rcases List.mem_append.mp h with h | h
    · exact pending h
    · rcases List.mem_cons.mp h with rfl | h
      · exact ⟨l, rfl, not_isBlankText_of_isDirective hl, fun c hc => Or.inr ⟨l, List.mem_cons_self, hc⟩⟩
      · obtain ⟨t, rfl, ht, hmem⟩ := ih h
        refine ⟨t, rfl, ht, fun c hc => ?_⟩
        rcases hmem c hc with hc | ⟨m, hm, hc⟩
        · cases hc
        · exact Or.inr ⟨m, List.mem_cons_of_mem l hm, hc⟩
  | case3 p l ls hl ih =>
    obtain ⟨t, rfl, ht, hmem⟩ := ih h
    refine ⟨t, rfl, ht, fun c hc => ?_⟩
    rcases hmem c hc with hc | ⟨m, hm, hc⟩
    · rcases List.mem_append.mp hc with hc | hc
      · exact Or.inl hc
      · exact Or.inr ⟨l, List.mem_cons_self, hc⟩
    · exact Or.inr ⟨m, List.mem_cons_of_mem l hm, hc⟩

theorem isChain_pendingRow (R : Text → Text → Prop) (p : Text) : (pendingRow p).IsChain R := by
  rw [pendingRow]
  split
  · exact .nil
  · exact .singleton _

theorem isChain_layout (p : Text) (ls : List Text) :
    (layout p ls).IsChain fun a b => (isDirective a || isDirective b) = true := by
  fun_induction layout p ls with
  | case1 p => exact isChain_pendingRow _ p
  | case2 p l ls hl ih =>
    have hrow : isDirective (collapse l) = true := by rw [isDirective_collapse, hl]
    have hrest := List.isChain_cons.mpr ⟨fun b _ => by rw [hrow, Bool.true_or], ih⟩
    refine List.isChain_append.mpr ⟨isChain_pendingRow _ p, hrest, fun a _ b hb => ?_⟩
    cases hb
    rw [hrow, Bool.or_true]
  | case3 p l ls hl ih => exact ih

theorem normalRows_layout {ls : List Text} (h : ∀ l ∈ ls, ∀ c ∈ l, isLineBreak c = false) : NormalRows (layout [] ls) where
  tight row hrow := by
    obtain ⟨t, rfl, -⟩ := mem_layout_cases hrow
    exact isTight_collapse t
  oneLine row hrow := by
    obtain ⟨t, rfl, -, hmem⟩ := mem_layout_cases hrow
    refine not_isLineBreak_of_mem_collapse fun c hc => ?_
    rcases hmem c hc with hc | ⟨l, hl, hc⟩
    · cases hc
    · exact h l hl c hc
  inked row hrow := by
    obtain ⟨t, rfl, ht, -⟩ := mem_layout_cases hrow
    rw [isBlankText_collapse, ht]
  apart := isChain_layout [] ls

theorem NormalRows.tail {row : Text} {rows : List Text} (h : NormalRows (row :: rows)) : NormalRows rows where
  tight r hr := h.tight r (List.mem_cons_of_mem row hr)
  oneLine r hr := h.oneLine r (List.mem_cons_of_mem row hr)
  inked r hr := h.inked r (List.mem_cons_of_mem row hr)
  apart := (List.isChain_cons.mp h.apart).2

/-- Rows in normal form are laid out already. -/
theorem NormalRows.layout_eq {rows : List Text} (h : NormalRows rows) : layout [] rows = rows := by
  induction rows with
  | nil => rfl
  | cons row rows ih =>
    have hcollapse := collapse_of_isTight (h.tight row List.mem_cons_self)
    cases hrow : isDirective row with
    | true => rw [layout_cons_of_isDirective hrow, pendingRow_nil, List.nil_append, hcollapse, ih h.tail]
    | false =>
      have hnext : StartsOutside (fun l => !isDirective l) rows := by
        intro b hb
        have hab := (List.isChain_cons.mp h.apart).1 b hb
        rw [hrow, Bool.false_or] at hab
        simp [hab]
      rw [layout_cons_of_neg hrow, List.nil_append, layout_of_startsOutside hnext, pendingRow, h.inked row List.mem_cons_self,
        if_neg Bool.false_ne_true, hcollapse, ih h.tail, List.singleton_append]

theorem lines_append_cons {l : Text} (hl : ∀ c ∈ l, isLineBreak c = false) (hne : l ≠ []) (s : Text) :
    lines (l ++ '\n' :: s) = l :: lines s := by
  rw [lines_eq, List.splitOnP_append_cons_of_forall_mem hl '\n' rfl, List.filter_cons_of_pos (by simp [hne]), lines_eq]

theorem NormalRows.lines_writeRows {rows : List Text} (h : NormalRows rows) : lines (writeRows rows) = rows := by
  have hne : ∀ {row}, row ∈ rows → row ≠ [] := by
    rintro row hrow rfl
    cases h.inked [] hrow
  fun_induction writeRows rows with
  | case1 => rfl
  | case2 row => exact lines_append_cons (h.oneLine row List.mem_cons_self) (hne List.mem_cons_self) []
  | case3 row =>
    rw [lines_eq, List.splitOnP_eq_singleton (h.oneLine row List.mem_cons_self),
      List.filter_cons_of_pos (by simp [hne List.mem_cons_self]), List.filter_nil]
  | case4 row rows _ ih =>
    rw [lines_append_cons (h.oneLine row List.mem_cons_self) (hne List.mem_cons_self),
      ih h.tail fun hrow => hne (List.mem_cons_of_mem row hrow)]

theorem normalRows_of_lines (s : Text) : NormalRows (layout [] (lines s)) :=
  normalRows_layout fun _ hl => not_isLineBreak_of_mem_lines hl

theorem lines_compact (s : Text) : lines (compact s) = layout [] (lines s) := by
  rw [compact_eq_writeRows, (normalRows_of_lines s).lines_writeRows]

/-- The text consists of rows in normal form. -/
def IsCompact (s : Text) : Prop := ∃ rows, NormalRows rows ∧ s = writeRows rows

theorem isCompact_compact (s : Text) : IsCompact (compact s) := ⟨_, normalRows_of_lines s, compact_eq_writeRows s⟩

/-- Compaction leaves exactly the texts in normal form as they are. -/
theorem compact_eq_self_iff {s : Text} : compact s = s ↔ IsCompact s := by
  constructor
  · intro h
    rw [← h]
    exact isCompact_compact s
  · rintro ⟨rows, hrows, rfl⟩
    rw [compact_eq_writeRows, hrows.lines_writeRows, hrows.layout_eq]

/-- A second compaction changes nothing. -/
theorem compact_idempotent (s : Text) : compact (compact s) = compact s := compact_eq_self_iff.mpr (isCompact_compact s)

/-! ### Rows and lines -/

/-- The rows that stand for the ordinary lines of one place: one row if the lines have something in them that is not white space,
    and else none. -/
structure Condenses (ls rows : List Text) : Prop where
  atMostOne : rows.length ≤ 1
  present : rows ≠ [] ↔ ∃ l ∈ ls, ∃ c ∈ l, isBlank c = false
  ordinary : ∀ row ∈ rows, isDirective row = false
  joined : ∀ row ∈ rows, row = collapse ls.flatten

/-- How the rows of a compact text lie to the lines of the text. -/
structure LaysOut (ls rows : List Text) : Prop where
  directives : rows.filter isDirective = (ls.filter isDirective).map collapse
  between : List.Forall₂ Condenses (ls.splitOnP isDirective) (rows.splitOnP isDirective)
  inked : ∀ row ∈ rows, ∃ c ∈ row, isBlank c = false
  oneLine : ∀ row ∈ rows, '\n' ∉ row ∧ '\r' ∉ row
  tight : ∀ row ∈ rows, IsTight row

theorem not_isDirective_of_mem_pendingRow {p : Text} (h : isDirective p = false) :
    ∀ row ∈ pendingRow p, isDirective row = false := by
  intro row hrow
  obtain ⟨-, rfl⟩ := mem_pendingRow_iff.mp hrow
  rw [isDirective_collapse, h]

theorem condenses_pendingRow {ls : List Text} (h : ∀ l ∈ ls, isDirective l = false) : Condenses ls (pendingRow ls.flatten) where
  atMostOne := by
    rw [pendingRow]
    split <;> simp
  present := by
    have hblank : Text.isBlankText ls.flatten = false ↔ ∃ l ∈ ls, ∃ c ∈ l, isBlank c = false := by
      simp [Text.isBlankText]
    rw [← hblank, pendingRow]
    split <;> simp_all
  ordinary := not_isDirective_of_mem_pendingRow (isDirective_flatten h)
  joined row hrow := (mem_pendingRow_iff.mp hrow).2

section
variable {p : Text} (hp : isDirective p = false) (ls : List Text)
include hp

theorem filter_isDirective_pendingRow : (pendingRow p).filter isDirective = [] :=
  List.filter_eq_nil_iff.mpr fun row hrow => by simp [not_isDirective_of_mem_pendingRow hp row hrow]

theorem filter_isDirective_layout : (layout p ls).filter isDirective = (ls.filter isDirective).map collapse := by
  fun_induction layout p ls with
  | case1 p => exact filter_isDirective_pendingRow hp
  | case2 p l ls hl ih =>
    have hrow : isDirective (collapse l) = true := by rw [isDirective_collapse, hl]
    rw [List.filter_append, filter_isDirective_pendingRow hp, List.nil_append, List.filter_cons_of_pos hrow, ih rfl,
      List.filter_cons_of_pos hl, List.map_cons]
  | case3 p l ls hl ih =>
    rw [ih (isDirective_append_of_neg hp (Bool.eq_false_iff.mpr hl)), List.filter_cons_of_neg hl]

/-- Between the directives stand the rows of the ordinary lines that were there; what was pending goes with the first of them. -/
theorem splitOnP_layout : (layout p ls).splitOnP isDirective =
    ((ls.splitOnP isDirective).modifyHead (p :: ·)).map fun group => pendingRow group.flatten := by
  fun_induction layout p ls with
  | case1 p =>
    rw [List.splitOnP_eq_singleton (not_isDirective_of_mem_pendingRow hp), List.splitOnP_nil]
    simp
  | case2 p l ls hl ih =>
    obtain ⟨group, groups, hgroups⟩ := List.exists_cons_of_ne_nil (List.splitOnP_ne_nil isDirective ls)
    have hrow : isDirective (collapse l) = true := by rw [isDirective_collapse, hl]
    rw [List.splitOnP_append_cons_of_forall_mem (not_isDirective_of_mem_pendingRow hp) _ hrow, ih rfl,
      List.splitOnP_cons_eq_if_modifyHead, if_pos hl, hgroups]
    simp
  | case3 p l ls hl ih =>
    obtain ⟨group, groups, hgroups⟩ := List.exists_cons_of_ne_nil (List.splitOnP_ne_nil isDirective ls)
    rw [ih (isDirective_append_of_neg hp (Bool.eq_false_iff.mpr hl)), List.splitOnP_cons_eq_if_modifyHead, if_neg hl, hgroups]
    simp

end

theorem flatMap_ink_layout (p : Text) (ls : List Text) : (layout p ls).flatMap ink = ink p ++ ls.flatMap ink := by
  have hrow : ∀ q : Text, (pendingRow q).flatMap ink = ink q := by
    intro q
    rw [pendingRow]
    split
    · next h => rw [isBlankText_iff.mp h, List.flatMap_nil]
    · rw [List.flatMap_singleton, ink_collapse]
  fun_induction layout p ls with
  | case1 p => rw [hrow, List.flatMap_nil, List.append_nil]
  | case2 p l ls hl ih =>
    rw [List.flatMap_append, hrow, List.flatMap_cons, List.flatMap_cons, ih, ink_collapse]
    rfl
  | case3 p l ls hl ih => rw [ih, ink_append, List.flatMap_cons, List.append_assoc]

theorem flatMap_ink_splitOnP (s : Text) : (s.splitOnP isLineBreak).flatMap ink = ink s := by
  induction s using piece_induction isLineBreak with
  | piece l hl => rw [List.splitOnP_eq_singleton hl, List.flatMap_singleton]
  | cut l c s hl hc ih =>
    rw [List.splitOnP_append_cons_of_forall_mem hl c hc, List.flatMap_cons, ih, ink_append,
      ink_cons_of_isBlank (isBlank_of_isLineBreak hc)]

theorem lines_compact_eq_layout (s : Text) : lines (compact s) = layout [] (s.splitOnP isLineBreak) := by
  rw [lines_compact, lines_eq, layout_filter_ne_nil]

theorem laysOut_layout {ls : List Text} (h : ∀ l ∈ ls, ∀ c ∈ l, isLineBreak c = false) : LaysOut ls (layout [] ls) where
  directives := filter_isDirective_layout rfl ls
  between := by
    have hgroups : ((ls.splitOnP isDirective).modifyHead (([] : Text) :: ·)).map (fun group => pendingRow group.flatten) =
        (ls.splitOnP isDirective).map fun group => pendingRow group.flatten := by
      cases ls.splitOnP isDirective with
      | nil => rfl
      | cons group groups => simp
    rw [splitOnP_layout rfl ls, hgroups]
    exact List.forall₂_map_right_iff.mpr (List.forall₂_same.mpr fun group hgroup =>
      condenses_pendingRow (not_of_mem_splitOnP hgroup))
  inked row hrow := by simpa [Text.isBlankText] using (normalRows_layout h).inked row hrow
  oneLine row hrow := by
    have hrow := (normalRows_layout h).oneLine row hrow
    exact ⟨fun hmem => Bool.noConfusion (hrow '\n' hmem), fun hmem => Bool.noConfusion (hrow '\r' hmem)⟩
  tight := (normalRows_layout h).tight

/-- A compact text is written in rows: the directives of the text, collapsed and in their order, and between them at most one row
    for the ordinary lines that stood there. No row is blank or has white space side by side, and nothing but white space
    differs from the text. -/
theorem compact_layout (s : Text) :
    compact s = writeRows (lines (compact s)) ∧ LaysOut (s.splitOnP isLineBreak) (lines (compact s)) ∧
      ink (compact s) = ink s := by
  have hwritten : compact s = writeRows (lines (compact s)) := by rw [lines_compact, ← compact_eq_writeRows]
  refine ⟨hwritten, ?_, ?_⟩
  · rw [lines_compact_eq_layout]
    exact laysOut_layout fun l hl => not_of_mem_splitOnP hl
  · rw [hwritten, ink_writeRows, lines_compact_eq_layout, flatMap_ink_layout, flatMap_ink_splitOnP]
    rfl

example : compact " int  a;\r\n\t#b\n#if \t x\n \n#endif\nc;\x0b\n".toList = " int a;\t#b\n#if x\n#endif\nc;\x0b".toList := by
  decide +kernel

end Cloak.Compaction
