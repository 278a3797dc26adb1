import Cloak.Compaction
import Cloak.Proofs.Text.Cluster
import Cloak.Proofs.Text.Cut

/-! The lines of a compact text. Collapsing goes piece by piece and keeps how a line begins; a directive stays a line of its
    own, and only directives begin like one. -/

namespace Cloak

namespace Compaction

/-- The text of a stretch. -/
def Stretch.text {α : Type} : Stretch α → List α
  | .directive line => line
  | .code joined => joined

/-! ### Letters of any alphabet -/

namespace Alphabet
variable {α : Type} (A : Alphabet α)

theorem collapse_eq (s : List α) : A.collapse s = (clusters A.isBlank s).flatMap A.squeeze := rfl

theorem collapse_cons_of_neg {a : α} (h : A.isBlank a = false) (s : List α) : A.collapse (a :: s) = a :: A.collapse s := by
  rw [collapse_eq, clusters_cons_of_neg h, List.flatMap_cons]
  rfl

theorem collapse_append_of_neg {t : List α} (h : ∀ a ∈ t, A.isBlank a = false) (s : List α) :
    A.collapse (t ++ s) = t ++ A.collapse s := by
  induction t with
  | nil => rfl
  | cons a t ih =>
    rw [List.cons_append, collapse_cons_of_neg A (h a List.mem_cons_self), ih fun b hb => h b (List.mem_cons_of_mem a hb),
      List.cons_append]

theorem collapse_run_append {r s : List α} (hne : r ≠ []) (hr : ∀ a ∈ r, A.isBlank a = true) (hs : StartsOutside A.isBlank s) :
    A.collapse (r ++ s) = A.squeeze r ++ A.collapse s := by
  rw [collapse_eq, clusters_run_append hne hr hs, List.flatMap_cons]
  rfl

theorem mem_collapse {s : List α} {a : α} (h : a ∈ A.collapse s) : a ∈ s ∨ a = A.blank := by
  obtain ⟨run, hrun, h⟩ := List.mem_flatMap.mp h
  unfold squeeze at h
  split at h
  · exact Or.inr (List.mem_singleton.mp h)
  · exact Or.inl ((infix_of_mem_clusters hrun).subset h)

theorem infix_of_mem_lines {s l : List α} (h : l ∈ A.lines s) : l <:+: s := infix_of_mem_splitOnP (List.mem_filter.mp h).1

/-- A letter of the output comes from a stretch or was put in. -/
theorem mem_render {xs : List (Stretch α)} {a : α} (h : a ∈ A.render xs) :
    (∃ x ∈ xs, a ∈ x.text) ∨ a = A.blank ∨ a = A.newline := by
  have hcollapse : ∀ {x : Stretch α} {xs : List (Stretch α)}, x ∈ xs → a ∈ A.collapse x.text →
      (∃ x ∈ xs, a ∈ x.text) ∨ a = A.blank ∨ a = A.newline := fun hx ha =>
    (A.mem_collapse ha).imp (fun ha => ⟨_, hx, ha⟩) Or.inl
  have hlater : ∀ {x : Stretch α} {xs : List (Stretch α)}, ((∃ x ∈ xs, a ∈ x.text) ∨ a = A.blank ∨ a = A.newline) →
      (∃ y ∈ x :: xs, a ∈ y.text) ∨ a = A.blank ∨ a = A.newline := fun h =>
    h.imp_left fun ⟨y, hy, ha⟩ => ⟨y, List.mem_cons_of_mem _ hy, ha⟩
  fun_induction render A xs with
  | case1 => cases h
  | case2 line rest ih =>
    rcases List.mem_append.mp h with h | h
    · exact hcollapse (x := .directive line) List.mem_cons_self h
    · rcases List.mem_cons.mp h with h | h
      · exact Or.inr (Or.inr h)
      · exact hlater (ih h)
  | case3 joined => cases h
  | case4 joined => exact hcollapse (x := .code joined) List.mem_cons_self h
  | case5 joined rest _ ih =>
    rcases List.mem_append.mp h with h | h
    · split at h
      · cases h
      · rcases List.mem_append.mp h with h | h
        · exact hcollapse (x := .code joined) List.mem_cons_self h
        · exact Or.inr (Or.inr (List.mem_singleton.mp h))
    · exact hlater (ih h)

section
variable [BEq α] [LawfulBEq α] {xs : List (Stretch α)}

theorem mem_splitOn_render (h : ∀ x ∈ xs, A.newline ∉ A.collapse x.text) {l : List α} (hl : l ∈ (A.render xs).splitOn A.newline) :
    l = [] ∨ ∃ x ∈ xs, l = A.collapse x.text := by
  have empty : ∀ {l : List α}, l ∈ ([] : List α).splitOn A.newline → l = [] := fun hl => List.mem_singleton.mp hl
  have hlater : ∀ {x : Stretch α} {xs : List (Stretch α)}, (l = [] ∨ ∃ x ∈ xs, l = A.collapse x.text) →
      l = [] ∨ ∃ y ∈ x :: xs, l = A.collapse y.text := fun h =>
    h.imp_right fun ⟨y, hy, hl⟩ => ⟨y, List.mem_cons_of_mem _ hy, hl⟩
  fun_induction render A xs with
  | case1 => exact Or.inl (empty hl)
  | case2 line rest ih =>
    have hline : A.newline ∉ A.collapse line := h (.directive line) List.mem_cons_self
    have hrest : ∀ x ∈ rest, A.newline ∉ A.collapse x.text := fun x hx => h x (List.mem_cons_of_mem _ hx)
    rw [List.splitOn_append_cons_self_of_not_mem hline] at hl
    rcases List.mem_cons.mp hl with rfl | hl
    · exact Or.inr ⟨.directive line, List.mem_cons_self, rfl⟩
    · exact hlater (ih hrest hl)
  | case3 joined => exact Or.inl (empty hl)
  | case4 joined =>
    have hjoined : A.newline ∉ A.collapse joined := h (.code joined) List.mem_cons_self
    rw [List.splitOn_eq_singleton hjoined, List.mem_singleton] at hl
    exact Or.inr ⟨.code joined, List.mem_cons_self, hl⟩
  | case5 joined rest _ ih =>
    have hjoined : A.newline ∉ A.collapse joined := h (.code joined) List.mem_cons_self
    have hrest : ∀ x ∈ rest, A.newline ∉ A.collapse x.text := fun x hx => h x (List.mem_cons_of_mem _ hx)
    split at hl
    · exact hlater (ih hrest hl)
    · rw [List.append_assoc, List.singleton_append, List.splitOn_append_cons_self_of_not_mem hjoined] at hl
      rcases List.mem_cons.mp hl with rfl | hl
      · exact Or.inr ⟨.code joined, List.mem_cons_self, rfl⟩
      · exact hlater (ih hrest hl)

theorem collapse_mem_splitOn_render (h : ∀ x ∈ xs, A.newline ∉ A.collapse x.text) {line : List α}
    (hd : .directive line ∈ xs) : A.collapse line ∈ (A.render xs).splitOn A.newline := by
  fun_induction render A xs with
  | case1 => cases hd
  | case2 first rest ih =>
    have hfirst : A.newline ∉ A.collapse first := h (.directive first) List.mem_cons_self
    have hrest : ∀ x ∈ rest, A.newline ∉ A.collapse x.text := fun x hx => h x (List.mem_cons_of_mem _ hx)
    rw [List.splitOn_append_cons_self_of_not_mem hfirst]
    rcases List.mem_cons.mp hd with hd | hd
    · cases hd
      exact List.mem_cons_self
    · exact List.mem_cons_of_mem _ (ih hrest hd)
  | case3 joined => cases List.mem_singleton.mp hd
  | case4 joined => cases List.mem_singleton.mp hd
  | case5 joined rest _ ih =>
    have hjoined : A.newline ∉ A.collapse joined := h (.code joined) List.mem_cons_self
    have hrest : ∀ x ∈ rest, A.newline ∉ A.collapse x.text := fun x hx => h x (List.mem_cons_of_mem _ hx)
    have hlater : .directive line ∈ rest := by
      rcases List.mem_cons.mp hd with hd | hd
      · cases hd
      · exact hd
    split
    · exact ih hrest hlater
    · rw [List.append_assoc, List.singleton_append, List.splitOn_append_cons_self_of_not_mem hjoined]
      exact List.mem_cons_of_mem _ (ih hrest hlater)

end

variable [BEq α]

theorem text_join (ls : List (List α)) : (A.join ls).text = ls.flatten := by
  match ls with
  | [] => rfl
  | [l] =>
    rw [List.flatten_singleton, join]
    split <;> rfl
  | l :: l' :: ls => rfl

theorem exists_of_mem_stretches {s : List α} {x : Stretch α} (h : x ∈ A.stretches s) :
    ∀ a ∈ x.text, ∃ l ∈ A.lines s, a ∈ l := by
  intro a ha
  obtain ⟨ls, hls, rfl⟩ := List.mem_map.mp h
  rw [text_join] at ha
  obtain ⟨l, hl, ha⟩ := List.mem_flatten.mp ha
  exact ⟨l, (infix_of_mem_clusters hls).subset hl, ha⟩

theorem mem_of_mem_stretches {s : List α} {x : Stretch α} (h : x ∈ A.stretches s) : ∀ a ∈ x.text, a ∈ s := by
  intro a ha
  obtain ⟨l, hl, ha⟩ := A.exists_of_mem_stretches h a ha
  exact (A.infix_of_mem_lines hl).subset ha

theorem mem_compact {s : List α} {a : α} (h : a ∈ A.compact s) : a ∈ s ∨ a = A.blank ∨ a = A.newline :=
  (A.mem_render h).imp_left fun ⟨_, hx, ha⟩ => A.mem_of_mem_stretches hx a ha

end Alphabet

/-! ### Characters -/

theorem isDirective_eq (line : Text) : isDirective line = (line.head? == some '#') := rfl

theorem lines_eq (s : Text) : lines s = (s.splitOnP isLineBreak).filter (!·.isEmpty) := rfl

section
variable (line joined : Text) {xs : List (Stretch Char)}

theorem render_directive_cons :
    characters.render (.directive line :: xs) = collapse line ++ '\n' :: characters.render xs := rfl

theorem render_code : characters.render [.code joined] = if Text.isBlankText joined then [] else collapse joined := rfl

theorem render_code_cons (h : xs ≠ []) : characters.render (.code joined :: xs) =
    (if Text.isBlankText joined then [] else collapse joined ++ ['\n']) ++ characters.render xs := by
  obtain ⟨x, xs, rfl⟩ := List.exists_cons_of_ne_nil h
  rfl

end

/-! ### Collapsing -/

/-- A run of white space after collapsing. -/
def squeeze (run : Text) : Text := characters.squeeze run

theorem collapse_nil : collapse [] = [] := rfl

theorem collapse_cons_of_neg {c : Char} (h : isBlank c = false) (s : Text) : collapse (c :: s) = c :: collapse s :=
  characters.collapse_cons_of_neg h s

theorem collapse_append_of_neg {t : Text} (h : ∀ c ∈ t, isBlank c = false) (s : Text) : collapse (t ++ s) = t ++ collapse s :=
  characters.collapse_append_of_neg h s

theorem collapse_run_append {r s : Text} (hne : r ≠ []) (hr : ∀ c ∈ r, isBlank c = true) (hs : StartsOutside isBlank s) :
    collapse (r ++ s) = squeeze r ++ collapse s :=
  characters.collapse_run_append hne hr hs

theorem mem_collapse {s : Text} {c : Char} (h : c ∈ collapse s) : c ∈ s ∨ c = ' ' := characters.mem_collapse h

theorem squeeze_eq_singleton {r : Text} (hne : r ≠ []) (hr : ∀ c ∈ r, isBlank c = true) :
    ∃ c, squeeze r = [c] ∧ isBlank c = true := by
  unfold squeeze Alphabet.squeeze
  split
  · exact ⟨' ', rfl, by decide⟩
  · next hlen =>
    obtain ⟨c, t, rfl⟩ := List.exists_cons_of_ne_nil hne
    have ht : t = [] := List.eq_nil_of_length_eq_zero (by rw [List.length_cons] at hlen; omega)
    exact ⟨c, by rw [ht], hr c List.mem_cons_self⟩

/-- What is not blank at the beginning of a collapsed text stood there before. -/
theorem eq_cons_of_collapse_eq_cons {s rest : Text} {c : Char} (hc : isBlank c = false) (h : collapse s = c :: rest) :
    ∃ t, s = c :: t ∧ collapse t = rest := by
  cases s using cluster_induction isBlank with
  | nil => cases h
  | single a s ha _ =>
    rw [collapse_cons_of_neg ha, List.cons.injEq] at h
    exact ⟨s, by rw [h.1], h.2⟩
  | run r s hne hr hs _ =>
    obtain ⟨b, hb, hblank⟩ := squeeze_eq_singleton hne hr
    rw [collapse_run_append hne hr hs, hb, List.singleton_append, List.cons.injEq] at h
    rw [h.1, hc] at hblank
    cases hblank

/-- A blank of a collapsed text stands for a run of white space. -/
theorem eq_append_of_collapse_eq_cons {s rest : Text} {c : Char} (hc : isBlank c = true) (h : collapse s = c :: rest) :
    ∃ r t, s = r ++ t ∧ r ≠ [] ∧ (∀ a ∈ r, isBlank a = true) ∧ collapse t = rest := by
  cases s using cluster_induction isBlank with
  | nil => cases h
  | single a s ha _ =>
    rw [collapse_cons_of_neg ha, List.cons.injEq] at h
    rw [h.1, hc] at ha
    cases ha
  | run r s hne hr hs _ =>
    obtain ⟨b, hb, -⟩ := squeeze_eq_singleton hne hr
    rw [collapse_run_append hne hr hs, hb, List.singleton_append, List.cons.injEq] at h
    exact ⟨r, s, rfl, hne, hr, h.2⟩

theorem eq_append_of_collapse_eq_append {s t rest : Text} (ht : ∀ c ∈ t, isBlank c = false) (h : collapse s = t ++ rest) :
    ∃ u, s = t ++ u ∧ collapse u = rest := by
  induction t generalizing s with
  | nil => exact ⟨s, rfl, h⟩
  | cons c t ih =>
    obtain ⟨u, rfl, hu⟩ := eq_cons_of_collapse_eq_cons (ht c List.mem_cons_self) h
    obtain ⟨v, rfl, hv⟩ := ih (fun d hd => ht d (List.mem_cons_of_mem c hd)) hu
    exact ⟨v, rfl, hv⟩

theorem eq_nil_of_collapse_eq_nil {s : Text} (h : collapse s = []) : s = [] := by
  cases s using cluster_induction isBlank with
  | nil => rfl
  | single a s ha _ =>
    rw [collapse_cons_of_neg ha] at h
    cases h
  | run r s hne hr hs _ =>
    obtain ⟨b, hb, -⟩ := squeeze_eq_singleton hne hr
    rw [collapse_run_append hne hr hs, hb] at h
    cases h

/-! ### Stretches -/

theorem not_isLineBreak_of_mem_lines {s l : Text} (h : l ∈ lines s) : ∀ c ∈ l, isLineBreak c = false :=
  not_of_mem_splitOnP (List.mem_filter.mp h).1

theorem not_isLineBreak_of_mem_stretches {s : Text} {x : Stretch Char} (h : x ∈ characters.stretches s) :
    ∀ c ∈ x.text, isLineBreak c = false := by
  intro c hc
  obtain ⟨l, hl, hc⟩ := characters.exists_of_mem_stretches h c hc
  exact not_isLineBreak_of_mem_lines hl c hc

theorem directive_mem_stretches {s line : Text} (h : line ∈ lines s) (hd : isDirective line = true) :
    .directive line ∈ characters.stretches s := by
  have hmem : [line] ∈ clusters (fun l => !isDirective l) (lines s) := singleton_mem_clusters h (by rw [hd]; rfl)
  exact List.mem_map.mpr ⟨[line], hmem, if_pos hd⟩

/-- A stretch that begins like a directive is one of the lines. -/
theorem mem_lines_of_mem_stretches {s : Text} {x : Stretch Char} (h : x ∈ characters.stretches s) (hx : isDirective x.text = true) :
    x.text ∈ lines s := by
  obtain ⟨ls, hls, rfl⟩ := List.mem_map.mp h
  rw [characters.text_join] at hx ⊢
  have hin := (infix_of_mem_clusters hls).subset
  rcases mem_clusters_cases hls with hall | ⟨l, rfl, -⟩
  · -- Ordinary lines joined begin as the first of them, which is not empty and no directive.
    obtain ⟨l, ls, rfl⟩ := List.exists_cons_of_ne_nil (ne_nil_of_mem_clusters hls)
    have hl := hall l List.mem_cons_self
    have hne : l ≠ [] := by
      have := (List.mem_filter.mp (hin List.mem_cons_self)).2
      rintro rfl
      cases this
    obtain ⟨c, l, rfl⟩ := List.exists_cons_of_ne_nil hne
    rw [List.flatten_cons, List.cons_append] at hx
    have hdir : characters.isDirective (c :: l) = true := hx
    rw [hdir] at hl
    cases hl
  · rw [List.flatten_singleton]
    exact hin List.mem_cons_self

/-! ### Lines of the output -/

theorem newline_not_mem_collapse {s : Text} (h : ∀ c ∈ s, isLineBreak c = false) : '\n' ∉ collapse s := by
  intro hmem
  rcases mem_collapse hmem with hmem | hmem
  · have := h '\n' hmem
    cases this
  · cases hmem

/-- The lines of a compact text that begin like a directive are the directives of the text, collapsed. -/
theorem mem_splitOn_compact_iff {s l : Text} (hl : isDirective l = true) :
    l ∈ (compact s).splitOn '\n' ↔ ∃ line ∈ lines s, isDirective line = true ∧ l = collapse line := by
  have hbreak : ∀ x ∈ characters.stretches s, '\n' ∉ collapse x.text := fun x hx =>
    newline_not_mem_collapse (not_isLineBreak_of_mem_stretches hx)
  constructor
  · intro h
    rcases characters.mem_splitOn_render hbreak h with rfl | ⟨x, hx, rfl⟩
    · cases hl
    · have hdir : isDirective x.text = true := by
        obtain ⟨rest, hrest⟩ := List.head?_eq_some_iff.mp (beq_iff_eq.mp hl)
        obtain ⟨t, ht, -⟩ := eq_cons_of_collapse_eq_cons (by decide) hrest
        rw [ht]
        rfl
      exact ⟨x.text, mem_lines_of_mem_stretches hx hdir, hdir, rfl⟩
  · rintro ⟨line, hline, hdir, rfl⟩
    exact characters.collapse_mem_splitOn_render hbreak (directive_mem_stretches hline hdir)

end Compaction

end Cloak
