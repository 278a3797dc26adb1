import Cloak.Proofs.Compaction.Line
import Cloak.Proofs.Text.Words

/-! The words of a compact text. Lines are joined with nothing between them, so a word at the end of an ordinary line and a word
    at the beginning of the next become one. Nothing else that compaction does makes or divides a word: white space is made
    shorter and never left out, and what is left out is blank. -/

namespace Cloak.Compaction

/-! ### Words line by line -/

/-- Joining the lines makes one word of the last word of `a` and the first of `b`. No directive is joined to the next line. -/
def joinsWords (a b : Text) : Bool := !isDirective a && runsOn a b

/-- The words of lines in their order, with one word for every two that joining makes one. -/
def wordsOfLines : List Text → List Text
  | [] => []
  | [l] => words l
  | l :: l' :: ls =>
    if joinsWords l l' then fuse (words l) (wordsOfLines (l' :: ls)) else words l ++ wordsOfLines (l' :: ls)

section
variable {a b : Text} {ls r : List Text}

theorem not_isWord_of_isLineBreak {c : Char} (h : isLineBreak c = true) : isWord c = false :=
  not_isWord_of_isBlank (isBlank_of_isLineBreak h)

theorem words_eq_flatMap_lines (s : Text) : words s = (lines s).flatMap words := by
  induction s using piece_induction isLineBreak with
  | piece l hl =>
    rw [lines_eq, List.splitOnP_eq_singleton hl]
    cases l with
    | nil => rfl
    | cons c l => simp
  | cut l c s hl hc ih =>
    rw [lines_eq, List.splitOnP_append_cons_of_forall_mem hl c hc, words_append_cons_of_neg (not_isWord_of_isLineBreak hc), ih]
    cases l with
    | nil => rfl
    | cons d l => simp [lines_eq]

theorem ne_nil_of_mem_lines {s l : Text} (h : l ∈ lines s) : l ≠ [] := by
  rintro rfl
  cases (List.mem_filter.mp h).2

theorem not_runsOn_of_isDirective (h : isDirective b = true) : runsOn a b = false := by
  have hhead : b.head? = some '#' := beq_iff_eq.mp h
  have hmark : isWord '#' = false := by decide
  simp [runsOn, hhead, isWordAt, hmark]

theorem runsOn_append (h : b ≠ []) (t : Text) : runsOn a (b ++ t) = runsOn a b := by
  obtain ⟨c, b, rfl⟩ := List.exists_cons_of_ne_nil h
  rfl

theorem wordsOfLines_cons_of_not_joinsWords (h : ∀ b ∈ ls.head?, joinsWords a b = false) :
    wordsOfLines (a :: ls) = words a ++ wordsOfLines ls := by
  cases ls with
  | nil => exact (List.append_nil _).symm
  | cons b ls =>
    have hab : joinsWords a b = false := h b rfl
    simp [wordsOfLines, hab]

/-- Ordinary lines have the words of the text they are joined to. -/
theorem wordsOfLines_run_append (hne : r ≠ []) (hr : ∀ l ∈ r, isDirective l = false ∧ l ≠ [])
    (hls : StartsOutside (fun l => !isDirective l) ls) : wordsOfLines (r ++ ls) = words r.flatten ++ wordsOfLines ls := by
  induction r with
  | nil => exact absurd rfl hne
  | cons a r ih =>
    obtain ⟨⟨ha, -⟩, hr⟩ := List.forall_mem_cons.mp hr
    cases r with
    | nil =>
      rw [List.flatten_singleton]
      refine wordsOfLines_cons_of_not_joinsWords fun b hb => ?_
      have hdirective : isDirective b = true := by simpa using hls b hb
      rw [joinsWords, not_runsOn_of_isDirective hdirective, Bool.and_false]
    | cons b r =>
      have hb : b ≠ [] := (hr b List.mem_cons_self).2
      have hrest := ih (List.cons_ne_nil b r) hr
      have hjoint : runsOn a (b :: r).flatten = joinsWords a b := by
        rw [List.flatten_cons, runsOn_append hb, joinsWords, ha, Bool.not_false, Bool.true_and]
      rw [List.cons_append] at hrest
      rw [List.cons_append, List.cons_append, wordsOfLines, hrest, List.flatten_cons (l := a)]
      cases hab : joinsWords a b with
      | true =>
        rw [hab] at hjoint
        rw [if_pos rfl, words_append_of_runsOn hjoint, fuse_append (words_ne_nil_of_head? (runsOn_iff.mp hjoint).2)]
      | false =>
        rw [hab] at hjoint
        rw [if_neg Bool.false_ne_true, words_append_of_not_runsOn hjoint, List.append_assoc]

theorem wordsOfLines_eq_flatMap_clusters (hls : ∀ l ∈ ls, l ≠ []) :
    wordsOfLines ls = (clusters (fun l => !isDirective l) ls).flatMap fun r => words r.flatten := by
  induction ls using cluster_induction fun l => !isDirective l with
  | nil => rfl
  | single a ls ha ih =>
    obtain ⟨-, hls⟩ := List.forall_mem_cons.mp hls
    rw [clusters_cons_of_neg (p := fun l => !isDirective l) ha, List.flatMap_cons, List.flatten_singleton, ← ih hls]
    refine wordsOfLines_cons_of_not_joinsWords fun b _ => ?_
    rw [joinsWords, ha, Bool.false_and]
  | run r ls hne hr hout ih =>
    rw [clusters_run_append hne hr hout, List.flatMap_cons, ← ih fun l hl => hls l (List.mem_append_right r hl)]
    refine wordsOfLines_run_append hne (fun l hl => ⟨?_, hls l (List.mem_append_left ls hl)⟩) hout
    simpa using hr l hl

/-! ### What joining lines takes away -/

/-- Where no two words are joined the words are those of the lines. -/
theorem wordsOfLines_of_isChain (h : ls.IsChain fun a b => joinsWords a b = false) : wordsOfLines ls = ls.flatMap words := by
  induction ls with
  | nil => rfl
  | cons a ls ih =>
    obtain ⟨hhead, htail⟩ := List.isChain_cons.mp h
    rw [wordsOfLines_cons_of_not_joinsWords hhead, ih htail, List.flatMap_cons]

theorem wordsOfLines_ne_nil (h : words b ≠ []) : wordsOfLines (b :: ls) ≠ [] := by
  cases ls with
  | nil => exact h
  | cons c ls =>
    rw [wordsOfLines]
    split
    · exact List.append_ne_nil_of_right_ne_nil _ (List.cons_ne_nil _ _)
    · exact List.append_ne_nil_of_left_ne_nil h _

/-- Each joint takes one word away, so as many words as before mean that there is none. -/
theorem length_wordsOfLines (ls : List Text) : (wordsOfLines ls).length ≤ (ls.flatMap words).length ∧
    ((wordsOfLines ls).length = (ls.flatMap words).length → ls.IsChain fun a b => joinsWords a b = false) := by
  induction ls with
  | nil => exact ⟨Nat.le_refl _, fun _ => .nil⟩
  | cons a ls ih =>
    cases ls with
    | nil => exact ⟨by simp [wordsOfLines], fun _ => .singleton a⟩
    | cons b ls =>
      obtain ⟨hle, hchain⟩ := ih
      rw [wordsOfLines, List.flatMap_cons, List.length_append]
      cases hab : joinsWords a b with
      | true =>
        obtain ⟨hlast, hhead⟩ := runsOn_iff.mp (Bool.and_eq_true_iff.mp hab).2
        have hrest : wordsOfLines (b :: ls) ≠ [] := wordsOfLines_ne_nil (words_ne_nil_of_head? hhead)
        have hfuse := length_fuse (words_ne_nil_of_getLast? hlast) hrest
        rw [if_pos rfl]
        exact ⟨by omega, fun heq => by omega⟩
      | false =>
        rw [if_neg Bool.false_ne_true, List.length_append]
        exact ⟨by omega, fun heq => .cons_cons hab (hchain (by omega))⟩

end

/-! ### The words of a rendered text -/

theorem isWordAt_head?_collapse (s : Text) : isWordAt (collapse s).head? = isWordAt s.head? := by
  cases s using cluster_induction isBlank with
  | nil => rfl
  | single c s hc _ => rw [collapse_cons_of_neg hc, List.head?_cons, List.head?_cons]
  | run r s hne hr hs _ =>
    obtain ⟨b, hb, hblank⟩ := squeeze_eq_singleton hne hr
    obtain ⟨c, r, rfl⟩ := List.exists_cons_of_ne_nil hne
    have hc := not_isWord_of_isBlank (hr c List.mem_cons_self)
    have hb' := not_isWord_of_isBlank hblank
    rw [collapse_run_append hne hr hs, hb]
    simp [isWordAt, hc, hb']

theorem words_collapse (s : Text) : words (collapse s) = words s := by
  induction s using cluster_induction isBlank with
  | nil => rfl
  | single c s hc ih =>
    have hjoint : runsOn [c] (collapse s) = runsOn [c] s := by rw [runsOn, runsOn, isWordAt_head?_collapse]
    rw [collapse_cons_of_neg hc, ← List.singleton_append, ← List.singleton_append (x := c) (l := s)]
    cases hrun : runsOn [c] s with
    | true => rw [words_append_of_runsOn hrun, words_append_of_runsOn (hjoint.trans hrun), ih]
    | false => rw [words_append_of_not_runsOn hrun, words_append_of_not_runsOn (hjoint.trans hrun), ih]
  | run r s hne hr hs ih =>
    obtain ⟨b, hb, hblank⟩ := squeeze_eq_singleton hne hr
    rw [collapse_run_append hne hr hs, hb, List.singleton_append, words_cons_of_neg (not_isWord_of_isBlank hblank), ih]
    exact (words_append_of_forall_neg fun c hc => not_isWord_of_isBlank (hr c hc)).symm

theorem words_of_isBlankText {s : Text} (h : Text.isBlankText s = true) : words s = [] := by
  rw [← List.append_nil s]
  exact words_append_of_forall_neg fun c hc => not_isWord_of_isBlank (List.all_eq_true.mp h c hc)

theorem words_render (xs : List (Stretch Char)) : words (characters.render xs) = xs.flatMap fun x => words x.text := by
  have hbreak : isWord '\n' = false := by decide
  induction xs with
  | nil => rfl
  | cons x xs ih =>
    rw [List.flatMap_cons, ← ih]
    cases x with
    | directive line => rw [render_directive_cons, words_append_cons_of_neg hbreak, words_collapse, Stretch.text]
    | code joined =>
      by_cases hxs : xs = []
      · subst hxs
        rw [render_code, Stretch.text]
        split
        · next hblank =>
          rw [words_of_isBlankText hblank]
          rfl
        · rw [words_collapse]
          exact (List.append_nil _).symm
      · rw [render_code_cons _ hxs, Stretch.text]
        split
        · next hblank =>
          rw [words_of_isBlankText hblank]
          rfl
        · rw [List.append_assoc, List.singleton_append, words_append_cons_of_neg hbreak, words_collapse]

/-- The words of a compact text are those of its lines, with one word for every two that joining made one. So they are the words
    of the text exactly if no ordinary line that ends with a word comes before a line that begins with one. -/
theorem words_compact (s : Text) :
    words (compact s) = wordsOfLines (lines s) ∧
      (words (compact s) = words s ↔ (lines s).IsChain fun a b => joinsWords a b = false) := by
  have hlines : ∀ l ∈ lines s, l ≠ [] := fun l hl => ne_nil_of_mem_lines hl
  have hcompact : words (compact s) = wordsOfLines (lines s) := by
    rw [compact, Alphabet.compact, words_render, wordsOfLines_eq_flatMap_clusters hlines, Alphabet.stretches, List.flatMap_map]
    simp only [characters.text_join]
    rfl
  refine ⟨hcompact, ?_⟩
  rw [hcompact, words_eq_flatMap_lines]
  exact ⟨fun heq => (length_wordsOfLines _).2 (congrArg List.length heq), wordsOfLines_of_isChain⟩

/-- A type on a line of its own and the variable on the next become one word. -/
theorem compact_joins_words : words (compact "int\nx;".toList) ≠ words "int\nx;".toList := by decide +kernel

end Cloak.Compaction
