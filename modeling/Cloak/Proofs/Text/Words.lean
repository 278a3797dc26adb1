import Cloak.Harvest.Variable
import Cloak.Proofs.Text.Cluster
import Cloak.Proofs.Text.Cut
import Cloak.Text.Word

/-! The words of a text: its clusters of word characters. Where two texts are joined, the words stay as they are unless one goes
    on across the joint; then the last word of the first text and the first word of the second are one. -/

namespace Cloak

/-! ### White space -/

/-- The code points of white space. -/
def blankCodes : List Nat :=
  [32, 9, 10, 11, 12, 13, 0x85, 0xA0, 0x1680, 0x2000, 0x2001, 0x2002, 0x2003, 0x2004, 0x2005, 0x2006, 0x2007, 0x2008, 0x2009,
    0x200A, 0x2028, 0x2029, 0x202F, 0x205F, 0x3000]

theorem toNat_mem_blankCodes {c : Char} (h : isBlank c = true) : c.toNat ∈ blankCodes := by
  simp only [isBlank, Bool.or_eq_true, beq_iff_eq, decide_eq_true_eq] at h
  simp only [blankCodes, List.mem_cons, List.not_mem_nil, or_false]
  rcases h with (((((((((rfl | h) | h) | h) | h) | h) | h) | h) | h) | h) | h
  · exact Or.inl rfl
  all_goals omega

/-- White space is no part of a word. -/
theorem not_isWord_of_isBlank {c : Char} (h : isBlank c = true) : isWord c = false := by
  have all : ∀ n ∈ blankCodes, isWord (Char.ofNat n) = false := by decide +kernel
  have hc := all c.toNat (toNat_mem_blankCodes h)
  rwa [Char.ofNat_toNat] at hc

theorem not_isIdentChar_of_isBlank {c : Char} (h : isBlank c = true) : isIdentChar c = false := by
  refine Bool.eq_false_iff.mpr fun hc => ?_
  have := not_isWord_of_isBlank h
  rw [isWord_of_isIdentChar hc] at this
  cases this

/-! ### Words -/

/-- A symbol of word characters only, at least one. -/
structure IsWordText (symbol : Text) : Prop where
  ne_nil : symbol ≠ []
  all : ∀ c ∈ symbol, isWord c = true

theorem IsWordText.not_mem {w : Text} (h : IsWordText w) {c : Char} (hc : isWord c = false) : c ∉ w := by
  intro hmem
  rw [h.all c hmem] at hc
  cases hc

theorem IsWordText.isSolid {w : Text} (h : IsWordText w) : IsSolid w :=
  ⟨h.ne_nil, fun _ hc => Bool.eq_false_iff.mpr fun hb => h.not_mem (not_isWord_of_isBlank hb) hc⟩

theorem isIdentChar_of_mem_isIdentifier {x : Text} (h : isIdentifier x = true) : ∀ c ∈ x, isIdentChar c = true := by
  cases x with
  | nil => cases h
  | cons c x =>
    rw [isIdentifier, Bool.and_eq_true, List.all_eq_true] at h
    exact List.forall_mem_cons.mpr ⟨isIdentChar_of_isIdentStart h.1, h.2⟩

theorem isWordText_of_isIdentifier {x : Text} (h : isIdentifier x = true) : IsWordText x := by
  refine ⟨?_, fun c hc => isWord_of_isIdentChar (isIdentChar_of_mem_isIdentifier h c hc)⟩
  rintro rfl
  cases h

theorem head?_append_of_isIdentifier {x : Text} (h : isIdentifier x = true) (s : Text) :
    ∃ c, (x ++ s).head? = some c ∧ isIdentStart c = true := by
  cases x with
  | nil => cases h
  | cons c x => exact ⟨c, rfl, (Bool.and_eq_true_iff.mp h).1⟩

/-- A run of identifier characters that begins like an identifier is one. -/
theorem isIdentifier_takeWhile {s : Text} (h : (s.takeWhile isIdentChar).head?.any isIdentStart = true) :
    isIdentifier (s.takeWhile isIdentChar) = true := by
  cases hs : s.takeWhile isIdentChar with
  | nil => rw [hs] at h; cases h
  | cons c t =>
    rw [hs] at h
    have hall : ∀ d ∈ c :: t, isIdentChar d = true := fun d hd => List.mem_takeWhile_imp (hs ▸ hd)
    rw [isIdentifier, Bool.and_eq_true, List.all_eq_true]
    exact ⟨h, fun d hd => hall d (List.mem_cons_of_mem c hd)⟩

/-- Two runs of word characters at the beginning of one text are one run. -/
theorem eq_of_append_eq {a b s t : Text} (ha : ∀ c ∈ a, isWord c = true) (hb : ∀ c ∈ b, isWord c = true)
    (hs : StartsOutside isWord s) (ht : StartsOutside isWord t) (h : a ++ s = b ++ t) : a = b ∧ s = t := by
  have hab : a = b := by
    have := congrArg (List.takeWhile isWord) h
    rwa [List.takeWhile_append_of_pos ha, List.takeWhile_append_of_pos hb, takeWhile_of_startsOutside hs,
      takeWhile_of_startsOutside ht, List.append_nil, List.append_nil] at this
  exact ⟨hab, List.append_cancel_left (hab ▸ h)⟩

/-- The words of a text: its longest runs of word characters. -/
def words (s : Text) : List Text := (clusters isWord s).filter (·.all isWord)

/-- The text with each word replaced by what `f` gives for it. -/
def mapWords (f : Text → Text) (s : Text) : Text :=
  (clusters isWord s).flatMap fun c => if c.all isWord then f c else c

section
variable {k : Text → Text} {c : Char} {r s t : Text}

theorem words_cons_of_neg (hc : isWord c = false) : words (c :: s) = words s := by
  simp [words, clusters_cons_of_neg hc, hc]

theorem words_run_append (hr : IsWordText r) (hs : StartsOutside isWord s) : words (r ++ s) = r :: words s := by
  have hall : r.all isWord = true := List.all_eq_true.mpr hr.all
  simp [words, clusters_run_append hr.ne_nil hr.all hs, hall]

theorem mapWords_cons_of_neg (hc : isWord c = false) : mapWords k (c :: s) = c :: mapWords k s := by
  simp [mapWords, clusters_cons_of_neg hc, hc]

theorem mapWords_run_append (hr : IsWordText r) (hs : StartsOutside isWord s) :
    mapWords k (r ++ s) = k r ++ mapWords k s := by
  have hall : r.all isWord = true := List.all_eq_true.mpr hr.all
  rw [mapWords, clusters_run_append hr.ne_nil hr.all hs, List.flatMap_cons, if_pos hall]
  rfl

theorem startsOutside_mapWords (hs : StartsOutside isWord s) : StartsOutside isWord (mapWords k s) := by
  cases s with
  | nil => exact startsOutside_nil _
  | cons c s =>
    have hc := startsOutside_cons.mp hs
    rw [mapWords_cons_of_neg hc]
    exact startsOutside_cons.mpr hc

theorem words_append_of_forall_neg (h : ∀ c ∈ t, isWord c = false) : words (t ++ s) = words s := by
  induction t with
  | nil => rfl
  | cons c t ih =>
    obtain ⟨hc, ht⟩ := List.forall_mem_cons.mp h
    rw [List.cons_append, words_cons_of_neg hc, ih ht]

/-! ### Words of joined texts -/

/-- A word goes on from the end of `s` to the beginning of `t`. -/
def runsOn (s t : Text) : Bool := isWordAt s.getLast? && isWordAt t.head?

theorem runsOn_iff : runsOn s t = true ↔ isWordAt s.getLast? = true ∧ isWordAt t.head? = true := Bool.and_eq_true_iff

/-- The words of two texts, the last of the one and the first of the other as one word. -/
def fuse (ws vs : List Text) : List Text := ws.dropLast ++ (ws.getLast?.getD [] ++ vs.head?.getD []) :: vs.tail

theorem fuse_cons {w : Text} {ws vs : List Text} (h : ws ≠ []) : fuse (w :: ws) vs = w :: fuse ws vs := by
  obtain ⟨v, us, rfl⟩ := List.exists_cons_of_ne_nil h
  simp [fuse]

theorem fuse_append {ws vs us : List Text} (h : vs ≠ []) : fuse ws (vs ++ us) = fuse ws vs ++ us := by
  obtain ⟨v, vs, rfl⟩ := List.exists_cons_of_ne_nil h
  simp [fuse]

theorem length_fuse {ws vs : List Text} (hw : ws ≠ []) (hv : vs ≠ []) : (fuse ws vs).length + 1 = ws.length + vs.length := by
  have := List.length_pos_iff.mpr hw
  have := List.length_pos_iff.mpr hv
  simp only [fuse, List.length_append, List.length_dropLast, List.length_cons, List.length_tail]
  omega

theorem words_append_of_not_runsOn (h : runsOn s t = false) : words (s ++ t) = words s ++ words t := by
  rw [words, clusters_append, List.filter_append]
  · rfl
  · intro a ha b hb
    rwa [runsOn, Option.mem_def.mp ha, Option.mem_def.mp hb] at h

theorem not_runsOn_of_startsOutside (ht : StartsOutside isWord t) : runsOn s t = false := by
  cases t with
  | nil => simp [runsOn, isWordAt]
  | cons c t => simp [runsOn, isWordAt, startsOutside_cons.mp ht]

theorem mapWords_append_of_not_runsOn (h : runsOn s t = false) : mapWords k (s ++ t) = mapWords k s ++ mapWords k t := by
  rw [mapWords, clusters_append, List.flatMap_append]
  · rfl
  · intro a ha b hb
    rwa [runsOn, Option.mem_def.mp ha, Option.mem_def.mp hb] at h

theorem mapWords_of_fixed (h : ∀ w ∈ words s, k w = w) : mapWords k s = s := by
  induction s using cluster_induction isWord with
  | nil => rfl
  | single c s hc ih =>
    rw [words_cons_of_neg hc] at h
    rw [mapWords_cons_of_neg hc, ih h]
  | run r s hne hr hs ih =>
    rw [words_run_append ⟨hne, hr⟩ hs, List.forall_mem_cons] at h
    rw [mapWords_run_append ⟨hne, hr⟩ hs, h.1, ih h.2]

/-- What is put for a word stands between what is no word, so its own words can be replaced by themselves. -/
theorem mapWords_mapWords (g k : Text → Text) (s : Text) :
    mapWords g (mapWords k s) = mapWords (fun w => mapWords g (k w)) s := by
  induction s using cluster_induction isWord with
  | nil => rfl
  | single c s hc ih => rw [mapWords_cons_of_neg hc, mapWords_cons_of_neg hc, mapWords_cons_of_neg hc, ih]
  | run r s hne hr hs ih =>
    rw [mapWords_run_append ⟨hne, hr⟩ hs, mapWords_run_append ⟨hne, hr⟩ hs,
      mapWords_append_of_not_runsOn (not_runsOn_of_startsOutside (startsOutside_mapWords hs)), ih]

theorem mapWords_of_isWordText (hr : IsWordText r) : mapWords k r = k r := by
  have hempty : mapWords k [] = [] := rfl
  have hrun := mapWords_run_append (k := k) hr (startsOutside_nil isWord)
  rwa [List.append_nil, hempty, List.append_nil] at hrun

/-- Words put for words are the words of the text. -/
theorem words_mapWords (hk : ∀ w, IsWordText w → IsWordText (k w)) (s : Text) : words (mapWords k s) = (words s).map k := by
  induction s using cluster_induction isWord with
  | nil => rfl
  | single c s hc ih => rw [mapWords_cons_of_neg hc, words_cons_of_neg hc, words_cons_of_neg hc, ih]
  | run r s hne hr hs ih =>
    rw [mapWords_run_append ⟨hne, hr⟩ hs, words_run_append (hk r ⟨hne, hr⟩) (startsOutside_mapWords hs),
      words_run_append ⟨hne, hr⟩ hs, ih, List.map_cons]

/-- The end of a text that may go on as a word, and what stands before it. -/
theorem exists_append_word (s : Text) :
    ∃ t w, s = t ++ w ∧ (∀ c ∈ w, isWord c = true) ∧ ∀ u, runsOn t u = false := by
  refine ⟨(s.reverse.dropWhile isWord).reverse, (s.reverse.takeWhile isWord).reverse, ?_, fun c hc => ?_, fun u => ?_⟩
  · rw [← List.reverse_append, List.takeWhile_append_dropWhile, List.reverse_reverse]
  · exact List.mem_takeWhile_imp (List.mem_reverse.mp hc)
  · have hlast : isWordAt (s.reverse.dropWhile isWord).reverse.getLast? = false := by
      rw [List.getLast?_reverse]
      cases hdrop : s.reverse.dropWhile isWord with
      | nil => rfl
      | cons c rest =>
        have := List.head?_dropWhile_not isWord s.reverse
        rw [hdrop] at this
        simpa [isWordAt] using this
    rw [runsOn, hlast, Bool.false_and]

theorem words_append_cons_of_neg (hc : isWord c = false) : words (s ++ c :: t) = words s ++ words t := by
  have hstop : runsOn s (c :: t) = false := by simp [runsOn, isWordAt, hc]
  rw [words_append_of_not_runsOn hstop, words_cons_of_neg hc]

theorem exists_word_append (h : isWordAt t.head? = true) :
    ∃ w u, t = w ++ u ∧ IsWordText w ∧ StartsOutside isWord u := by
  refine ⟨t.takeWhile isWord, t.dropWhile isWord, List.takeWhile_append_dropWhile.symm, ⟨?_, ?_⟩,
    startsOutside_dropWhile isWord t⟩
  · cases t with
    | nil => cases h
    | cons c t =>
      have hc : isWord c = true := h
      rw [List.takeWhile_cons_of_pos hc]
      exact List.cons_ne_nil _ _
  · exact fun c hc => List.mem_takeWhile_imp hc

theorem words_ne_nil_of_head? (h : isWordAt t.head? = true) : words t ≠ [] := by
  obtain ⟨w, u, rfl, hw, hu⟩ := exists_word_append h
  rw [words_run_append hw hu]
  exact List.cons_ne_nil _ _

theorem words_ne_nil_of_getLast? (h : isWordAt s.getLast? = true) : words s ≠ [] := by
  induction s using cluster_induction isWord with
  | nil => cases h
  | single c s hc ih =>
    rw [words_cons_of_neg hc]
    refine ih ?_
    cases s with
    | nil => rw [List.getLast?_singleton, isWordAt, Option.any_some, hc] at h; cases h
    | cons d s => rwa [List.getLast?_cons_cons] at h
  | run r s hne hr hs _ =>
    rw [words_run_append ⟨hne, hr⟩ hs]
    exact List.cons_ne_nil _ _

/-- A word that goes on across the joint is the last of the one text and the first of the other. -/
theorem words_append_of_runsOn (h : runsOn s t = true) : words (s ++ t) = fuse (words s) (words t) := by
  obtain ⟨hlast, hhead⟩ := runsOn_iff.mp h
  clear h
  induction s using cluster_induction isWord with
  | nil => cases hlast
  | single c s hc ih =>
    rw [List.cons_append, words_cons_of_neg hc, words_cons_of_neg hc]
    refine ih ?_
    cases s with
    | nil => rw [List.getLast?_singleton, isWordAt, Option.any_some, hc] at hlast; cases hlast
    | cons d s => rwa [List.getLast?_cons_cons] at hlast
  | run r s hne hr hs ih =>
    rw [words_run_append ⟨hne, hr⟩ hs]
    cases s with
    | nil =>
      -- The run is the end of the text, and the second text begins with the rest of the word.
      obtain ⟨w, u, rfl, hw, hu⟩ := exists_word_append hhead
      have hjoined : IsWordText (r ++ w) := by
        refine ⟨fun hnil => hne (List.append_eq_nil_iff.mp hnil).1, fun c hc => ?_⟩
        rcases List.mem_append.mp hc with hc | hc
        · exact hr c hc
        · exact hw.all c hc
      rw [List.append_nil, ← List.append_assoc, words_run_append hjoined hu, words_run_append hw hu]
      rfl
    | cons c s =>
      have hlast' : isWordAt (c :: s).getLast? = true := by
        rwa [List.getLast?_append_of_ne_nil _ (List.cons_ne_nil c s)] at hlast
      have hs' : StartsOutside isWord (c :: s ++ t) := startsOutside_cons.mpr (startsOutside_cons.mp hs)
      rw [List.append_assoc, words_run_append ⟨hne, hr⟩ hs', ih hlast', fuse_cons (words_ne_nil_of_getLast? hlast')]

end

/-! ### Where words end -/

/-- A word character stands at the end of the text, or before it if the text is empty and `inWord` says so. -/
def endsWord (inWord : Bool) (s : Text) : Bool := s.foldl (fun _ c => isWord c) inWord

section
variable {b : Bool} {s t : Text}

theorem endsWord_append (b : Bool) (s t : Text) : endsWord b (s ++ t) = endsWord (endsWord b s) t := List.foldl_append

theorem endsWord_cons (b : Bool) (c : Char) (s : Text) : endsWord b (c :: s) = endsWord (isWord c) s := rfl

theorem endsWord_eq (b : Bool) (hs : s ≠ []) (b' : Bool) : endsWord b s = endsWord b' s := by
  obtain ⟨c, s, rfl⟩ := List.exists_cons_of_ne_nil hs
  rfl

theorem endsWord_of_forall_neg (h : ∀ c ∈ s, isWord c = false) : endsWord false s = false := by
  induction s with
  | nil => rfl
  | cons c s ih =>
    rw [endsWord_cons, h c List.mem_cons_self]
    exact ih fun d hd => h d (List.mem_cons_of_mem c hd)

theorem endsWord_of_forall (hne : s ≠ []) (h : ∀ c ∈ s, isWord c = true) : endsWord b s = true := by
  induction s generalizing b with
  | nil => exact absurd rfl hne
  | cons c s ih =>
    rw [endsWord_cons, h c List.mem_cons_self]
    cases s with
    | nil => rfl
    | cons d s => exact ih (List.cons_ne_nil d s) fun e he => h e (List.mem_cons_of_mem c he)

theorem isWordAt_getLast?_eq (s : Text) : isWordAt s.getLast? = endsWord false s := by
  rcases List.eq_nil_or_concat' s with rfl | ⟨s, c, rfl⟩
  · rfl
  · rw [List.getLast?_concat, endsWord_append]
    rfl

theorem endsWord_of_getLast? (h : ∀ c ∈ s.getLast?, isWord c = false) : endsWord false s = false := by
  rw [← isWordAt_getLast?_eq]
  cases hlast : s.getLast? with
  | none => rfl
  | some c => exact h c hlast

theorem words_append_word {w : Text} (hs : endsWord false s = false) (hw : IsWordText w) (ht : StartsOutside isWord t) :
    words (s ++ (w ++ t)) = words s ++ w :: words t := by
  have hstop : runsOn s (w ++ t) = false := by rw [runsOn, isWordAt_getLast?_eq, hs, Bool.false_and]
  rw [words_append_of_not_runsOn hstop, words_run_append hw ht]

theorem mem_words_append {w : Text} (hs : endsWord false s = false) (hw : IsWordText w) (ht : StartsOutside isWord t) :
    w ∈ words (s ++ (w ++ t)) := by
  rw [words_append_word hs hw ht]
  exact List.mem_append_right _ List.mem_cons_self

/-- A word after a text that ends outside words, with no other word after it, is the last one. -/
theorem getLast?_words_append {w : Text} (hs : endsWord false s = false) (hw : IsWordText w)
    (ht : ∀ c ∈ t, isWord c = false) : (words (s ++ (w ++ t))).getLast? = some w := by
  have hnone : words t = [] := by
    have := words_append_of_forall_neg (s := []) ht
    rwa [List.append_nil] at this
  rw [words_append_word hs hw fun c hc => ht c (List.mem_of_mem_head? hc), hnone, List.getLast?_concat]

end

end Cloak
