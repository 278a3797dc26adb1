import Cloak.Harvest.Keyword
import Cloak.Proofs.Name.Drawing
import Cloak.Proofs.Renaming.Sweep
import Mathlib.Data.List.Nodup

/-! Alias lines. The alias of a keyword goes in front of the text and is read again for every later keyword; nothing in it
    is found, so the pass is the renaming of the text itself with a block of aliases before it. The aliases of library
    functions go in front after their pass, and as no two of them are the same line, each function used has its own. -/

namespace Cloak

/-! ### Opaque names as words -/

theorem isWord_of_isHexDigit {c : Char} (h : isHexDigit c = true) : isWord c = true :=
  forall_hexDigit (P := fun c => isWord c = true) (forall_of_all (by decide)) h

theorem not_isBlank_of_isHexDigit {c : Char} (h : isHexDigit c = true) : isBlank c = false :=
  forall_hexDigit (P := fun c => isBlank c = false) (forall_of_all (by decide)) h

theorem isWordText_of_isOpaqueName {name : Text} (h : isOpaqueName name = true) : IsWordText name := by
  obtain ⟨hlen, hhex, -⟩ := isOpaqueName_iff.mp h
  refine ⟨fun hnil => ?_, fun c hc => isWord_of_isHexDigit (hhex c hc)⟩
  rw [hnil] at hlen
  cases hlen

theorem exists_cons_of_isOpaqueName {name : Text} (h : isOpaqueName name = true) :
    ∃ c t, name = c :: t ∧ isHexDigit c = true ∧ ∀ d ∈ t, isHexDigit d = true := by
  obtain ⟨c, t, rfl⟩ := List.exists_cons_of_ne_nil (isWordText_of_isOpaqueName h).ne_nil
  have hhex := (isOpaqueName_iff.mp h).2.1
  exact ⟨c, t, rfl, hhex c List.mem_cons_self, fun d hd => hhex d (List.mem_cons_of_mem c hd)⟩

/-! ### Blocks of aliases -/

/-- The word that opens a definition. -/
def defineWord : Text := "define".toList

theorem isWordText_defineWord : IsWordText defineWord := ⟨by decide, forall_of_all (by decide)⟩

/-- The alias lines of the entries of a table, that of the last on top. -/
def aliasBlock (es : List (Text × Text)) : Text := es.reverse.flatMap fun e => aliasLine e.1 e.2

/-! ### The words of alias lines -/

theorem aliasLine_eq (symbol name : Text) :
    aliasLine symbol name = '#' :: (defineWord ++ ' ' :: (name ++ ' ' :: (symbol ++ ['\n']))) := by
  have hopen : "#define ".toList = '#' :: (defineWord ++ [' ']) := by decide
  unfold aliasLine
  rw [hopen, List.append_assoc, List.append_assoc, List.append_assoc, List.cons_append, List.append_assoc]
  rfl

theorem clusters_aliasLine {symbol name : Text} (hs : IsWordText symbol) (hn : IsWordText name) :
    clusters isWord (aliasLine symbol name) = [['#'], defineWord, [' '], name, [' '], symbol, ['\n']] := by
  have hblank : isWord ' ' = false := by decide
  have hbreak : isWord '\n' = false := by decide
  rw [aliasLine_eq, clusters_cons_of_neg (by decide),
    clusters_run_append isWordText_defineWord.ne_nil isWordText_defineWord.all (startsOutside_cons.mpr hblank),
    clusters_cons_of_neg hblank, clusters_run_append hn.ne_nil hn.all (startsOutside_cons.mpr hblank),
    clusters_cons_of_neg hblank, clusters_run_append hs.ne_nil hs.all (startsOutside_cons.mpr hbreak),
    clusters_cons_of_neg hbreak, clusters_nil]

theorem getLast?_aliasLine (symbol name : Text) : (aliasLine symbol name).getLast? = some '\n' := by
  unfold aliasLine
  exact List.getLast?_concat

theorem aliasBlock_concat (es : List (Text × Text)) (e : Text × Text) :
    aliasBlock (es ++ [e]) = aliasLine e.1 e.2 ++ aliasBlock es := by
  rw [aliasBlock, List.reverse_append, List.reverse_singleton, List.singleton_append, List.flatMap_cons]
  rfl

/-- A block of aliases ends with a line break, if it is not empty. -/
theorem eq_of_mem_getLast?_aliasBlock {es : List (Text × Text)} {c : Char} (h : c ∈ (aliasBlock es).getLast?) :
    c = '\n' := by
  induction es using List.reverseRecOn with
  | nil => cases h
  | append_singleton es e ih =>
    rw [aliasBlock_concat, List.getLast?_append, getLast?_aliasLine, Option.mem_def, Option.or_eq_some_iff] at h
    rcases h with h | ⟨-, h⟩
    · exact ih h
    · exact (Option.some.inj h).symm

theorem clusters_aliasBlock_concat (es : List (Text × Text)) (e : Text × Text) :
    clusters isWord (aliasBlock (es ++ [e])) =
      clusters isWord (aliasLine e.1 e.2) ++ clusters isWord (aliasBlock es) := by
  rw [aliasBlock_concat]
  refine clusters_append fun c hc d _ => ?_
  rw [getLast?_aliasLine, Option.mem_def, Option.some.injEq] at hc
  rw [← hc]
  rfl

/-- The words of a block of aliases are the word `define`, the symbols and the names. -/
theorem mem_clusters_aliasBlock {es : List (Text × Text)} (hes : ∀ e ∈ es, IsWordText e.1 ∧ IsWordText e.2) {w : Text}
    (hw : IsWordText w) (h : w ∈ clusters isWord (aliasBlock es)) :
    w = defineWord ∨ ∃ e ∈ es, w = e.1 ∨ w = e.2 := by
  induction es using List.reverseRecOn with
  | nil => cases h
  | append_singleton es e ih =>
    have he := hes e (List.mem_append_right es List.mem_cons_self)
    have single : ∀ a, isWord a = false → w ≠ [a] := fun a ha hwa =>
      hw.not_mem ha (hwa ▸ List.mem_cons_self)
    rw [clusters_aliasBlock_concat, clusters_aliasLine he.1 he.2, List.mem_append] at h
    rcases h with h | h
    · simp only [List.mem_cons, List.not_mem_nil, or_false, single '#' (by decide), single ' ' (by decide),
        single '\n' (by decide), false_or] at h
      rcases h with h | h | h
      · exact Or.inl h
      · exact Or.inr ⟨e, List.mem_append_right es List.mem_cons_self, Or.inr h⟩
      · exact Or.inr ⟨e, List.mem_append_right es List.mem_cons_self, Or.inl h⟩
    · rcases ih (fun d hd => hes d (List.mem_append_left [e] hd)) h with h | ⟨d, hd, h⟩
      · exact Or.inl h
      · exact Or.inr ⟨d, List.mem_append_left [e] hd, h⟩

/-! ### The keyword pass -/

/-- Keywords that their own aliases do not disturb: symbols and names are words, no symbol is `define`, and no name is a
    symbol of the table. -/
structure SymbolTable.Aliasable (t : SymbolTable) : Prop where
  symbols : ∀ x ∈ t.symbols, IsWordText x ∧ x ≠ defineWord
  names : ∀ n ∈ t.names, IsWordText n ∧ n ∉ t.symbols

theorem mem_defaultKeywords_cases {x : Text} (h : x ∈ defaultKeywords) : IsWordText x ∧ x.length < 8 ∧ x ≠ defineWord := by
  have all : ∀ x ∈ defaultKeywords, x ≠ [] ∧ x.all isWord = true ∧ x.length < 8 ∧ x ≠ defineWord := by decide
  obtain ⟨hne, hword, h⟩ := all x h
  exact ⟨⟨hne, List.all_eq_true.mp hword⟩, h⟩

/-- Replacing a keyword leaves the aliases of other keywords as they are. -/
theorem replaceGuarded_aliasBlock {t : SymbolTable} (ht : t.Aliasable) {es : List (Text × Text)}
    (hes : ∀ e ∈ es, e ∈ t.entries) {e : Text × Text} (he : e ∈ t.entries) (hnew : e.1 ∉ es.map Prod.fst) (marker s : Text) :
    replaceGuarded marker e.1 e.2 (aliasBlock es ++ s) = (replaceGuarded marker e.1 e.2 s).after (aliasBlock es) 0 := by
  have hsym : ∀ {d}, d ∈ t.entries → d.1 ∈ t.symbols := List.mem_map_of_mem
  have hname : ∀ {d}, d ∈ t.entries → d.2 ∈ t.names := List.mem_map_of_mem
  obtain ⟨hword, hdefine⟩ := ht.symbols e.1 (hsym he)
  rw [replaceGuarded, replaceGuarded, replaceWord_eq_pass hword, replaceWord_eq_pass hword]
  refine pass_wordRule_append (fun c hc hce => ?_) fun c hc => ?_
  · subst hce
    have hall : ∀ d ∈ es, IsWordText d.1 ∧ IsWordText d.2 := fun d hd =>
      ⟨(ht.symbols d.1 (hsym (hes d hd))).1, (ht.names d.2 (hname (hes d hd))).1⟩
    rcases mem_clusters_aliasBlock hall hword hc with h | ⟨d, hd, h | h⟩
    · exact hdefine h
    · exact hnew (h ▸ List.mem_map_of_mem hd)
    · exact (ht.names d.2 (hname (hes d hd))).2 (h ▸ hsym he)
  · rw [eq_of_mem_getLast?_aliasBlock hc]
    decide

/-- The keyword pass is the guarded renaming of the text, with the block of aliases in front. -/
theorem renameKeywords_eq {t : SymbolTable} (ht : t.Aliasable) (s : Text) :
    renameKeywords t s = (Pass.overTable (replaceGuarded ['"']) t s).after (aliasBlock t.entries) 0 := by
  -- Each step finds the block of the entries done in front of its text and leaves it there.
  suffices hfold : ∀ (es done : List (Text × Text)) (p : Pass), done ++ es = t.entries →
      es.foldl (Pass.advance renameKeyword) (p.after (aliasBlock done) 0) =
        (es.foldl (Pass.advance (replaceGuarded ['"'])) p).after (aliasBlock t.entries) 0 from
    hfold t.entries [] ⟨s, 0⟩ rfl
  intro es
  induction es with
  | nil =>
    intro done p h
    rw [List.append_nil] at h
    rw [← h]
    rfl
  | cons e es ih =>
    intro done p h
    have hdone : ∀ d ∈ done, d ∈ t.entries := fun d hd => h ▸ List.mem_append_left (e :: es) hd
    have he : e ∈ t.entries := h ▸ List.mem_append_right done List.mem_cons_self
    have hnew : e.1 ∉ done.map Prod.fst := fun hd => by
      have hn := t.nodup
      rw [← h, List.map_append, List.nodup_append] at hn
      exact hn.2.2 e.1 hd e.1 List.mem_cons_self rfl
    rw [List.foldl_cons, List.foldl_cons, ← ih (done ++ [e]) _ (by rw [List.append_assoc, List.singleton_append, h])]
    congr 1
    simp only [Pass.advance, renameKeyword, replaceGuarded_aliasBlock ht hdone he hnew, aliasBlock_concat, Pass.after,
      List.append_assoc, Nat.zero_add]

/-! ### The library pass -/

/-- The entries that a pass over functions uses, each on the text left by the one before. -/
def usedEntries (s : Text) : List (Text × Text) → List (Text × Text)
  | [] => []
  | e :: es =>
    if 0 < (renameFunction e.1 e.2 s).replaced then e :: usedEntries (renameFunction e.1 e.2 s).text es
    else usedEntries (renameFunction e.1 e.2 s).text es

theorem usedEntries_sublist (s : Text) (es : List (Text × Text)) : (usedEntries s es).Sublist es := by
  induction es generalizing s with
  | nil => exact .slnil
  | cons e es ih =>
    unfold usedEntries
    split
    · exact .cons_cons e (ih _)
    · exact .cons e (ih _)

theorem aliasLine_injective {symbol name symbol' name' : Text} (hn : IsWordText name) (hn' : IsWordText name')
    (h : aliasLine symbol name = aliasLine symbol' name') : symbol = symbol' ∧ name = name' := by
  have hblank : ∀ s, StartsOutside isWord (' ' :: s) := fun s => startsOutside_cons.mpr rfl
  rw [aliasLine_eq, aliasLine_eq, List.cons.injEq] at h
  obtain ⟨hname, h⟩ := eq_of_append_eq hn.all hn'.all (hblank _) (hblank _) (List.cons.inj (List.append_cancel_left h.2)).2
  exact ⟨List.append_cancel_right (List.cons.inj h).2, hname⟩

theorem foldl_step_eq (used es : List (Text × Text)) (p : Pass)
    (h : ((used ++ es).map fun e => aliasLine e.1 e.2).Nodup) :
    es.foldl LibraryPass.step ⟨p, used.map fun e => aliasLine e.1 e.2⟩ =
      ⟨es.foldl (Pass.advance renameFunction) p, (used ++ usedEntries p.text es).map fun e => aliasLine e.1 e.2⟩ := by
  induction es generalizing used p with
  | nil => simp [usedEntries]
  | cons e es ih =>
    -- The line of the next entry is not noted yet, so whether it is noted now depends on the count alone.
    have hnew : aliasLine e.1 e.2 ∉ used.map fun d => aliasLine d.1 d.2 := fun hmem => by
      rw [List.map_append, List.map_cons, List.nodup_append] at h
      exact h.2.2 _ hmem _ List.mem_cons_self rfl
    rw [List.foldl_cons, List.foldl_cons, usedEntries]
    by_cases hp : 0 < (renameFunction e.1 e.2 p.text).replaced
    · have hstep : LibraryPass.step ⟨p, used.map fun d => aliasLine d.1 d.2⟩ e =
          ⟨Pass.advance renameFunction p e, (used ++ [e]).map fun d => aliasLine d.1 d.2⟩ := by
        simp [LibraryPass.step, hp, hnew, Pass.advance]
      have hused : used ++ e :: es = used ++ [e] ++ es := List.append_cons used e es
      rw [hused] at h
      rw [hstep, ih _ _ h, if_pos hp, List.append_assoc, List.singleton_append]
      rfl
    · have hstep : LibraryPass.step ⟨p, used.map fun d => aliasLine d.1 d.2⟩ e =
          ⟨Pass.advance renameFunction p e, used.map fun d => aliasLine d.1 d.2⟩ := by
        simp [LibraryPass.step, hp, Pass.advance]
      have hsub : (used ++ es).Sublist (used ++ e :: es) := (List.sublist_cons_self e es).append_left used
      rw [hstep, ih _ _ (h.sublist (hsub.map _)), if_neg hp]
      rfl

/-- The library pass is the renaming of functions, with the aliases of those used in front. -/
theorem renameLibraryFunctions_eq {t : SymbolTable} (ht : ∀ e ∈ t.entries, IsWordText e.2) (s : Text) :
    renameLibraryFunctions t s =
      (Pass.overTable renameFunction t s).after (aliasBlock (usedEntries s t.entries)) 0 := by
  have hlines : (t.entries.map fun e => aliasLine e.1 e.2).Nodup := by
    refine (List.nodup_map_iff_inj_on (t.nodup.of_map _)).mpr fun e he d hd h => ?_
    obtain ⟨h₁, h₂⟩ := aliasLine_injective (ht e he) (ht d hd) h
    exact Prod.ext h₁ h₂
  have hfold := foldl_step_eq [] t.entries ⟨s, 0⟩ hlines
  unfold renameLibraryFunctions
  rw [List.map_nil, List.nil_append] at hfold
  simp only [hfold, aliasBlock, Pass.after, Pass.overTable_eq, Nat.zero_add, List.flatMap_def, List.map_reverse]

end Cloak
