import Cloak.Proofs.Harvest.Declarator
import Cloak.Proofs.Text.Utf8

/-! What is harvested as a variable. Every name is an identifier and a whole word of the source, so the search of the renaming finds
    it there, and every list of declarators is read from a byte where a character begins. The name can be a type word: a chain of
    type words that nothing but a closing character follows gives up its last word. -/

namespace Cloak

/-! ### Names are found again -/

theorem mem_words_of_endsDeclarator {s x : Text} (hx : IsWordText x) (h : EndsDeclarator x s) : x ∈ words s := by
  obtain ⟨a, b, rfl, hend, hb⟩ := h
  have hout : StartsOutside isWord b := by
    intro c hc
    by_cases hblank : isBlank c = true
    · exact not_isWord_of_isBlank hblank
    · have hstart : StartsOutside isBlank b := fun e he => by
        rw [Option.mem_unique he hc]
        exact Bool.eq_false_iff.mpr hblank
      rw [Text.trimStart_of_startsOutside hstart] at hb
      exact not_isWord_of_mem_closers (hb c hc)
  exact mem_words_append hend hx hout

theorem replaced_sweep_pos {s x : Text} (hx : IsWordText x) (h : x ∈ words s) (name : Text) :
    0 < ((Search.word x).replace name .always s).replaced := by
  rw [Search.replace_eq_sweep, Search.sweep_word hx (by simp [isWordAt])]
  refine Rule.count_pos (List.mem_filter.mp h).1 fun rest => ?_
  rw [wordRule, if_pos ⟨rfl, rfl⟩]
  rfl

theorem exists_hit_of_mem_words {s x : Text} (hx : IsWordText x) (h : x ∈ words s) :
    ∃ rest, Search.Piece.hit rest ∈ (Search.word x).pieces s := by
  have hpos := replaced_sweep_pos hx h []
  rw [Search.replace_eq] at hpos
  obtain ⟨piece, hpiece, hjudge⟩ := List.mem_map.mp (List.count_pos_iff.mp hpos)
  cases piece with
  | char c => cases hjudge
  | hit rest => exact ⟨rest, hpiece⟩

/-! ### Lists by their offset -/

/-- The byte of the source after the declaration. -/
def Declaration.endIn (source : Text) (d : Declaration) : Nat := Utf8.size source - Utf8.size d.rest

/-- The declarators of the list that begins at a byte of the source, if a character begins there. -/
def trailingAt? (source : Text) (offset : Nat) : Option (List Declarator) :=
  (Utf8.dropBytes? offset source).map trailingDeclarators

/-- The names of a declaration, its list read from the byte of the comma that closes it. -/
def Declaration.namesAt? (source : Text) (d : Declaration) : Option (List Text) :=
  if d.closer = ',' then
    if d.endIn source = 0 then none
    else (trailingAt? source (d.endIn source - 1)).map fun ds => ds.filterMap Declarator.name? ++ [d.name]
  else some [d.name]

theorem namesAt?_of_standsIn {source : Text} {d : Declaration} (h : d.StandsIn source) : d.namesAt? source = some d.names := by
  obtain ⟨before, body, rfl, -, hbegins⟩ := h
  obtain ⟨front, tail, hframes⟩ := hbegins.exists_frames
  rw [Declaration.namesAt?, Declaration.names, Declaration.declarators]
  split
  · next hcloser =>
    have hsource : before ++ body = before ++ (front ++ (d.name ++ tail)) ++ ',' :: d.rest := by
      rw [hframes.eq, hcloser]
      simp only [List.append_assoc]
    have hoffset : ∀ front : Text, d.endIn (front ++ ',' :: d.rest) = Utf8.size front + 1 := by
      intro front
      have hcomma : Char.utf8Size ',' = 1 := rfl
      rw [Declaration.endIn, Utf8.size_append, Utf8.size_cons, hcomma]
      omega
    rw [hsource, hoffset, if_neg (Nat.succ_ne_zero _), Nat.add_sub_cancel, trailingAt?, Utf8.dropBytes?_size,
      List.filterMap_append]
    rfl
  · rfl

/-- No list of declarators is read from inside a character or beyond the end, and every variable name of a text is an identifier and
    a whole word of it, where the search for whole words finds it. -/
theorem variableNames_found_again (source : Text) :
    (∀ d ∈ declarations source, d.namesAt? source = some d.names) ∧
    ∀ x ∈ variableNames source, isIdentifier x = true ∧ x ∈ words source ∧
      (∃ rest, Search.Piece.hit rest ∈ (Search.word x).pieces source) ∧
      ∀ name, Utf8.size x ≤ Search.longestWord → 0 < (replaceWord x name .always source).replaced := by
  refine ⟨fun d hd => namesAt?_of_standsIn (mem_declarations_iff.mp hd), fun x hx => ?_⟩
  obtain ⟨d, hd, hnames⟩ := mem_variableNames_iff.mp hx
  have hid := isIdentifier_of_names hd hnames
  have hword := isWordText_of_isIdentifier hid
  have hmem := mem_words_of_endsDeclarator hword (endsDeclarator_of_names hd hnames)
  refine ⟨hid, hmem, exists_hit_of_mem_words hword hmem, fun name hshort => ?_⟩
  rw [replaceWord, if_neg (Nat.not_lt.mpr hshort)]
  exact replaced_sweep_pos hword hmem name

/-! ### Type words -/

/-- A type word is a variable exactly if some declaration gives it. None is where no type word comes, up to white space, before a
    closing character or the end of the text. -/
theorem typeWord_harvested_iff (source : Text) :
    (∀ w ∈ typeWords, (w ∈ variableNames source ↔ ∃ d : Declaration, d.StandsIn source ∧ d.Names w)) ∧
    ((∀ w ∈ typeWords, ¬ EndsDeclarator w source) → ∀ w ∈ typeWords, w ∉ variableNames source) := by
  refine ⟨fun w _ => mem_variableNames_iff, fun h w hw hmem => ?_⟩
  obtain ⟨d, hd, hnames⟩ := mem_variableNames_iff.mp hmem
  exact h w hw (endsDeclarator_of_names hd hnames)

/-- The operand of `sizeof` declares nothing, but its last word is taken for a variable and renamed without an alias. -/
theorem variableNames_of_sizeof :
    let source := "n=sizeof(unsigned int);".toList
    "int".toList ∈ typeWords ∧ variableNames source = ["int".toList] ∧
      renameVariables (.ofList [("int".toList, "a1".toList)]) source = ⟨"n=sizeof(unsigned a1);".toList, 1⟩ := by
  decide +kernel

end Cloak
