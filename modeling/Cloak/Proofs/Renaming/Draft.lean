import Cloak.Proofs.Renaming.Skeleton

/-! Renaming of skeletons. Each pass has its counterpart on skeletons, which knows the symbols of a table and not their names;
    spelled out, it is the pass itself. So what a renaming does to a text, names apart, is settled by the symbols. -/

namespace Cloak

/-! ### Drafts -/

/-- A skeleton after renaming, and how many occurrences were replaced. -/
structure Draft where
  skeleton : Skeleton
  replaced : Nat

namespace Draft

def spell (m : Mappings) (d : Draft) : Pass := ⟨d.skeleton.spell m, d.replaced⟩

/-- The draft with a skeleton before it. -/
def after (l : Skeleton) (d : Draft) : Draft := ⟨l ++ d.skeleton, d.replaced⟩

@[simp]
theorem text_spell (m : Mappings) (d : Draft) : (d.spell m).text = d.skeleton.spell m := rfl

@[simp]
theorem replaced_spell (m : Mappings) (d : Draft) : (d.spell m).replaced = d.replaced := rfl

theorem spell_after (m : Mappings) (l : Skeleton) (d : Draft) : (d.after l).spell m = (d.spell m).after (l.spell m) 0 := by
  simp [spell, after, Pass.after]

end Draft

/-- What a rule makes of a skeleton, word by word. -/
def Rule.draft (rule : Rule Token) (k : Skeleton) : Draft :=
  ⟨(rule.rewrite [] (clusters Token.isWord k)).flatten, rule.count [] (clusters Token.isWord k)⟩

namespace Skeleton

/-- The word is literal, but for a reference that may stand at its end. -/
def IsTidy (c : Skeleton) : Prop := ∃ t, c = ofText t ∨ ∃ category symbol, c = ofText t ++ [.ref category symbol]

/-- Every reference is to a symbol of the tables, and stands at the end of its word. -/
structure Formed (symbols : Category → List Text) (k : Skeleton) : Prop where
  refs : ∀ category symbol, Token.ref category symbol ∈ k → symbol ∈ symbols category
  tidy : ∀ c ∈ clusters Token.isWord k, IsTidy c

/-- A rule that keeps skeletons formed. -/
structure Writes (symbols : Category → List Text) (rule : Rule Token) : Prop extends rule.Keeps Token.isWord where
  refs : ∀ c rest d, rule c rest = some d → ∀ category symbol, Token.ref category symbol ∈ d → symbol ∈ symbols category
  tidy : ∀ c rest d, rule c rest = some d → IsTidy d

section
variable {symbols : Category → List Text} {rule : Rule Token} {k : Skeleton}

theorem Formed.draft (hk : Formed symbols k) (hr : Writes symbols rule) : Formed symbols (rule.draft k).skeleton where
  refs category symbol h := by
    obtain ⟨d, hd, h⟩ := List.mem_flatten.mp h
    rcases Rule.mem_rewrite hd with hd | ⟨c, -, rest, hd⟩
    · exact hk.refs category symbol ((infix_of_mem_clusters hd).subset h)
    · exact hr.refs c rest d hd category symbol h
  tidy d hd := by
    rw [Rule.draft, hr.clusters_rewrite] at hd
    rcases Rule.mem_rewrite hd with hd | ⟨c, -, rest, hd⟩
    · exact hk.tidy d hd
    · exact hr.tidy c rest d hd

theorem isTidy_of_literal {c : Skeleton} (h : ∀ t ∈ c, ∃ a, t = .char a) : IsTidy c := by
  refine ⟨blind c, Or.inl ?_⟩
  induction c with
  | nil => rfl
  | cons t c ih =>
    obtain ⟨a, rfl⟩ := h t List.mem_cons_self
    exact congrArg (Token.char a :: ·) (ih fun t ht => h t (List.mem_cons_of_mem _ ht))

theorem exists_char_of_mem_ofText {s : Text} {t : Token} (h : t ∈ ofText s) : ∃ a, t = .char a := by
  obtain ⟨a, -, rfl⟩ := List.mem_map.mp h
  exact ⟨a, rfl⟩

theorem formed_ofText (symbols : Category → List Text) (s : Text) : Formed symbols (ofText s) where
  refs category symbol h := by
    obtain ⟨a, h⟩ := exists_char_of_mem_ofText h
    cases h
  tidy c hc := isTidy_of_literal fun t ht => exists_char_of_mem_ofText ((infix_of_mem_clusters hc).subset ht)

@[simp]
theorem blind_ofText (s : Text) : blind (ofText s) = s := by
  induction s with
  | nil => rfl
  | cons c s ih => exact congrArg (c :: ·) ih

end

/-! ### Rules on skeletons -/

/-- Puts a reference for the word `symbol` where the rest admits it. -/
def wordRule (category : Category) (symbol : Text) (admits : Text → Bool) : Rule Token := fun c rest =>
  if c = ofText symbol ∧ admits (blind rest) = true then some [.ref category symbol] else none

/-- Puts a reference for the function `f` at the end of a literal word that a call follows. -/
def callRule (category : Category) (f : Text) : Rule Token := fun c rest =>
  if isCallFollower (blind rest) = true ∧ c = ofText (blind c) then
    (stem? f (blind c)).map fun stem => ofText stem ++ [.ref category f]
  else none

section
variable {symbols : Category → List Text} {category : Category} {symbol : Text}

theorem callRule_eq_some {c rest d : Skeleton} (hf : symbol ≠ []) (h : callRule category symbol c rest = some d) :
    ∃ stem, c = ofText (stem ++ symbol) ∧ d = ofText stem ++ [.ref category symbol] := by
  unfold callRule at h
  split at h
  · next hc =>
    obtain ⟨stem, hstem, rfl⟩ := Option.map_eq_some_iff.mp h
    exact ⟨stem, by rw [← eq_append_of_stem? hf hstem]; exact hc.2, rfl⟩
  · cases h

theorem writes_wordRule (hw : IsWordText symbol) (hs : symbol ∈ symbols category) (admits : Text → Bool) :
    Writes symbols (wordRule category symbol admits) := by
  have hsome : ∀ {c rest d}, wordRule category symbol admits c rest = some d →
      c = ofText symbol ∧ d = [.ref category symbol] := fun {c rest d} h => by
    unfold wordRule at h
    split at h
    · next hc => exact ⟨hc.1, (Option.some.inj h).symm⟩
    · cases h
  refine ⟨⟨fun t rest ht => if_neg fun h => ?_, fun c rest d _ h => ?_⟩, fun c rest d h cat sym href => ?_,
    fun c rest d h => ?_⟩
  · have hmem : t ∈ ofText symbol := h.1 ▸ List.mem_cons_self
    obtain ⟨a, ha, rfl⟩ := List.mem_map.mp hmem
    have := hw.all a ha
    rw [Token.isWord, this] at ht
    cases ht
  · rw [(hsome h).2]
    exact ⟨List.cons_ne_nil _ _, fun t ht => by rw [List.mem_singleton.mp ht]; rfl⟩
  · rw [(hsome h).2, List.mem_singleton] at href
    cases href
    exact hs
  · exact ⟨[], Or.inr ⟨category, symbol, (hsome h).2⟩⟩

theorem writes_callRule (hw : IsWordText symbol) (hs : symbol ∈ symbols category) :
    Writes symbols (callRule category symbol) := by
  refine ⟨⟨fun t rest ht => ?_, fun c rest d hc h => ?_⟩, fun c rest d h cat sym href => ?_, fun c rest d h => ?_⟩
  · cases h : callRule category symbol [t] rest with
    | none => rfl
    | some d =>
      -- A word that ends with the function has a word character, so it is no single token outside words.
      obtain ⟨stem, hc, -⟩ := callRule_eq_some hw.ne_nil h
      obtain ⟨a, ha⟩ := List.exists_mem_of_ne_nil symbol hw.ne_nil
      have hmem : Token.char a ∈ [t] := hc ▸ List.mem_map_of_mem (List.mem_append_right stem ha)
      rw [← List.mem_singleton.mp hmem, Token.isWord, hw.all a ha] at ht
      cases ht
  · obtain ⟨stem, rfl, rfl⟩ := callRule_eq_some hw.ne_nil h
    refine ⟨List.append_ne_nil_of_right_ne_nil _ (List.cons_ne_nil _ _), fun t ht => ?_⟩
    rcases List.mem_append.mp ht with ht | ht
    · exact hc t (ofText_append stem symbol ▸ List.mem_append_left _ ht)
    · rw [List.mem_singleton.mp ht]
      rfl
  · obtain ⟨stem, -, rfl⟩ := callRule_eq_some hw.ne_nil h
    rcases List.mem_append.mp href with href | href
    · obtain ⟨a, href⟩ := exists_char_of_mem_ofText href
      cases href
    · rw [List.mem_singleton] at href
      cases href
      exact hs
  · obtain ⟨stem, -, rfl⟩ := callRule_eq_some hw.ne_nil h
    exact ⟨stem, Or.inr ⟨category, symbol, rfl⟩⟩

end

/-! ### Spelling what a rule makes -/

/-- On tidy words, the rule on texts does what the rule on skeletons does. -/
def Spells (m : Mappings) (rule : Rule Token) (textRule : Rule Char) : Prop :=
  ∀ c rest, Named m c → Named m rest → IsTidy c → textRule (spell m c) (spell m rest) = (rule c rest).map (spell m)

section
variable {m : Mappings} {rule : Rule Token} {textRule : Rule Char}

theorem rewrite_spell (h : Spells m rule textRule) {cs : List Skeleton} (hcs : ∀ c ∈ cs, Named m c ∧ IsTidy c) :
    textRule.rewrite [] (cs.map (spell m)) = (rule.rewrite [] cs).map (spell m) ∧
      textRule.count [] (cs.map (spell m)) = rule.count [] cs := by
  induction cs with
  | nil => exact ⟨rfl, rfl⟩
  | cons c cs ih =>
    obtain ⟨hrewrite, hcount⟩ := ih fun d hd => hcs d (List.mem_cons_of_mem c hd)
    have hrest : Named m (cs.flatten ++ []) := fun category symbol href => by
      rw [List.append_nil] at href
      obtain ⟨d, hd, href⟩ := List.mem_flatten.mp href
      exact (hcs d (List.mem_cons_of_mem c hd)).1 category symbol href
    have hhead := h c _ (hcs c List.mem_cons_self).1 hrest (hcs c List.mem_cons_self).2
    rw [spell_append, spell_flatten, spell_nil] at hhead
    rw [List.map_cons, Rule.rewrite, Rule.rewrite, Rule.count, Rule.count, hrewrite, hcount, hhead]
    cases rule c (cs.flatten ++ []) with
    | none => exact ⟨rfl, rfl⟩
    | some d => exact ⟨rfl, rfl⟩

theorem pass_spell (h : Spells m rule textRule) {symbols : Category → List Text} {k : Skeleton} (hn : Named m k)
    (hk : Formed symbols k) : textRule.pass (spell m k) = (rule.draft k).spell m := by
  have hcs : ∀ c ∈ clusters Token.isWord k, Named m c ∧ IsTidy c := fun c hc =>
    ⟨hn.of_subset (infix_of_mem_clusters hc).subset, hk.tidy c hc⟩
  obtain ⟨hrewrite, hcount⟩ := rewrite_spell h hcs
  rw [Rule.pass, clusters_spell hn, hrewrite, hcount, Draft.spell, Rule.draft, spell_flatten]

end
end Skeleton

/-! ### Names that are no symbols -/

/-- The symbols of each category. -/
def Mappings.symbols (m : Mappings) (c : Category) : List Text := (m.table c).symbols

/-- Mappings in which no name can be mistaken for a symbol: names are opaque, symbols are words that contain no name, a
    function has a letter that no name has, and no keyword is `define`. -/
structure Mappings.Unmistakable (m : Mappings) : Prop where
  form : ∀ name ∈ m.names, isOpaqueName name = true
  word : ∀ c, ∀ x ∈ m.symbols c, IsWordText x
  apart : ∀ name ∈ m.names, ∀ c, ∀ x ∈ m.symbols c, ¬ name <:+: x
  function : ∀ c, c = .localFunction ∨ c = .libraryFunction → ∀ f ∈ m.symbols c, ∃ a ∈ f, isHexDigit a = false
  keyword : defineWord ∉ m.symbols .keyword

namespace Skeleton
variable {m : Mappings} {category : Category} {e : Text × Text} {k : Skeleton}

theorem find?_of_mem_table (he : e ∈ (m.table category).entries) : m.find? category e.1 = some e.2 :=
  SymbolTable.find?_of_mem_entries he

theorem mem_symbols_of_mem_table (he : e ∈ (m.table category).entries) : e.1 ∈ m.symbols category := List.mem_map_of_mem he

theorem mem_names_of_find? {symbol name : Text} (h : m.find? category symbol = some name) : name ∈ m.names := by
  obtain ⟨d, hd, rfl⟩ := Option.map_eq_some_iff.mp h
  exact Mappings.mem_names.mpr ⟨category, d, List.mem_of_find?_eq_some hd, rfl⟩

theorem named_of_refs (hm : m.Unmistakable)
    (hk : ∀ category symbol, Token.ref category symbol ∈ k → symbol ∈ m.symbols category) : Named m k := by
  intro category symbol h
  obtain ⟨e, he, rfl⟩ := List.mem_map.mp (hk category symbol h)
  have hfind := find?_of_mem_table he
  exact ⟨e.2, hfind, hm.form e.2 (mem_names_of_find? hfind)⟩

theorem Formed.named (hm : m.Unmistakable) (hk : Formed m.symbols k) : Named m k := named_of_refs hm hk.refs

/-- A tidy word reads as a symbol only if it is the symbol. -/
theorem spell_eq_symbol_iff (hm : m.Unmistakable) {d : Category} {x : Text} (hx : x ∈ m.symbols d) {c : Skeleton}
    (hn : Named m c) (hc : IsTidy c) : spell m c = x ↔ c = ofText x := by
  refine ⟨fun h => ?_, fun h => by rw [h, spell_ofText]⟩
  obtain ⟨t, rfl | ⟨category, symbol, rfl⟩⟩ := hc
  · rw [← h, spell_ofText]
  · obtain ⟨name, hfind, -⟩ := hn category symbol (List.mem_append_right _ List.mem_cons_self)
    rw [spell_append, spell_ofText, spell_ref hfind] at h
    exact absurd ⟨t, [], by rw [List.append_nil, h]⟩ (hm.apart name (mem_names_of_find? hfind) d x hx)

/-- No function stands at the end of a word that ends with a name: it would be a part of the name, or the name of it. -/
theorem stem?_append_name (hm : m.Unmistakable) (hcat : category = .localFunction ∨ category = .libraryFunction) {f : Text}
    (hf : f ∈ m.symbols category) {name : Text} (hname : name ∈ m.names) (t : Text) : stem? f (t ++ name) = none := by
  cases hstem : stem? f (t ++ name) with
  | none => rfl
  | some stem =>
    have heq := eq_append_of_stem? (hm.word category f hf).ne_nil hstem
    rcases List.append_eq_append_iff.mp heq with ⟨u, -, hu⟩ | ⟨u, -, hu⟩
    · obtain ⟨a, ha, hhex⟩ := hm.function category hcat f hf
      have := (isOpaqueName_iff.mp (hm.form name hname)).2.1 a (hu ▸ List.mem_append_right u ha)
      rw [hhex] at this
      cases this
    · exact absurd ⟨u, [], by rw [List.append_nil, hu]⟩ (hm.apart name hname category f hf)

theorem spells_wordRule (hm : m.Unmistakable) (he : e ∈ (m.table category).entries) {admits : Text → Bool}
    (ha : ∀ rest, Named m rest → admits (spell m rest) = admits (blind rest)) :
    Spells m (wordRule category e.1 admits) (Cloak.wordRule e.1 e.2 admits) := by
  intro c rest hn hrest hc
  have hsym := spell_eq_symbol_iff hm (mem_symbols_of_mem_table he) hn hc
  unfold wordRule Cloak.wordRule
  rw [ha rest hrest]
  by_cases h : c = ofText e.1 ∧ admits (blind rest) = true
  · rw [if_pos h, if_pos ⟨hsym.mpr h.1, h.2⟩, Option.map_some, spell_ref (find?_of_mem_table he)]
  · rw [if_neg h, if_neg fun h' => h ⟨hsym.mp h'.1, h'.2⟩, Option.map_none]

theorem spells_callRule (hm : m.Unmistakable) (hcat : category = .localFunction ∨ category = .libraryFunction)
    (he : e ∈ (m.table category).entries) : Spells m (callRule category e.1) (Cloak.callRule e.1 e.2) := by
  intro c rest hn hrest hc
  unfold callRule Cloak.callRule
  rw [isCallFollower_spell hrest]
  obtain ⟨t, rfl | ⟨category', symbol, rfl⟩⟩ := hc
  · rw [spell_ofText, blind_ofText]
    cases hcall : isCallFollower (blind rest) with
    | false => simp
    | true => cases stem? e.1 t <;> simp [spell_ref (find?_of_mem_table he), -spell_cons]
  · obtain ⟨name, hfind, -⟩ := hn category' symbol (List.mem_append_right _ List.mem_cons_self)
    have hnone := stem?_append_name hm hcat (mem_symbols_of_mem_table he) (mem_names_of_find? hfind) t
    have hlit : ∀ s, ofText t ++ [.ref category' symbol] ≠ ofText s := fun s h => by
      have hmem : Token.ref category' symbol ∈ ofText s := h ▸ List.mem_append_right _ List.mem_cons_self
      obtain ⟨a, ha⟩ := exists_char_of_mem_ofText hmem
      cases ha
    rw [spell_append, spell_ofText, spell_ref hfind, hnone, Option.map_none, ite_self, if_neg fun h => hlit _ h.2,
      Option.map_none]

end Skeleton
end Cloak
