import Cloak.Proofs.Renaming.Simultaneous
import Cloak.Proofs.Symbol.Codebook

/-! Directives under renaming. A directive is a line that begins with `#`; its word comes after that mark and perhaps white space.
    Renaming words makes no line a directive and no directive an ordinary line. But the word of a directive is judged like every
    other word: as a keyword of the table it is renamed, unless a string opens before the next `;`. -/

namespace Cloak

/-! ### The directives of a text -/

/-- A directive: its word, which may be empty, and the text from there on. -/
structure Directive where
  word : Text
  rest : Text
  deriving DecidableEq, Repr

/-- White space inside a line. -/
def isInnerBlank (c : Char) : Bool := isBlank c && !isLineBreak c

/-- Reads a directive after its mark. -/
def Directive.read (s : Text) : Directive :=
  let body := s.dropWhile isInnerBlank
  ⟨body.takeWhile isWord, body.dropWhile isWord⟩

/-- The directives of a text; `lineStart` says whether a line begins with the text. -/
def directivesFrom (lineStart : Bool) : Text → List Directive
  | [] => []
  | c :: s =>
    if lineStart && c == '#' then .read s :: directivesFrom false s
    else directivesFrom (isLineBreak c) s

/-- The directives of a text, from the top. -/
def directives (s : Text) : List Directive := directivesFrom true s

theorem not_isWord_of_isInnerBlank {c : Char} (h : isInnerBlank c = true) : isWord c = false :=
  not_isWord_of_isBlank (Bool.and_eq_true_iff.mp h).1

section
variable {gap w rest s t : Text} {b : Bool} {c : Char}

theorem directivesFrom_cons_of_ne (hc : c ≠ '#') (b : Bool) (s : Text) : directivesFrom b (c :: s) = directivesFrom (isLineBreak c) s := by
  rw [directivesFrom, if_neg (by simp [hc])]

theorem directivesFrom_word_append (hw : IsWordText w) (b : Bool) (s : Text) : directivesFrom b (w ++ s) = directivesFrom false s := by
  obtain ⟨hne, hall⟩ := hw
  induction w generalizing b with
  | nil => exact absurd rfl hne
  | cons c w ih =>
    obtain ⟨hc, hall⟩ := List.forall_mem_cons.mp hall
    have hmark : c ≠ '#' := by
      rintro rfl
      cases hc
    have hinside : isLineBreak c = false := by
      refine Bool.eq_false_iff.mpr fun hbreak => ?_
      rw [not_isWord_of_isBlank (isBlank_of_isLineBreak hbreak)] at hc
      cases hc
    rw [List.cons_append, directivesFrom_cons_of_ne hmark, hinside]
    by_cases hw : w = []
    · rw [hw, List.nil_append]
    · exact ih false hw hall

theorem Directive.read_append (hgap : ∀ c ∈ gap, isInnerBlank c = true) (hw : ∀ c ∈ w, isWord c = true)
    (hrest : StartsOutside isWord rest) (hempty : w = [] → StartsOutside isInnerBlank rest) :
    read (gap ++ (w ++ rest)) = ⟨w, rest⟩ := by
  have hbody : StartsOutside isInnerBlank (w ++ rest) := by
    cases w with
    | nil => exact hempty rfl
    | cons c w =>
      refine startsOutside_cons.mpr (Bool.eq_false_iff.mpr fun hblank => ?_)
      have hc := hw c List.mem_cons_self
      rw [not_isWord_of_isInnerBlank hblank] at hc
      cases hc
  rw [read, List.dropWhile_append_of_pos hgap, dropWhile_of_startsOutside hbody, List.takeWhile_append_of_pos hw,
    List.dropWhile_append_of_pos hw, takeWhile_of_startsOutside hrest, dropWhile_of_startsOutside hrest, List.append_nil]

theorem Directive.exists_read (s : Text) : ∃ gap, s = gap ++ ((read s).word ++ (read s).rest) ∧
    (∀ c ∈ gap, isInnerBlank c = true) ∧ (∀ c ∈ (read s).word, isWord c = true) ∧ StartsOutside isWord (read s).rest ∧
    ((read s).word = [] → StartsOutside isInnerBlank (read s).rest) := by
  refine ⟨s.takeWhile isInnerBlank, ?_, fun c hc => List.mem_takeWhile_imp hc, fun c hc => List.mem_takeWhile_imp hc,
    startsOutside_dropWhile isWord _, fun hempty => ?_⟩
  · rw [read, List.takeWhile_append_dropWhile, List.takeWhile_append_dropWhile]
  · have hself := List.takeWhile_append_dropWhile (p := isWord) (l := s.dropWhile isInnerBlank)
    have hword : (s.dropWhile isInnerBlank).takeWhile isWord = [] := hempty
    rw [hword, List.nil_append] at hself
    have hout := startsOutside_dropWhile isInnerBlank s
    rwa [← hself] at hout

end

/-! ### Directives under a rule -/

/-- What a rule makes of a directive: its word is judged like any other word. -/
def Rule.onDirective (rule : Rule Char) (d : Directive) : Directive :=
  ⟨(rule d.word d.rest).getD d.word, (rule.pass d.rest).text⟩

section
variable {rule : Rule Char} (h : rule.Keeps isWord)
include h

theorem Rule.Keeps.head?_pass {s : Text} (hs : StartsOutside isWord s) : (rule.pass s).text.head? = s.head? := by
  cases s with
  | nil => rfl
  | cons c s =>
    rw [pass_cons_of_single h.single (startsOutside_cons.mp hs)]
    rfl

theorem Rule.Keeps.read_pass (hnil : ∀ rest, rule [] rest = none) (s : Text) :
    Directive.read (rule.pass s).text = rule.onDirective (Directive.read s) := by
  obtain ⟨gap, hs, hgap, hword, hrest, hempty⟩ := Directive.exists_read s
  have hpass : (rule.pass s).text =
      gap ++ ((rule.onDirective (Directive.read s)).word ++ (rule.onDirective (Directive.read s)).rest) := by
    conv_lhs => rw [hs, pass_append_of_single h.single fun c hc => not_isWord_of_isInnerBlank (hgap c hc)]
    rw [Pass.text_after, Rule.onDirective]
    by_cases hw : (Directive.read s).word = []
    · rw [hw, hnil]
      rfl
    · rw [pass_run_append rule hw hword hrest]
      rfl
  have hkept : (rule.onDirective (Directive.read s)).word = [] → (Directive.read s).word = [] := by
    intro hw
    rw [Rule.onDirective] at hw
    cases hd : rule (Directive.read s).word (Directive.read s).rest with
    | none => rwa [hd] at hw
    | some d =>
      rw [hd] at hw
      exact absurd hw (h.run _ _ d hword hd).1
  rw [hpass]
  refine Directive.read_append hgap ?_ ((h.respells _).startsOutside hrest) fun hw => ?_
  · intro c hc
    rw [Rule.onDirective] at hc
    cases hd : rule (Directive.read s).word (Directive.read s).rest with
    | none => exact hword c (by rwa [hd] at hc)
    | some d => exact (h.run _ _ d hword hd).2 c (by rwa [hd] at hc)
  · intro c hc
    have hhead := h.head?_pass hrest
    exact hempty (hkept hw) c (hhead ▸ hc)

/-- The directives of a text after a rule are those before it, each with its word judged. -/
theorem Rule.Keeps.directivesFrom_pass (hnil : ∀ rest, rule [] rest = none) (b : Bool) (s : Text) :
    directivesFrom b (rule.pass s).text = (directivesFrom b s).map rule.onDirective := by
  induction s using cluster_induction isWord generalizing b with
  | nil => rfl
  | single c s hc ih =>
    rw [pass_cons_of_single h.single hc, Pass.text_after, List.singleton_append, directivesFrom, directivesFrom]
    split
    · rw [List.map_cons, ih, h.read_pass hnil]
    · exact ih _
  | run r s hne hr hs ih =>
    rw [pass_run_append rule hne hr hs, Pass.text_after, directivesFrom_word_append ⟨hne, hr⟩, ← ih]
    cases hd : rule r s with
    | none => exact directivesFrom_word_append ⟨hne, hr⟩ b _
    | some d =>
      obtain ⟨hdne, hdall⟩ := h.run r s d hr hd
      exact directivesFrom_word_append ⟨hdne, hdall⟩ b _

end

/-! ### Directives and keywords -/

theorem directives_aliasLine_append {symbol name : Text} (hs : IsWordText symbol) (hn : IsWordText name) (s : Text) :
    (directives (aliasLine symbol name ++ s)).map Directive.word = defineWord :: (directives s).map Directive.word := by
  have hline : aliasLine symbol name ++ s = '#' :: (defineWord ++ (' ' :: (name ++ (' ' :: (symbol ++ ('\n' :: s)))))) := by
    rw [aliasLine_eq]
    simp only [List.cons_append, List.append_assoc, List.nil_append]
  have hread : ∀ rest : Text, Directive.read (defineWord ++ ' ' :: rest) = ⟨defineWord, ' ' :: rest⟩ := by
    intro rest
    have hout : StartsOutside isWord (' ' :: rest) := startsOutside_cons.mpr rfl
    exact Directive.read_append (List.forall_mem_nil _) isWordText_defineWord.all hout fun hnil =>
      absurd hnil isWordText_defineWord.ne_nil
  rw [hline, directives, directivesFrom, if_pos (by decide), List.map_cons, hread]
  rw [directivesFrom_word_append isWordText_defineWord, directivesFrom_cons_of_ne (by decide), directivesFrom_word_append hn,
    directivesFrom_cons_of_ne (by decide), directivesFrom_word_append hs, directivesFrom_cons_of_ne (by decide)]
  rfl

theorem directives_aliasBlock_append {es : List (Text × Text)} (hes : ∀ e ∈ es, IsWordText e.1 ∧ IsWordText e.2) (s : Text) :
    (directives (aliasBlock es ++ s)).map Directive.word =
      List.replicate es.length defineWord ++ (directives s).map Directive.word := by
  induction es using List.reverseRecOn with
  | nil => rfl
  | append_singleton es e ih =>
    obtain ⟨hs, hn⟩ := hes e (List.mem_append_right es List.mem_cons_self)
    rw [aliasBlock_concat, List.append_assoc, directives_aliasLine_append hs hn,
      ih fun d hd => hes d (List.mem_append_left [e] hd), List.length_append, List.length_singleton, List.replicate_succ]
    rfl

/-- The word of a directive after the keywords of the table have been renamed. -/
def SymbolTable.directiveWord (t : SymbolTable) (d : Directive) : Text :=
  if isQuoted ['"'] d.rest then d.word else (t.find? d.word).getD d.word

section
variable {t : SymbolTable}

theorem renamable_of_keywords (hsymbols : ∀ x ∈ t.symbols, x ∈ defaultKeywords)
    (hnames : ∀ n ∈ t.names, isIdentifier n = true ∧ n ∉ t.symbols) : t.Renamable where
  symbols x hx := by
    have all : ∀ x ∈ defaultKeywords, isIdentifier x = true := by decide
    exact all x (hsymbols x hx)
  short x hx := by
    have all : ∀ x ∈ defaultKeywords, Utf8.size x ≤ Search.longestWord := by decide
    exact all x (hsymbols x hx)
  names n hn := (hnames n hn).1
  apart n hn := (hnames n hn).2

theorem word_onDirective_tableRule (t : SymbolTable) (d : Directive) :
    ((tableRule t.entries fun rest => !isQuoted ['"'] rest).onDirective d).word = t.directiveWord d := by
  rw [Rule.onDirective, tableRule, SymbolTable.directiveWord, SymbolTable.find?]
  cases isQuoted ['"'] d.rest <;> rfl

theorem directiveWord_eq_self_iff (ht : t.Renamable) (d : Directive) :
    t.directiveWord d = d.word ↔ d.word ∉ t.symbols ∨ isQuoted ['"'] d.rest = true := by
  rw [SymbolTable.directiveWord]
  split
  · next hquoted => simp [hquoted]
  · next hquoted =>
    rw [or_iff_left hquoted]
    by_cases hsymbol : d.word ∈ t.symbols
    · obtain ⟨e, he, hword⟩ := List.mem_map.mp hsymbol
      have hname : e.2 ∉ t.symbols := ht.apart e.2 (List.mem_map_of_mem he)
      refine iff_of_false (fun heq => hname ?_) (not_not_intro hsymbol)
      rw [← hword, SymbolTable.find?_of_mem_entries he, Option.getD_some, hword] at heq
      rwa [heq]
    · refine iff_of_true ?_ hsymbol
      cases hfind : t.find? d.word with
      | none => rfl
      | some n => exact absurd (List.mem_map_of_mem (SymbolTable.find?_eq_some_iff.mp hfind)) hsymbol

/-- Renaming keywords puts a definition in front for each, and keeps all directives of the text in their order. The word of a
    directive changes exactly if it is a keyword of the table and no string opens before the next `;`. -/
theorem renameKeywords_directives (hsymbols : ∀ x ∈ t.symbols, x ∈ defaultKeywords)
    (hnames : ∀ n ∈ t.names, isIdentifier n = true ∧ n ∉ t.symbols) (s : Text) :
    (directives (renameKeywords t s).text).map Directive.word =
      List.replicate t.size defineWord ++ (directives s).map t.directiveWord ∧
    ∀ d ∈ directives s, t.directiveWord d = d.word ↔ d.word ∉ t.symbols ∨ isQuoted ['"'] d.rest = true := by
  have ht := renamable_of_keywords hsymbols hnames
  have hdefine : defineWord ∉ t.symbols := fun h => (mem_defaultKeywords_cases (hsymbols _ h)).2.2 rfl
  have hkeeps : (tableRule t.entries fun rest => !isQuoted ['"'] rest).Keeps isWord := keeps_tableRule fun e he => ht.isWordText he
  have hnil : ∀ rest, tableRule t.entries (fun rest => !isQuoted ['"'] rest) [] rest = none := by
    intro rest
    cases hd : tableRule t.entries (fun rest => !isQuoted ['"'] rest) [] rest with
    | none => rfl
    | some n => exact absurd rfl (ht.isWordText (tableRule_eq_some hd)).1.ne_nil
  refine ⟨?_, fun d _ => directiveWord_eq_self_iff ht d⟩
  rw [renameKeywords_eq (ht.aliasable hdefine), ht.replaceGuarded_eq_pass isMarker_quote, Pass.text_after,
    directives_aliasBlock_append fun e he => ht.isWordText he, directives, hkeeps.directivesFrom_pass hnil, List.map_map]
  congr 1
  exact List.map_congr_left fun d _ => word_onDirective_tableRule t d

end

theorem renameKeywords_directives_sample :
    let t := SymbolTable.ofList [("int".toList, "a1".toList), ("if".toList, "c3".toList)]
    let s := "#if A\nputs(\"y\");\n# if B\n#endif\nint if_;\n".toList
    (directives s).map Directive.word = ["if".toList, "if".toList, "endif".toList] ∧
      (directives (renameKeywords t s).text).map Directive.word =
        [defineWord, defineWord, "if".toList, "c3".toList, "endif".toList] := by
  intro t s
  refine ⟨by decide +kernel, (renameKeywords_directives (by decide) (by decide) s).1.trans ?_⟩
  decide +kernel

/-- Of the keywords only `if` is also the word of a directive, and it is renamed there. -/
theorem renameKeywords_breaks_directive :
    let t := SymbolTable.ofList [("if".toList, "a1".toList)]
    let s := "#if A\n#endif\n".toList
    (∀ x ∈ t.symbols, x ∈ defaultKeywords) ∧ (∀ n ∈ t.names, isIdentifier n = true ∧ n ∉ defaultKeywords) ∧
      (directives s).map Directive.word = ["if".toList, "endif".toList] ∧
      renameKeywords t s = ⟨"#define a1 if\n#a1 A\n#endif\n".toList, 1⟩ ∧
      (directives (renameKeywords t s).text).map Directive.word = [defineWord, "a1".toList, "endif".toList] := by
  decide +kernel

end Cloak
