import Cloak.Proofs.Renaming.Alias
import Cloak.Proofs.Renaming.Marker
import Mathlib.Data.List.Find

/-! Renaming all symbols of a table at once. The entries of a table are renamed one after the other, each in the text that the ones
    before it left. That text differs from the source in words only, and no guard looks at words; where no name is a symbol, no
    word is renamed twice. So every word is judged as in the source, in whatever order the entries come. -/

namespace Cloak

/-! ### One rule after another -/

namespace Rule
variable {rule first second : Rule Char}

/-- The rule does not look at the words after the one that it judges. -/
def Steady (rule : Rule Char) : Prop := ∀ w s t, Respells s t → rule w s = rule w t

/-- The first rule, and the second for what the first refuses. -/
def or (first second : Rule Char) : Rule Char := fun w rest => (first w rest).or (second w rest)

theorem Keeps.respells (h : rule.Keeps isWord) (s : Text) : Respells s (rule.pass s).text := by
  induction s using cluster_induction isWord with
  | nil => exact .nil
  | single c s hc ih =>
    rw [pass_cons_of_neg rule hc, h.single c s hc]
    exact .char hc ih
  | run r s hne hr hs ih =>
    rw [pass_run_append rule hne hr hs]
    cases hd : rule r s with
    | none => exact .word ⟨hne, hr⟩ ⟨hne, hr⟩ ih
    | some d =>
      obtain ⟨hdne, hdall⟩ := h.run r s d hr hd
      exact .word ⟨hne, hr⟩ ⟨hdne, hdall⟩ ih

/-- Two rules one after the other are one rule if the second does not look at words and leaves what the first puts. -/
theorem pass_pass (h₁ : first.Keeps isWord) (h₂ : second.Keeps isWord) (hsteady : second.Steady)
    (hdone : ∀ w rest d, first w rest = some d → ∀ rest', second d rest' = none) (s : Text) :
    (second.pass (first.pass s).text).after [] (first.pass s).replaced = (first.or second).pass s := by
  induction s using cluster_induction isWord with
  | nil => rfl
  | single c s hc ih =>
    have hnone : (first.or second) [c] s = none := by
      rw [Rule.or, h₁.single c s hc, h₂.single c s hc]
      rfl
    rw [pass_cons_of_neg _ hc, pass_cons_of_neg _ hc, hnone, h₁.single c s hc, ← ih]
    simp [Pass.after, pass_cons_of_neg second hc, h₂.single c _ hc]
  | run r s hne hr hs ih =>
    have hrespells := h₁.respells s
    have hout := hrespells.startsOutside hs
    rw [pass_run_append _ hne hr hs, pass_run_append _ hne hr hs, ← ih, Rule.or]
    cases hd : first r s with
    | none =>
      -- The word is still there, and what follows it now is judged as what followed it before.
      rw [hsteady r s _ hrespells]
      cases hd' : second r (first.pass s).text <;>
        simp [Pass.after, pass_run_append second hne hr hout, hd', Nat.add_left_comm]
    | some d =>
      obtain ⟨hdne, hdall⟩ := h₁.run r s d hr hd
      simp [Pass.after, pass_run_append second hdne hdall hout, hdone r s d hd, Nat.add_assoc]

end Rule

/-! ### Tables as rules -/

/-- Puts for a word the name that the entries give for it, where the rest admits it. -/
def tableRule (es : List (Text × Text)) (admits : Text → Bool) : Rule Char := fun w rest =>
  if admits rest then (es.find? (·.1 = w)).map Prod.snd else none

/-- The answer is the same on texts that differ in words. -/
def IgnoresWords (admits : Text → Bool) : Prop := ∀ s t, Respells s t → admits s = admits t

theorem ignoresWords_always : IgnoresWords fun _ => true := fun _ _ _ => rfl

theorem ignoresWords_unquoted {marker : Text} (hm : IsMarker marker) : IgnoresWords fun rest => !isQuoted marker rest := by
  intro s t h
  simp only [h.isQuoted hm]

section
variable {es ds : List (Text × Text)} {admits : Text → Bool}

theorem tableRule_eq_some {w rest name : Text} (h : tableRule es admits w rest = some name) : (w, name) ∈ es := by
  unfold tableRule at h
  split at h
  · obtain ⟨e, he, rfl⟩ := Option.map_eq_some_iff.mp h
    have hw := List.find?_some he
    have hmem := List.mem_of_find?_eq_some he
    simp only [decide_eq_true_eq] at hw
    rwa [← hw]
  · cases h

theorem tableRule_concat (es : List (Text × Text)) (e : Text × Text) (admits : Text → Bool) :
    tableRule (es ++ [e]) admits = (tableRule es admits).or (wordRule e.1 e.2 admits) := by
  funext w rest
  simp only [tableRule, Rule.or, wordRule, List.find?_append]
  cases admits rest with
  | false => simp
  | true =>
    by_cases hw : w = e.1
    · subst hw
      cases es.find? (·.1 = e.1) <;> simp
    · have hw' : e.1 ≠ w := Ne.symm hw
      cases es.find? (·.1 = w) <;> simp [hw, hw']

theorem keeps_tableRule (hes : ∀ e ∈ es, IsWordText e.1 ∧ IsWordText e.2) : (tableRule es admits).Keeps isWord := by
  refine ⟨fun c rest hc => ?_, fun w rest d _ hd => ?_⟩
  · cases hd : tableRule es admits [c] rest with
    | none => rfl
    | some d => exact absurd List.mem_cons_self ((hes _ (tableRule_eq_some hd)).1.not_mem hc)
  · obtain ⟨hne, hall⟩ := (hes _ (tableRule_eq_some hd)).2
    exact ⟨hne, hall⟩

theorem steady_tableRule (h : IgnoresWords admits) : (tableRule es admits).Steady := by
  intro w s t hst
  rw [tableRule, tableRule, h s t hst]

theorem steady_wordRule {symbol name : Text} (h : IgnoresWords admits) : (wordRule symbol name admits).Steady := by
  intro w s t hst
  rw [wordRule, wordRule, h s t hst]

theorem tableRule_of_perm (h : es.Perm ds) (hn : (es.map Prod.fst).Nodup) (admits : Text → Bool) :
    tableRule es admits = tableRule ds admits := by
  funext w rest
  rw [tableRule, tableRule, List.find?_eq_find?_of_perm h]
  rintro d ⟨hd, hdw⟩ e ⟨he, hew⟩
  have hkey : d.1 = e.1 := (of_decide_eq_true hdw).trans (of_decide_eq_true hew).symm
  exact List.inj_on_of_nodup_map hn hd he hkey

end

/-- A table whose symbols can be looked for as words and whose names are words that are no symbols. -/
structure SymbolTable.Renamable (t : SymbolTable) : Prop where
  symbols : ∀ x ∈ t.symbols, isIdentifier x = true
  short : ∀ x ∈ t.symbols, Utf8.size x ≤ Search.longestWord
  names : ∀ n ∈ t.names, isIdentifier n = true
  apart : ∀ n ∈ t.names, n ∉ t.symbols

section
variable {t : SymbolTable} {admits : Text → Bool} {e : Text × Text}

theorem SymbolTable.Renamable.isWordText (ht : t.Renamable) (he : e ∈ t.entries) : IsWordText e.1 ∧ IsWordText e.2 :=
  ⟨isWordText_of_isIdentifier (ht.symbols e.1 (List.mem_map_of_mem he)),
    isWordText_of_isIdentifier (ht.names e.2 (List.mem_map_of_mem he))⟩

/-- The entries one after the other do what the table does at once. -/
theorem SymbolTable.Renamable.overTable_eq_pass (ht : t.Renamable) {step : (symbol name : Text) → Text → Pass}
    (hadmits : IgnoresWords admits) (hstep : ∀ e ∈ t.entries, ∀ s, step e.1 e.2 s = (wordRule e.1 e.2 admits).pass s) (s : Text) :
    Pass.overTable step t s = (tableRule t.entries admits).pass s := by
  rw [Pass.overTable_eq]
  suffices hfold : ∀ es : List (Text × Text), (∀ e ∈ es, e ∈ t.entries) →
      es.foldl (Pass.advance step) ⟨s, 0⟩ = (tableRule es admits).pass s from hfold t.entries fun _ he => he
  intro es hes
  induction es using List.reverseRecOn with
  | nil =>
    have hnone : ∀ w ∈ clusters isWord s, ∀ rest, tableRule [] admits w rest = none := by
      intro w _ rest
      simp [tableRule]
    obtain ⟨hrewrite, hcount⟩ := Rule.rewrite_of_none hnone []
    simp [Rule.pass, hrewrite, hcount]
  | append_singleton es e ih =>
    have he := hes e (List.mem_append_right es List.mem_cons_self)
    have hes : ∀ d ∈ es, d ∈ t.entries := fun d hd => hes d (List.mem_append_left [e] hd)
    obtain ⟨hs, hn⟩ := ht.isWordText he
    rw [List.foldl_append, ih hes, List.foldl_cons, List.foldl_nil, Pass.advance, hstep e he, tableRule_concat]
    refine Rule.pass_pass (keeps_tableRule fun d hd => ht.isWordText (hes d hd)) (keeps_wordRule hs hn admits)
      (steady_wordRule hadmits) (fun w rest d hd rest' => if_neg ?_) s
    -- What the entries before have put is a name, and this entry looks for a symbol.
    rintro ⟨rfl, -⟩
    have hname := hes _ (tableRule_eq_some hd)
    exact ht.apart _ (List.mem_map_of_mem hname) (List.mem_map_of_mem he)

/-- A second time there is nothing left to rename. -/
theorem SymbolTable.Renamable.pass_twice (ht : t.Renamable) (hadmits : IgnoresWords admits) (s : Text) :
    (tableRule t.entries admits).pass ((tableRule t.entries admits).pass s).text =
      ⟨((tableRule t.entries admits).pass s).text, 0⟩ := by
  have hkeeps : (tableRule t.entries admits).Keeps isWord := keeps_tableRule fun e he => ht.isWordText he
  have hself : (tableRule t.entries admits).or (tableRule t.entries admits) = tableRule t.entries admits := by
    funext w rest
    exact Option.or_self
  have htwice := Rule.pass_pass hkeeps hkeeps (steady_tableRule hadmits) (fun w rest d hd rest' => ?_) s
  · rw [hself] at htwice
    have htext := congrArg Pass.text htwice
    have hcount := congrArg Pass.replaced htwice
    simp only [Pass.text_after, List.nil_append, Pass.replaced_after, Nat.add_eq_left] at htext hcount
    exact congrArg₂ Pass.mk htext hcount
  · cases hfound : tableRule t.entries admits d rest' with
    | none => rfl
    | some n =>
      exact absurd (List.mem_map_of_mem (tableRule_eq_some hfound))
        (ht.apart d (List.mem_map_of_mem (tableRule_eq_some hd)))

theorem SymbolTable.Renamable.renameMacros_eq_pass (ht : t.Renamable) (s : Text) :
    renameMacros t s = (tableRule t.entries fun _ => true).pass s := by
  refine ht.overTable_eq_pass ignoresWords_always (fun e he s => ?_) s
  exact replaceWord_eq_pass_of_short (ht.isWordText he).1 (ht.short e.1 (List.mem_map_of_mem he)) s

theorem SymbolTable.Renamable.replaceGuarded_eq_pass (ht : t.Renamable) {marker : Text} (hm : IsMarker marker) (s : Text) :
    Pass.overTable (replaceGuarded marker) t s = (tableRule t.entries fun rest => !isQuoted marker rest).pass s := by
  refine ht.overTable_eq_pass (ignoresWords_unquoted hm) (fun e he s => ?_) s
  have hadmits : (Guard.unquoted marker).admits = fun rest => !isQuoted marker rest := by
    funext rest
    rw [Guard.admits_unquoted, isUnquoted_eq hm]
  rw [← hadmits]
  exact replaceWord_eq_pass_of_short (ht.isWordText he).1 (ht.short e.1 (List.mem_map_of_mem he)) s

theorem SymbolTable.Renamable.of_perm (ht : t.Renamable) {u : SymbolTable} (h : u.entries.Perm t.entries) : u.Renamable := by
  have hsymbols : ∀ x, x ∈ u.symbols ↔ x ∈ t.symbols := fun x => (h.map Prod.fst).mem_iff
  have hnames : ∀ n, n ∈ u.names ↔ n ∈ t.names := fun n => (h.map Prod.snd).mem_iff
  refine ⟨fun x hx => ht.symbols x ((hsymbols x).mp hx), fun x hx => ht.short x ((hsymbols x).mp hx),
    fun n hn => ht.names n ((hnames n).mp hn), fun n hn hx => ?_⟩
  exact ht.apart n ((hnames n).mp hn) ((hsymbols n).mp hx)

end

/-! ### Macros, variables and keywords -/

section
variable {t : SymbolTable}

/-- Macros and variables are renamed all at once, each word judged by what follows it in the text as it was. The order of the table
    does not matter, and a second time nothing is renamed. -/
theorem rename_words_simultaneously (ht : t.Renamable) (s : Text) :
    renameMacros t s = (tableRule t.entries fun _ => true).pass s ∧
    renameVariables t s = (tableRule t.entries fun rest => !isQuoted ['"', ')'] rest).pass s ∧
    (∀ u : SymbolTable, u.entries.Perm t.entries →
      renameMacros u s = renameMacros t s ∧ renameVariables u s = renameVariables t s) ∧
    renameMacros t (renameMacros t s).text = ⟨(renameMacros t s).text, 0⟩ ∧
    renameVariables t (renameVariables t s).text = ⟨(renameVariables t s).text, 0⟩ := by
  have hmarker := isMarker_quoteParen
  have hmacros : ∀ s, renameMacros t s = (tableRule t.entries fun _ => true).pass s := ht.renameMacros_eq_pass
  have hvars : ∀ s, renameVariables t s = (tableRule t.entries fun rest => !isQuoted ['"', ')'] rest).pass s :=
    ht.replaceGuarded_eq_pass hmarker
  refine ⟨hmacros s, hvars s, fun u hu => ?_, ?_, ?_⟩
  · have hu' := ht.of_perm hu
    rw [hmacros, hvars, hu'.renameMacros_eq_pass, renameVariables, hu'.replaceGuarded_eq_pass hmarker]
    exact ⟨by rw [tableRule_of_perm hu u.nodup], by rw [tableRule_of_perm hu u.nodup]⟩
  · rw [hmacros s, hmacros]
    exact ht.pass_twice ignoresWords_always s
  · rw [hvars s, hvars]
    exact ht.pass_twice (ignoresWords_unquoted hmarker) s

/-- A variable inside another word and one in a string stay. -/
theorem rename_words_simultaneously_sample :
    let t := SymbolTable.ofList [("x".toList, "a1".toList), ("count".toList, "b2".toList)]
    let u := SymbolTable.ofList [("count".toList, "b2".toList), ("x".toList, "a1".toList)]
    let s := "x=count+éx;puts(\"x\");count".toList
    t.Renamable ∧ u.entries.Perm t.entries ∧
      renameVariables u s = ⟨"a1=b2+éx;puts(\"x\");b2".toList, 3⟩ ∧
      renameMacros t s = ⟨"a1=b2+éx;puts(\"a1\");b2".toList, 4⟩ ∧
      renameMacros t (renameMacros t s).text = ⟨(renameMacros t s).text, 0⟩ := by
  intro t u s
  have ht : t.Renamable := ⟨by decide, by decide, by decide, by decide⟩
  have hu : u.entries.Perm t.entries := .swap _ _ []
  obtain ⟨hmacros, hvars, horder, htwice, -⟩ := rename_words_simultaneously ht s
  refine ⟨ht, hu, (horder u hu).2.trans (hvars.trans ?_), hmacros.trans ?_, htwice⟩
  · decide +kernel
  · decide +kernel

theorem SymbolTable.Renamable.aliasable (ht : t.Renamable) (hdefine : defineWord ∉ t.symbols) : t.Aliasable where
  symbols x hx := ⟨isWordText_of_isIdentifier (ht.symbols x hx), fun heq => hdefine (heq ▸ hx)⟩
  names n hn := ⟨isWordText_of_isIdentifier (ht.names n hn), ht.apart n hn⟩

/-- The keyword pass puts the alias of every keyword in front, the last on top, and renames all keywords of the text at once, each
    word judged by what follows it in the text as it was. Nothing in the aliases is renamed or counted. -/
theorem renameKeywords_simultaneously (ht : t.Renamable) (hdefine : defineWord ∉ t.symbols) (s : Text) :
    renameKeywords t s =
      ((tableRule t.entries fun rest => !isQuoted ['"'] rest).pass s).after (aliasBlock t.entries) 0 := by
  rw [renameKeywords_eq (ht.aliasable hdefine), ht.replaceGuarded_eq_pass isMarker_quote]

/-- A keyword in a string stays, and one that is not used has its alias all the same. -/
theorem renameKeywords_simultaneously_sample :
    let t := SymbolTable.ofList [("int".toList, "a1".toList), ("for".toList, "b2".toList), ("if".toList, "c3".toList)]
    let s := "for(int i;;);\nputs(\"int\");int j;".toList
    t.Renamable ∧ defineWord ∉ t.symbols ∧
      renameKeywords t s =
        ⟨"#define c3 if\n#define b2 for\n#define a1 int\nb2(a1 i;;);\nputs(\"int\");a1 j;".toList, 3⟩ := by
  intro t s
  have ht : t.Renamable := ⟨by decide, by decide, by decide, by decide⟩
  have hdefine : defineWord ∉ t.symbols := by decide
  refine ⟨ht, hdefine, (renameKeywords_simultaneously ht hdefine s).trans ?_⟩
  decide +kernel

end
end Cloak
