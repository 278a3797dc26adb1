import Cloak.Proofs.Renaming.Marker

/-! A keyword never follows its own name. Where a keyword stands twice with white space between, both places are judged by
    the same text, so both are renamed or none; hence renaming never writes a name, white space and the keyword of the
    name, unless the name stood in the text before. -/

namespace Cloak

/-! ### Places of a rewritten list -/

namespace Rule
variable {α : Type} {rule : Rule α} {last : List α}

theorem rewrite_eq_cons {cs ds : List (List α)} {d : List α} (h : rule.rewrite last cs = d :: ds) :
    ∃ c cs', cs = c :: cs' ∧ (rule c (cs'.flatten ++ last)).getD c = d ∧ rule.rewrite last cs' = ds := by
  cases cs with
  | nil => cases h
  | cons c cs =>
    rw [rewrite, List.cons.injEq] at h
    exact ⟨c, cs, rfl, h⟩

theorem rewrite_eq_append {cs ds es : List (List α)} (h : rule.rewrite last cs = ds ++ es) :
    ∃ cs₁ cs₂, cs = cs₁ ++ cs₂ ∧ rule.rewrite last cs₂ = es := by
  induction ds generalizing cs with
  | nil => exact ⟨[], cs, rfl, h⟩
  | cons d ds ih =>
    obtain ⟨c, cs, rfl, -, htail⟩ := rewrite_eq_cons h
    obtain ⟨cs₁, cs₂, rfl, hes⟩ := ih htail
    exact ⟨c :: cs₁, cs₂, rfl, hes⟩

end Rule

section
variable {symbol name : Text} {admits : Text → Bool}

theorem getD_wordRule_eq {c rest d : Text} (h : (wordRule symbol name admits c rest).getD c = d) :
    (c = d ∧ ¬ (c = symbol ∧ admits rest = true)) ∨ (c = symbol ∧ d = name ∧ admits rest = true) := by
  unfold wordRule at h
  split at h
  · next hc => exact Or.inr ⟨hc.1, h.symm, hc.2⟩
  · next hc => exact Or.inl ⟨h, hc⟩

/-- White space is never written. -/
theorem rewrite_eq_blanks_append (hname : IsWordText name) {last r : Text} (hr : ∀ c ∈ r, isBlank c = true) {cs es : List Text}
    (h : (wordRule symbol name admits).rewrite last cs = r.map (fun c => [c]) ++ es) :
    ∃ cs', cs = r.map (fun c => [c]) ++ cs' ∧ (wordRule symbol name admits).rewrite last cs' = es := by
  induction r generalizing cs with
  | nil => exact ⟨cs, rfl, h⟩
  | cons a r ih =>
    obtain ⟨c, cs, rfl, hc, htail⟩ := Rule.rewrite_eq_cons h
    obtain ⟨cs, rfl, hes⟩ := ih (fun b hb => hr b (List.mem_cons_of_mem a hb)) htail
    rcases getD_wordRule_eq hc with ⟨rfl, -⟩ | ⟨-, ha, -⟩
    · exact ⟨cs, rfl, hes⟩
    · exact absurd (ha ▸ List.mem_cons_self) (hname.not_mem (not_isWord_of_isBlank (hr a List.mem_cons_self)))

end

/-! ### Echoes -/

/-- Somewhere the word `name` stands, then white space, then the word `symbol`. -/
def Echoes (symbol name : Text) (cs : List Text) : Prop :=
  ∃ (before : List Text) (r : Text) (rest : List Text), cs = before ++ name :: (r.map (fun c => [c]) ++ symbol :: rest) ∧ ∀ c ∈ r, isBlank c = true

section
variable {symbol name : Text}

/-- Another word put for a word makes no echo. -/
theorem Echoes.of_rewrite {other otherName : Text} {admits : Text → Bool} (hother : IsWordText otherName)
    (hs : symbol ≠ otherName) (hn : name ≠ otherName) {last : Text} {cs : List Text}
    (h : Echoes symbol name ((wordRule other otherName admits).rewrite last cs)) : Echoes symbol name cs := by
  obtain ⟨before, r, rest, h, hr⟩ := h
  obtain ⟨cs₁, cs₂, rfl, hfrom⟩ := Rule.rewrite_eq_append h
  obtain ⟨c, cs₂, rfl, hc, hafter⟩ := Rule.rewrite_eq_cons hfrom
  obtain ⟨cs₂, rfl, hblanks⟩ := rewrite_eq_blanks_append hother hr hafter
  obtain ⟨d, cs₂, rfl, hd, -⟩ := Rule.rewrite_eq_cons hblanks
  rcases getD_wordRule_eq hc with ⟨rfl, -⟩ | ⟨-, hc, -⟩
  · rcases getD_wordRule_eq hd with ⟨rfl, -⟩ | ⟨-, hd, -⟩
    · exact ⟨cs₁, r, cs₂, rfl, hr⟩
    · exact absurd hd hs
  · exact absurd hc hn

/-- Where the name is new, putting it for the symbol makes no echo: of two places with white space between, the guard
    admits both or none. -/
theorem not_echoes_rewrite (hname : IsWordText name) (hne : symbol ≠ name) {admits : Text → Bool} {cs : List Text}
    (hsteady : ∀ r rest : Text, (∀ c ∈ r, isBlank c = true) → admits (r ++ (symbol ++ rest)) = admits rest)
    (hnew : name ∉ cs) : ¬ Echoes symbol name ((wordRule symbol name admits).rewrite [] cs) := by
  rintro ⟨before, r, rest, h, hr⟩
  obtain ⟨cs₁, cs₂, rfl, hfrom⟩ := Rule.rewrite_eq_append h
  obtain ⟨c, cs₂, rfl, hc, hafter⟩ := Rule.rewrite_eq_cons hfrom
  obtain ⟨cs₂, rfl, hblanks⟩ := rewrite_eq_blanks_append hname hr hafter
  obtain ⟨d, cs₂, rfl, hd, -⟩ := Rule.rewrite_eq_cons hblanks
  rcases getD_wordRule_eq hc with ⟨rfl, -⟩ | ⟨-, -, hadmits⟩
  · exact hnew (List.mem_append_right cs₁ List.mem_cons_self)
  · rcases getD_wordRule_eq hd with ⟨rfl, hrefused⟩ | ⟨-, hd, -⟩
    · have hflat : (r.map (fun c => [c])).flatten = r := by rw [← List.flatMap_def, List.flatMap_singleton']
      rw [List.flatten_append, List.flatten_cons, hflat, List.append_assoc, List.append_assoc, hsteady r _ hr] at hadmits
      exact hrefused ⟨rfl, hadmits⟩
    · exact hne hd

theorem wordAdmits_unquoted_append {marker r : Text} (hm : IsMarker marker) (hmarker : ∀ c ∈ marker.head?, isBlank c = false)
    (hsymbol : IsWordText symbol) (hr : ∀ c ∈ r, isBlank c = true) (rest : Text) :
    wordAdmits symbol (Guard.unquoted marker) (r ++ (symbol ++ rest)) = wordAdmits symbol (Guard.unquoted marker) rest := by
  have hblank : ∀ c ∈ r, c ≠ ';' ∧ marker.head? ≠ some c := fun c hc => by
    refine ⟨?_, fun h => ?_⟩
    · rintro rfl
      cases hr _ hc
    · have := hmarker c h
      rw [hr c hc] at this
      cases this
  rw [wordAdmits, wordAdmits, Guard.admits_unquoted, Guard.admits_unquoted, isUnquoted_append hm.ne_nil hblank,
    isUnquoted_word_append hm hsymbol]

theorem clusters_blanks_append {r : Text} (hr : ∀ c ∈ r, isBlank c = true) (s : Text) :
    clusters isWord (r ++ s) = r.map (fun c => [c]) ++ clusters isWord s := by
  induction r with
  | nil => rfl
  | cons c r ih =>
    have hc := not_isWord_of_isBlank (hr c List.mem_cons_self)
    rw [List.cons_append, clusters_cons_of_neg hc, ih fun d hd => hr d (List.mem_cons_of_mem c hd)]
    rfl

theorem startsOutside_blanks_append {r : Text} (hne : r ≠ []) (hr : ∀ c ∈ r, isBlank c = true) (s : Text) :
    StartsOutside isWord (r ++ s) := by
  obtain ⟨c, r, rfl⟩ := List.exists_cons_of_ne_nil hne
  exact startsOutside_cons.mpr (not_isWord_of_isBlank (hr c List.mem_cons_self))

theorem echoes_clusters_append (hs : IsWordText symbol) (hn : IsWordText name) {r r' : Text}
    (hr : r ≠ [] ∧ ∀ c ∈ r, isBlank c = true) (hr' : r' ≠ [] ∧ ∀ c ∈ r', isBlank c = true) {b : Text}
    (hb : StartsOutside isWord b) (a : Text) :
    Echoes symbol name (clusters isWord (a ++ (r ++ (name ++ (r' ++ (symbol ++ b)))))) := by
  rw [clusters_append_of_startsOutside (startsOutside_blanks_append hr.1 hr.2 _), clusters_blanks_append hr.2,
    clusters_run_append hn.ne_nil hn.all (startsOutside_blanks_append hr'.1 hr'.2 _), clusters_blanks_append hr'.2,
    clusters_run_append hs.ne_nil hs.all hb, ← List.append_assoc]
  exact ⟨clusters isWord a ++ r.map (fun c => [c]), r', clusters isWord b, rfl, hr'.2⟩

/-! ### Keywords -/

/-- A word that is not put for anything does not appear. -/
theorem not_mem_clusters_replaceWord {other otherName : Text} {g : Guard} (hs : IsWordText other) (hn : IsWordText otherName)
    (hne : name ≠ otherName) {s : Text} (h : name ∉ clusters isWord s) :
    name ∉ clusters isWord (replaceWord other otherName g s).text := by
  rw [replaceWord_eq_pass hs, Rule.pass, (keeps_wordRule hs hn _).clusters_rewrite]
  intro hmem
  rcases Rule.mem_rewrite hmem with hmem | ⟨c, -, rest, hmem⟩
  · exact h hmem
  · rcases getD_wordRule_eq (d := name) (by rw [hmem, Option.getD_some]) with ⟨hc, hcond⟩ | ⟨-, hname, -⟩
    · unfold wordRule at hmem
      rw [if_neg hcond] at hmem
      cases hmem
    · exact hne hname

/-- No keyword of a table follows its own name after the keywords are renamed. -/
theorem not_echoes_run {es : List (Text × Text)} (hwords : ∀ e ∈ es, IsWordText e.1 ∧ IsWordText e.2)
    (hdistinct : (es.map Prod.snd).Nodup) {e : Text × Text} (he : e ∈ es) (hapart : ∀ d ∈ es, e.1 ≠ d.2) {s : Text}
    (hnew : e.2 ∉ clusters isWord s) :
    ¬ Echoes e.1 e.2 (clusters isWord (Pass.run (replaceGuarded ['"']) es s)) := by
  induction es generalizing s with
  | nil => cases he
  | cons d es ih =>
    have hrest : ∀ c ∈ es, IsWordText c.1 ∧ IsWordText c.2 := fun c hc => hwords c (List.mem_cons_of_mem d hc)
    obtain ⟨hsym, hname⟩ := hwords d List.mem_cons_self
    rw [List.map_cons, List.nodup_cons] at hdistinct
    rw [Pass.run_cons]
    rcases List.mem_cons.mp he with rfl | he
    · -- The keyword itself is renamed here; the entries after it put other words for words.
      have hhere : ¬ Echoes e.1 e.2 (clusters isWord (replaceGuarded ['"'] e.1 e.2 s).text) := by
        rw [replaceGuarded, replaceWord_eq_pass hsym, Rule.pass, (keeps_wordRule hsym hname _).clusters_rewrite]
        refine not_echoes_rewrite hname (hapart e List.mem_cons_self) (fun r rest hr => ?_) hnew
        have hquote : ∀ c ∈ (['"'] : Text).head?, isBlank c = false := by
          rintro c hc
          cases hc
          rfl
        exact wordAdmits_unquoted_append isMarker_quote hquote hsym hr rest
      refine Pass.run_induction (P := fun s => ¬ Echoes e.1 e.2 (clusters isWord s)) hhere fun c hc t ht hecho => ht ?_
      obtain ⟨hcsym, hcname⟩ := hrest c hc
      rw [replaceGuarded, replaceWord_eq_pass hcsym, Rule.pass, (keeps_wordRule hcsym hcname _).clusters_rewrite] at hecho
      refine hecho.of_rewrite hcname (hapart c (List.mem_cons_of_mem e hc)) fun heq => ?_
      exact hdistinct.1 (heq ▸ List.mem_map_of_mem hc)
    · have hne : e.2 ≠ d.2 := fun heq => hdistinct.1 (heq ▸ List.mem_map_of_mem he)
      exact ih hrest hdistinct.2 he (fun c hc => hapart c (List.mem_cons_of_mem d hc))
        (not_mem_clusters_replaceWord hsym hname hne hnew)

end
end Cloak
