import Cloak.Proofs.Renaming.Alias
import Cloak.Proofs.Renaming.Call

/-! Words in call position. Renaming functions changes these words only, and each of them by itself: the entries of the table take
    turns at its end, and the last one found there leaves its name. -/

namespace Cloak

/-! ### Words in call position -/

/-- The words among clusters that a call follows. -/
def calledAmong : List Text → List Text
  | [] => []
  | c :: cs => if c.all isWord && isCallFollower cs.flatten then c :: calledAmong cs else calledAmong cs

/-- The words of a text that stand before `(` or a blank. -/
def calledWords (s : Text) : List Text := calledAmong (clusters isWord s)

/-- Puts `g w` for every word `w` in call position. -/
def calledRule (g : Text → Text) : Rule Char := fun c rest =>
  if c.all isWord && isCallFollower rest then some (g c) else none

/-- The text with each word in call position replaced by what `g` gives for it. -/
def mapCalled (g : Text → Text) (s : Text) : Text := ((calledRule g).pass s).text

section
variable {g k : Text → Text} {c : Char} {r s : Text}

theorem mapCalled_cons_of_neg (hc : isWord c = false) : mapCalled g (c :: s) = c :: mapCalled g s := by
  simp [mapCalled, Rule.pass_cons_of_neg _ hc, calledRule, hc]

theorem mapCalled_run_append (hr : IsWordText r) (hs : StartsOutside isWord s) :
    mapCalled g (r ++ s) = (if isCallFollower s then g r else r) ++ mapCalled g s := by
  have hall : r.all isWord = true := List.all_eq_true.mpr hr.all
  rw [mapCalled, Rule.pass_run_append _ hr.ne_nil hr.all hs, Pass.text_after, calledRule, hall, Bool.true_and]
  split <;> rfl

theorem calledWords_cons_of_neg (hc : isWord c = false) : calledWords (c :: s) = calledWords s := by
  simp [calledWords, clusters_cons_of_neg hc, calledAmong, hc]

theorem calledWords_run_append (hr : IsWordText r) (hs : StartsOutside isWord s) :
    calledWords (r ++ s) = if isCallFollower s then r :: calledWords s else calledWords s := by
  have hall : r.all isWord = true := List.all_eq_true.mpr hr.all
  rw [calledWords, clusters_run_append hr.ne_nil hr.all hs, calledAmong, flatten_clusters, hall, Bool.true_and]
  rfl

theorem isWordText_of_mem_calledWords {w : Text} (h : w ∈ calledWords s) : IsWordText w ∧ w ∈ words s := by
  induction s using cluster_induction isWord with
  | nil => cases h
  | single c s hc ih =>
    rw [calledWords_cons_of_neg hc] at h
    rw [words_cons_of_neg hc]
    exact ih h
  | run r s hne hr hs ih =>
    rw [calledWords_run_append ⟨hne, hr⟩ hs] at h
    rw [words_run_append ⟨hne, hr⟩ hs]
    split at h
    · rcases List.mem_cons.mp h with rfl | h
      · exact ⟨⟨hne, hr⟩, List.mem_cons_self⟩
      · exact ⟨(ih h).1, List.mem_cons_of_mem r (ih h).2⟩
    · exact ⟨(ih h).1, List.mem_cons_of_mem r (ih h).2⟩

theorem head?_mapCalled (hs : StartsOutside isWord s) : (mapCalled g s).head? = s.head? := by
  cases s with
  | nil => rfl
  | cons c s => rw [mapCalled_cons_of_neg (startsOutside_cons.mp hs), List.head?_cons, List.head?_cons]

theorem startsOutside_mapCalled (hs : StartsOutside isWord s) : StartsOutside isWord (mapCalled g s) := by
  intro c hc
  rw [head?_mapCalled hs] at hc
  exact hs c hc

theorem isCallFollower_mapCalled (hs : StartsOutside isWord s) : isCallFollower (mapCalled g s) = isCallFollower s := by
  rw [isCallFollower, isCallFollower, head?_mapCalled hs]

theorem isWordText_ite (hg : ∀ w, IsWordText w → IsWordText (g w)) (hr : IsWordText r) (b : Bool) :
    IsWordText (if b then g r else r) := by
  cases b with
  | false => exact hr
  | true => exact hg r hr

theorem mapCalled_mapCalled (hg : ∀ w, IsWordText w → IsWordText (g w)) (s : Text) :
    mapCalled k (mapCalled g s) = mapCalled (fun w => k (g w)) s := by
  induction s using cluster_induction isWord with
  | nil => rfl
  | single c s hc ih => rw [mapCalled_cons_of_neg hc, mapCalled_cons_of_neg hc, mapCalled_cons_of_neg hc, ih]
  | run r s hne hr hs ih =>
    have hword : IsWordText r := ⟨hne, hr⟩
    rw [mapCalled_run_append hword hs, mapCalled_run_append hword hs,
      mapCalled_run_append (isWordText_ite hg hword _) (startsOutside_mapCalled hs), isCallFollower_mapCalled hs, ih]
    cases isCallFollower s <;> rfl

theorem calledWords_mapCalled (hg : ∀ w, IsWordText w → IsWordText (g w)) (s : Text) :
    calledWords (mapCalled g s) = (calledWords s).map g := by
  induction s using cluster_induction isWord with
  | nil => rfl
  | single c s hc ih => rw [mapCalled_cons_of_neg hc, calledWords_cons_of_neg hc, calledWords_cons_of_neg hc, ih]
  | run r s hne hr hs ih =>
    have hword : IsWordText r := ⟨hne, hr⟩
    rw [mapCalled_run_append hword hs,
      calledWords_run_append (isWordText_ite hg hword _) (startsOutside_mapCalled hs), isCallFollower_mapCalled hs,
      calledWords_run_append hword hs, ih]
    cases isCallFollower s <;> rfl

/-- Words put back one by one give the text back exactly if each word in call position is its own again. -/
theorem mapWords_mapCalled_eq_iff (hg : ∀ w, IsWordText w → IsWordText (g w)) (hk : ∀ w, IsWordText w → IsWordText (k w))
    (hfix : ∀ w ∈ words s, k w = w) :
    mapWords k (mapCalled g s) = s ↔ ∀ w ∈ calledWords s, k (g w) = w := by
  induction s using cluster_induction isWord with
  | nil => exact iff_of_true rfl fun w hw => nomatch hw
  | single c s hc ih =>
    rw [words_cons_of_neg hc] at hfix
    rw [mapCalled_cons_of_neg hc, mapWords_cons_of_neg hc, calledWords_cons_of_neg hc, List.cons.injEq, ← ih hfix]
    exact and_iff_right rfl
  | run r s hne hr hs ih =>
    have hword : IsWordText r := ⟨hne, hr⟩
    rw [words_run_append hword hs] at hfix
    have hput := isWordText_ite hg hword (isCallFollower s)
    have hout := startsOutside_mapCalled (g := g) hs
    -- Both sides begin with a word, so they agree if these words do and what follows them does.
    have hcut : ∀ v u, IsWordText v → StartsOutside isWord u → (v ++ u = r ++ s ↔ v = r ∧ u = s) := fun v u hv hu =>
      ⟨fun h => eq_of_append_eq hv.all hr hu hs h, fun ⟨hv, hu⟩ => by rw [hv, hu]⟩
    rw [mapCalled_run_append hword hs, mapWords_run_append hput hout,
      hcut _ _ (hk _ hput) (startsOutside_mapWords hout), calledWords_run_append hword hs,
      ih fun w hw => hfix w (List.mem_cons_of_mem r hw)]
    cases isCallFollower s with
    | false => exact and_iff_right (hfix r List.mem_cons_self)
    | true =>
      rw [if_pos rfl, if_pos rfl]
      exact (List.forall_mem_cons (p := fun w => k (g w) = w)).symm

theorem mapCalled_id (s : Text) : mapCalled (fun w => w) s = s := by
  induction s using cluster_induction isWord with
  | nil => rfl
  | single c s hc ih => rw [mapCalled_cons_of_neg hc, ih]
  | run r s hne hr hs ih => rw [mapCalled_run_append ⟨hne, hr⟩ hs, ite_self, ih]

end

/-! ### Turns of the entries -/

/-- A word in call position after the turn of an entry. -/
def disguiseWord (e : Text × Text) (w : Text) : Text := ((stem? e.1 w).map (· ++ e.2)).getD w

/-- A word in call position after the turns of entries, one after the other. -/
def disguise (es : List (Text × Text)) (w : Text) : Text := es.foldl (fun w e => disguiseWord e w) w

section
variable {e : Text × Text} {es : List (Text × Text)} {w s : Text}

theorem disguiseWord_of_not_found (he : e.1 ≠ []) (h : ¬ FoundAtEnd e.1 w) : disguiseWord e w = w := by
  have hnone : stem? e.1 w = none := Classical.not_not.mp fun hne => h ((stem?_ne_none_iff he).mp hne)
  rw [disguiseWord, hnone, Option.map_none, Option.getD_none]

theorem disguiseWord_of_found (he : e.1 ≠ []) (h : FoundAtEnd e.1 w) :
    ∃ stem, w = stem ++ e.1 ∧ disguiseWord e w = stem ++ e.2 := by
  obtain ⟨stem, hstem⟩ := Option.ne_none_iff_exists'.mp ((stem?_ne_none_iff he).mpr h)
  refine ⟨stem, eq_append_of_stem? he hstem, ?_⟩
  rw [disguiseWord, hstem, Option.map_some, Option.getD_some]

theorem isWordText_disguiseWord (he : e.1 ≠ []) (hn : IsWordText e.2) (hw : IsWordText w) :
    IsWordText (disguiseWord e w) := by
  by_cases h : FoundAtEnd e.1 w
  · obtain ⟨stem, rfl, hdisguise⟩ := disguiseWord_of_found he h
    rw [hdisguise]
    refine ⟨fun hnil => hn.ne_nil (List.append_eq_nil_iff.mp hnil).2, fun c hc => ?_⟩
    rcases List.mem_append.mp hc with hc | hc
    · exact hw.all c (List.mem_append_left _ hc)
    · exact hn.all c hc
  · rwa [disguiseWord_of_not_found he h]

theorem isWordText_disguise (hes : ∀ d ∈ es, IsWordText d.1 ∧ IsWordText d.2) (hw : IsWordText w) :
    IsWordText (disguise es w) := by
  induction es generalizing w with
  | nil => exact hw
  | cons d es ih =>
    obtain ⟨⟨hd, hn⟩, hes⟩ := List.forall_mem_cons.mp hes
    exact ih hes (isWordText_disguiseWord hd.ne_nil hn hw)

/-- Renaming a function takes its turn at every word in call position, and counts those it is found in. -/
theorem renameFunction_eq_mapCalled (he : IsWordText e.1) (s : Text) :
    (renameFunction e.1 e.2 s).text = mapCalled (disguiseWord e) s ∧
      (0 < (renameFunction e.1 e.2 s).replaced ↔ ∃ w ∈ calledWords s, FoundAtEnd e.1 w) := by
  rw [renameFunction_eq_pass he]
  induction s using cluster_induction isWord with
  | nil => exact ⟨rfl, iff_of_false (Nat.lt_irrefl 0) fun ⟨w, hw, _⟩ => nomatch hw⟩
  | single c s hc ih =>
    have hstem : stem? e.1 [c] = none := by
      refine Classical.not_not.mp fun hne => ?_
      obtain ⟨stem, hstem⟩ := Option.ne_none_iff_exists'.mp hne
      obtain ⟨a, ha⟩ := List.exists_mem_of_ne_nil _ he.ne_nil
      have hac : a ∈ [c] := eq_append_of_stem? he.ne_nil hstem ▸ List.mem_append_right stem ha
      rw [← List.mem_singleton.mp hac, he.all a ha] at hc
      cases hc
    have hrule : callRule e.1 e.2 [c] s = none := by simp [callRule, hstem]
    rw [Rule.pass_cons_of_neg _ hc, hrule, mapCalled_cons_of_neg hc, calledWords_cons_of_neg hc, ← ih.1, ← ih.2]
    simp
  | run r s hne hr hs ih =>
    rw [Rule.pass_run_append _ hne hr hs, mapCalled_run_append ⟨hne, hr⟩ hs, calledWords_run_append ⟨hne, hr⟩ hs, ← ih.1]
    cases hcall : isCallFollower s with
    | false => simp [callRule, hcall, ih.2]
    | true =>
      have hfound : (stem? e.1 r).isSome = true ↔ FoundAtEnd e.1 r := by
        rw [← stem?_ne_none_iff he.ne_nil, Option.isSome_iff_ne_none]
      refine ⟨by simp [callRule, hcall, disguiseWord], ?_⟩
      simp only [callRule, hcall, if_true, Option.isSome_map, Pass.replaced_after, List.mem_cons, exists_eq_or_imp,
        ← hfound, ← ih.2]
      cases (stem? e.1 r).isSome with
      | false => simp
      | true => exact iff_of_true (by simp only [if_true]; omega) (Or.inl rfl)

/-- The turns of the entries at each word are the passes of the entries over the text. -/
theorem run_renameFunction (hes : ∀ e ∈ es, IsWordText e.1 ∧ IsWordText e.2) (s : Text) :
    Pass.run renameFunction es s = mapCalled (disguise es) s := by
  induction es generalizing s with
  | nil => exact (mapCalled_id s).symm
  | cons e es ih =>
    obtain ⟨hs, hn⟩ := hes e List.mem_cons_self
    rw [Pass.run_cons, (renameFunction_eq_mapCalled hs s).1, ih fun d hd => hes d (List.mem_cons_of_mem e hd),
      mapCalled_mapCalled fun w hw => isWordText_disguiseWord hs.ne_nil hn hw]
    rfl

/-- An entry is used if it is found at the end of a word in call position when its turn comes. -/
theorem mem_usedEntries {pre post : List (Text × Text)} (hpre : ∀ d ∈ pre, IsWordText d.1 ∧ IsWordText d.2)
    (he : IsWordText e.1) (hw : w ∈ calledWords s) (h : FoundAtEnd e.1 (disguise pre w)) :
    e ∈ usedEntries s (pre ++ e :: post) := by
  induction pre generalizing s w with
  | nil =>
    rw [List.nil_append, usedEntries, if_pos ((renameFunction_eq_mapCalled he s).2.mpr ⟨w, hw, h⟩)]
    exact List.mem_cons_self
  | cons d pre ih =>
    obtain ⟨hs, hn⟩ := hpre d List.mem_cons_self
    have hturn : disguiseWord d w ∈ calledWords (renameFunction d.1 d.2 s).text := by
      rw [(renameFunction_eq_mapCalled hs s).1, calledWords_mapCalled fun w hw => isWordText_disguiseWord hs.ne_nil hn hw]
      exact List.mem_map_of_mem hw
    have hmem := ih (fun d' hd' => hpre d' (List.mem_cons_of_mem d hd')) hturn h
    rw [List.cons_append, usedEntries]
    split
    · exact List.mem_cons_of_mem d hmem
    · exact hmem

theorem disguise_of_not_found (hes : ∀ d ∈ es, IsWordText d.1) (h : ∀ d ∈ es, ¬ FoundAtEnd d.1 w) : disguise es w = w := by
  induction es with
  | nil => rfl
  | cons d es ih =>
    show disguise es (disguiseWord d w) = w
    rw [disguiseWord_of_not_found (hes d List.mem_cons_self).ne_nil (h d List.mem_cons_self)]
    exact ih (fun d' hd' => hes d' (List.mem_cons_of_mem d hd')) fun d' hd' => h d' (List.mem_cons_of_mem d hd')

/-- The symbol of an entry gets its name if no entry before takes its end and no entry after takes the end of the name. -/
theorem disguise_symbol {pre post : List (Text × Text)} (hes : ∀ d ∈ pre ++ e :: post, IsWordText d.1)
    (hpre : ∀ d ∈ pre, ¬ FoundAtEnd d.1 e.1) (hpost : ∀ d ∈ post, ¬ FoundAtEnd d.1 e.2) :
    disguise (pre ++ e :: post) e.1 = e.2 := by
  obtain ⟨hwpre, hwpost⟩ := List.forall_mem_append.mp hes
  obtain ⟨hwe, hwpost⟩ := List.forall_mem_cons.mp hwpost
  have hturn : disguiseWord e e.1 = e.2 := by
    rw [disguiseWord, stem?_self hwe.ne_nil]
    rfl
  calc disguise (pre ++ e :: post) e.1
      _ = disguise post (disguiseWord e (disguise pre e.1)) := by simp [disguise]
      _ = disguise post e.2 := by rw [disguise_of_not_found hwpre hpre, hturn]
      _ = e.2 := disguise_of_not_found hwpost hpost

/-- Either no entry is found at the end of the word, or one is the last, and the word ends with its name. -/
theorem disguise_cases (hes : ∀ d ∈ es, IsWordText d.1) (w : Text) :
    (∀ d ∈ es, ¬ FoundAtEnd d.1 w) ∨ ∃ pre e post stem, es = pre ++ e :: post ∧ disguise pre w = stem ++ e.1 ∧
      disguise es w = stem ++ e.2 ∧ ∀ d ∈ post, ¬ FoundAtEnd d.1 (disguise es w) := by
  induction es using List.reverseRecOn with
  | nil => exact Or.inl fun d hd => nomatch hd
  | append_singleton es d ih =>
    have hd := (hes d (List.mem_append_right es List.mem_cons_self)).ne_nil
    have hsplit : disguise (es ++ [d]) w = disguiseWord d (disguise es w) := by
      rw [disguise, List.foldl_append]
      rfl
    have hes' : ∀ d ∈ es, IsWordText d.1 := fun d' hd' => hes d' (List.mem_append_left [d] hd')
    by_cases h : FoundAtEnd d.1 (disguise es w)
    · obtain ⟨stem, hword, hturn⟩ := disguiseWord_of_found hd h
      exact Or.inr ⟨es, d, [], stem, rfl, hword, hsplit.trans hturn, fun d' hd' => nomatch hd'⟩
    · have hsame := hsplit.trans (disguiseWord_of_not_found hd h)
      rcases ih hes' with hnone | ⟨pre, e, post, stem, rfl, hword, hturn, hpost⟩
      · rw [disguise_of_not_found hes' hnone] at h
        refine Or.inl fun d' hd' => ?_
        rcases List.mem_append.mp hd' with hd' | hd'
        · exact hnone d' hd'
        · exact List.mem_singleton.mp hd' ▸ h
      · refine Or.inr ⟨pre, e, post ++ [d], stem, by simp, hword, hsame.trans hturn, fun d' hd' => ?_⟩
        rw [hsame]
        rcases List.mem_append.mp hd' with hd' | hd'
        · exact hpost d' hd'
        · exact List.mem_singleton.mp hd' ▸ h

end

/-! ### Local functions -/

/-- Renaming local functions changes words in call position and nothing else, each by itself. Such a word stays unless it ends with
    a function of the table. A function itself gets its name if no shorter function ends it and none ends its name. -/
theorem renameLocalFunctions_local {t : SymbolTable} (hs : ∀ x ∈ t.symbols, isIdentifier x = true)
    (hn : ∀ n ∈ t.names, isIdentifier n = true) :
    ∃ change : Text → Text, (∀ s, (renameLocalFunctions t s).text = mapCalled change s) ∧
      (∀ w, IsWordText w → IsWordText (change w)) ∧
      (∀ w, change w ≠ w → ∃ x ∈ t.symbols, x <:+ w) ∧
      ∀ e ∈ t.entries, (∀ x ∈ t.symbols, x <:+ e.1 → x = e.1) → (∀ x ∈ t.symbols, ¬ x <:+ e.2) → change e.1 = e.2 := by
  have hes : ∀ e ∈ t.entries, IsWordText e.1 ∧ IsWordText e.2 := fun e he =>
    ⟨isWordText_of_isIdentifier (hs e.1 (List.mem_map_of_mem he)), isWordText_of_isIdentifier (hn e.2 (List.mem_map_of_mem he))⟩
  refine ⟨disguise t.entries, fun s => ?_, fun w hw => isWordText_disguise hes hw, fun w hw => ?_, fun e he hsymbol hname => ?_⟩
  · rw [renameLocalFunctions, Pass.text_overTable, run_renameFunction hes]
  · by_contra hnone
    refine hw (disguise_of_not_found (fun d hd => (hes d hd).1) fun d hd hfound => hnone ?_)
    exact ⟨d.1, List.mem_map_of_mem hd, hfound.suffix⟩
  · obtain ⟨pre, post, hsplit⟩ := List.append_of_mem he
    have hnodup := t.nodup
    have hmem : ∀ d ∈ pre ++ e :: post, d.1 ∈ t.symbols := fun d hd => List.mem_map_of_mem (hsplit ▸ hd)
    rw [hsplit, List.map_append, List.nodup_append] at hnodup
    rw [hsplit]
    refine disguise_symbol (fun d hd => (hes d (hsplit ▸ hd)).1) (fun d hd hfound => ?_) fun d hd hfound => ?_
    · -- A function before this one that ends it is this one, which stands in the table once.
      have heq := hsymbol d.1 (hmem d (List.mem_append_left _ hd)) hfound.suffix
      exact hnodup.2.2 d.1 (List.mem_map_of_mem hd) e.1 List.mem_cons_self heq
    · exact hname d.1 (hmem d (List.mem_append_right pre (List.mem_cons_of_mem e hd))) hfound.suffix

/-- One function ends the other, and a third word only begins with it. -/
theorem renameLocalFunctions_local_sample :
    let t := SymbolTable.ofList [("put".toList, "a1".toList), ("output".toList, "b2".toList)]
    let s := "output(put (x), putter(put));".toList
    (∀ x ∈ t.symbols, isIdentifier x = true) ∧ (∀ n ∈ t.names, isIdentifier n = true) ∧
      ∃ change, (renameLocalFunctions t s).text = mapCalled change s ∧ change "put".toList = "a1".toList ∧
        change "putter".toList = "putter".toList := by
  intro t s
  have hs : ∀ x ∈ t.symbols, isIdentifier x = true := by decide
  have hn : ∀ n ∈ t.names, isIdentifier n = true := by decide
  obtain ⟨change, htext, -, hends, hown⟩ := renameLocalFunctions_local hs hn
  refine ⟨hs, hn, change, htext s, hown ("put".toList, "a1".toList) List.mem_cons_self (by decide) (by decide), ?_⟩
  by_contra hne
  obtain ⟨x, hx, hsuffix⟩ := hends _ hne
  revert x
  decide

end Cloak
