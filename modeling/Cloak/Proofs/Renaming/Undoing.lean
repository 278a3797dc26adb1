import Cloak.Proofs.Renaming.Call
import Cloak.Proofs.Renaming.Echo

/-! Renaming that can be undone word by word. A name put for a function stands at the end of a word, whatever characters the function
    has, because a call follows it. So where no word ends with the name before, those that do afterwards are the words it was put
    into, and the function can be put back into each of them. -/

namespace Cloak

/-! ### One whole word -/

/-- The symbol for its name. -/
def unname (symbol name w : Text) : Text := if w = name then symbol else w

section
variable {symbol name : Text} {g : Guard} {s w : Text}

theorem isWordText_unname (hs : IsWordText symbol) (hw : IsWordText w) : IsWordText (unname symbol name w) := by
  unfold unname
  split
  · exact hs
  · exact hw

theorem mapWords_unname_replaceWord (hs : IsWordText symbol) (hn : IsWordText name) (h : name ∉ words s) :
    mapWords (unname symbol name) (replaceWord symbol name g s).text = s := by
  have hall : name.all isWord = true := List.all_eq_true.mpr hn.all
  rw [replaceWord_eq_pass hs, mapWords, Rule.pass, (keeps_wordRule hs hn _).clusters_rewrite]
  have hcs : ∀ c ∈ clusters isWord s, c ≠ name := fun c hc heq => h (List.mem_filter.mpr ⟨heq ▸ hc, hall⟩)
  conv_rhs => rw [← flatten_clusters isWord s]
  generalize clusters isWord s = cs at hcs
  induction cs with
  | nil => rfl
  | cons c cs ih =>
    obtain ⟨hc, hcs⟩ := List.forall_mem_cons.mp hcs
    rw [Rule.rewrite, List.flatMap_cons, ih hcs, List.flatten_cons, wordRule]
    split
    · next hsymbol => simp [hall, unname, hsymbol.1]
    · simp [unname, hc]

theorem mem_words_replaceWord (hs : IsWordText symbol) (hn : IsWordText name) (h : w ∈ words (replaceWord symbol name g s).text) :
    w ∈ words s ∨ w = name := by
  obtain ⟨hmem, hall⟩ := List.mem_filter.mp h
  refine Classical.or_iff_not_imp_right.mpr fun hne => List.mem_filter.mpr ⟨Classical.not_not.mp fun habsent => ?_, hall⟩
  exact not_mem_clusters_replaceWord hs hn hne habsent hmem

end

/-! ### One function -/

/-- `t` as often as that. -/
def times (n : Nat) (t : Text) : Text := (List.replicate n t).flatten

theorem times_succ (n : Nat) (t : Text) : times (n + 1) t = t ++ times n t := rfl

theorem times_succ_eq_append (n : Nat) (t : Text) : times (n + 1) t = times n t ++ t := by
  rw [times, List.replicate_succ', List.flatten_append, List.flatten_singleton]
  rfl

/-- Calls of a function and what is put for them. Calls that follow each other directly are taken together: their names make one
    word, though this can only happen if what begins the function can follow a call. -/
inductive Calls (f name : Text) : Text → Text → Prop
  | nil : Calls f name [] []
  | keep {s t : Text} (c : Char) (h : Calls f name s t) : Calls f name (c :: s) (c :: t)
  | call {s t : Text} (n : Nat) (hn : 0 < n → isCallFollower f = true) (hs : isCallFollower s = true)
      (ht : isCallFollower t = true) (h : Calls f name s t) : Calls f name (times (n + 1) f ++ s) (times (n + 1) name ++ t)

section
variable {f name s t w : Text}

theorem isCallFollower_append_of_ne_nil {u : Text} (hu : u ≠ []) (s : Text) : isCallFollower (u ++ s) = isCallFollower u := by
  obtain ⟨c, u, rfl⟩ := List.exists_cons_of_ne_nil hu
  rfl

theorem Calls.keep_append (u : Text) (h : Calls f name s t) : Calls f name (u ++ s) (u ++ t) := by
  induction u with
  | nil => exact h
  | cons c u ih => exact .keep c ih

theorem Calls.call_append (hf : f ≠ []) (hs : isCallFollower s = true) (h : Calls f name s t) :
    Calls f name (f ++ s) (name ++ t) := by
  have single : ∀ u : Text, u ++ [] = times 1 u := fun _ => rfl
  cases h with
  | nil => cases hs
  | @keep s t c h =>
    have ht : isCallFollower (c :: t) = true := hs
    have hcall := Calls.call 0 (fun h => absurd h (Nat.lt_irrefl 0)) hs ht (.keep c h)
    rwa [← single, ← single, List.append_nil, List.append_nil] at hcall
  | @call s t n hn hs' ht h =>
    have hfollows : isCallFollower f = true := by
      rwa [times_succ, List.append_assoc, isCallFollower_append_of_ne_nil hf] at hs
    have hcall := Calls.call (n + 1) (fun _ => hfollows) hs' ht h
    rwa [times_succ, times_succ (n + 1) name, List.append_assoc, List.append_assoc] at hcall

/-- Renaming a function puts the name for calls of it. -/
theorem calls_renameFunction (hf : f ≠ []) (s : Text) : Calls f name s (renameFunction f name s).text := by
  unfold renameFunction
  induction s using Search.plain_induction hf with
  | nil =>
    rw [Search.replace_plain_nil hf]
    exact .nil
  | char c s hc ih =>
    rw [Search.replace_plain_none hf hc, Pass.text_after]
    exact .keep c ih
  | hit rest ih =>
    rw [Search.replace_plain_append hf, Pass.text_after]
    split
    · next hcall => exact ih.call_append hf hcall
    · exact ih.keep_append f

/-! ### The function for its name -/

/-- The function for its name at the end of a word, and also for the names before it if one call can follow another directly. -/
def unend (f name w : Text) : Text :=
  if name ≠ [] ∧ name <:+ w then
    let stem := w.take (w.length - name.length)
    (if isCallFollower f then unend f name stem else stem) ++ f
  else w
termination_by w.length
decreasing_by
  next h =>
    have := List.length_pos_iff.mpr h.1
    have := h.2.length_le
    rw [List.length_take]
    omega

theorem unend_of_not_suffix (h : ¬ name <:+ w) : unend f name w = w := by
  rw [unend, if_neg fun hw => h hw.2]

theorem unend_append (hn : name ≠ []) (q : Text) :
    unend f name (q ++ name) = (if isCallFollower f then unend f name q else q) ++ f := by
  have hstem : (q ++ name).take ((q ++ name).length - name.length) = q := by
    rw [List.length_append, Nat.add_sub_cancel, List.take_left]
  rw [unend, if_pos ⟨hn, List.suffix_append q name⟩]
  simp only [hstem]

theorem isWordText_unend (hf : IsWordText f) (hw : IsWordText w) : IsWordText (unend f name w) := by
  -- No stem is looked at twice: a function that is a word follows no call.
  have hfollows : isCallFollower f = false := by
    obtain ⟨c, f, rfl⟩ := List.exists_cons_of_ne_nil hf.ne_nil
    obtain ⟨h₁, h₂⟩ := ne_follower_of_isWord (hf.all c List.mem_cons_self)
    simp [isCallFollower, h₁, h₂]
  by_cases h : name ≠ [] ∧ name <:+ w
  · obtain ⟨hname, q, rfl⟩ := h
    rw [unend_append hname, hfollows, if_neg Bool.false_ne_true]
    refine ⟨List.append_ne_nil_of_right_ne_nil q hf.ne_nil, fun c hc => ?_⟩
    rcases List.mem_append.mp hc with hc | hc
    · exact hw.all c (List.mem_append_left name hc)
    · exact hf.all c hc
  · rwa [unend, if_neg h]

/-- The functions come back for the names at the end of a word. -/
theorem unend_append_times (hname : name ≠ []) {q : Text} {n : Nat} (hn : 0 < n → isCallFollower f = true)
    (hq : isCallFollower f = true → ¬ name <:+ q) : unend f name (q ++ times (n + 1) name) = q ++ times (n + 1) f := by
  cases hf : isCallFollower f with
  | true =>
    have hall : ∀ n, unend f name (q ++ times n name) = q ++ times n f := by
      intro n
      induction n with
      | zero => simpa [times] using unend_of_not_suffix (hq hf)
      | succ n ih =>
        rw [times_succ_eq_append, times_succ_eq_append, ← List.append_assoc, ← List.append_assoc, unend_append hname, hf,
          if_pos rfl, ih]
    exact hall (n + 1)
  | false =>
    have hzero : n = 0 := by
      rcases Nat.eq_zero_or_pos n with h | h
      · exact h
      · rw [hn h] at hf
        cases hf
    subst hzero
    have single : ∀ u : Text, times 1 u = u := List.append_nil
    rw [single, single, unend_append hname, hf, if_neg Bool.false_ne_true]

end

/-! ### The words after a function is renamed -/

section
variable {f name s t w : Text}

theorem startsOutside_of_isCallFollower (h : isCallFollower s = true) : StartsOutside isWord s := by
  cases s with
  | nil => exact startsOutside_nil _
  | cons c s =>
    refine startsOutside_cons.mpr (Bool.eq_false_iff.mpr fun hc => ?_)
    obtain ⟨h₁, h₂⟩ := ne_follower_of_isWord hc
    simp [isCallFollower, h₁, h₂] at h

theorem isWordText_append_times (hname : IsWordText name) {q : Text} (hq : ∀ c ∈ q, isWord c = true) (n : Nat) :
    IsWordText (q ++ times (n + 1) name) := by
  refine ⟨fun h => hname.ne_nil ?_, fun c hc => ?_⟩
  · rw [times_succ] at h
    exact (List.append_eq_nil_iff.mp (List.append_eq_nil_iff.mp h).2).1
  · rcases List.mem_append.mp hc with hc | hc
    · exact hq c hc
    · obtain ⟨u, hu, hc⟩ := List.mem_flatten.mp hc
      rw [List.eq_of_mem_replicate hu] at hc
      exact hname.all c hc

/-- A word is one of before, or it ends with the name. -/
theorem Calls.mem_words (hname : IsWordText name) (h : Calls f name s t) (p : Text) (hw : w ∈ words (p ++ t)) :
    w ∈ words (p ++ s) ∨ name <:+ w := by
  induction h generalizing p with
  | nil => exact Or.inl hw
  | @keep s t c _ ih =>
    have hmem := ih (p ++ [c])
    rw [List.append_assoc, List.append_assoc] at hmem
    exact hmem hw
  | @call s t n _ hs ht _ ih =>
    obtain ⟨front, q, rfl, hq, hfront⟩ := exists_append_word p
    have hword := isWordText_append_times hname hq n
    rw [List.append_assoc, ← List.append_assoc q, words_append_of_not_runsOn (hfront _),
      words_run_append hword (startsOutside_of_isCallFollower ht), List.mem_append, List.mem_cons] at hw
    rcases hw with hw | rfl | hw
    · left
      rw [List.append_assoc, words_append_of_not_runsOn (hfront _)]
      exact List.mem_append_left _ hw
    · right
      rw [times_succ_eq_append, ← List.append_assoc]
      exact List.suffix_append _ name
    · refine (ih [] hw).imp_left fun hw => ?_
      rw [← List.append_assoc, words_append_of_not_runsOn (not_runsOn_of_startsOutside (startsOutside_of_isCallFollower hs))]
      exact List.mem_append_right _ hw

/-- Where no word ended with the name, the words that do are those in which the function was called. -/
theorem Calls.mapWords_unend (hf : f ≠ []) (hname : IsWordText name) (h : Calls f name s t) (p : Text)
    (hnew : ∀ w ∈ words (p ++ s), ¬ name <:+ w) : mapWords (unend f name) (p ++ t) = p ++ s := by
  induction h generalizing p with
  | nil => exact mapWords_of_fixed fun w hw => unend_of_not_suffix (hnew w hw)
  | @keep s t c _ ih =>
    have hmap := ih (p ++ [c])
    rw [List.append_assoc, List.append_assoc] at hmap
    exact hmap hnew
  | @call s t n hn hs ht _ ih =>
    obtain ⟨front, q, rfl, hq, hfront⟩ := exists_append_word p
    have hword := isWordText_append_times hname hq n
    rw [List.append_assoc, words_append_of_not_runsOn (hfront _), List.forall_mem_append, ← List.append_assoc,
      words_append_of_not_runsOn (not_runsOn_of_startsOutside (startsOutside_of_isCallFollower hs)), List.forall_mem_append]
      at hnew
    obtain ⟨hnewFront, hnewWord, hnewRest⟩ := hnew
    have hstem : isCallFollower f = true → ¬ name <:+ q := by
      intro hfollows hsuffix
      have hne : q ≠ [] := by
        rintro rfl
        exact hname.ne_nil (List.suffix_nil.mp hsuffix)
      have hstop : StartsOutside isWord (times (n + 1) f) := by
        refine startsOutside_of_isCallFollower ?_
        rwa [times_succ, isCallFollower_append_of_ne_nil hf]
      rw [words_run_append ⟨hne, hq⟩ hstop] at hnewWord
      exact hnewWord q List.mem_cons_self hsuffix
    have hfixed : mapWords (unend f name) front = front := mapWords_of_fixed fun w hw => unend_of_not_suffix (hnewFront w hw)
    have hrest : mapWords (unend f name) t = s := ih [] hnewRest
    rw [List.append_assoc, ← List.append_assoc q, mapWords_append_of_not_runsOn (hfront _),
      mapWords_run_append hword (startsOutside_of_isCallFollower ht), unend_append_times hname.ne_nil hn hstem, hfixed, hrest,
      List.append_assoc, List.append_assoc]

end
end Cloak
