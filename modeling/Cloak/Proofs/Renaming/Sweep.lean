import Cloak.Proofs.Text.Words
import Cloak.Renaming.Pass

/-! Renaming seen word by word. Replacing a symbol sweeps over the text once; a whole-word search for a symbol of word
    characters replaces the words that are the symbol, each judged by what follows it. -/

namespace Cloak

/-! ### Passes -/

namespace Pass

/-- The pass with a text before it that counts as `n` replacements. -/
def after (t : Text) (n : Nat) (p : Pass) : Pass := ⟨t ++ p.text, n + p.replaced⟩

@[simp]
theorem text_after (t : Text) (n : Nat) (p : Pass) : (p.after t n).text = t ++ p.text := rfl

@[simp]
theorem replaced_after (t : Text) (n : Nat) (p : Pass) : (p.after t n).replaced = n + p.replaced := rfl

theorem after_after (t u : Text) (n k : Nat) (p : Pass) : (p.after u k).after t n = p.after (t ++ u) (n + k) := by
  simp [after, Nat.add_assoc]

end Pass

/-! ### One sweep -/

namespace Search

/-- What replacing makes of a text that begins after the character `before`. -/
def sweep (q : Search) (name : Text) (g : Guard) (before : Option Char) (s : Text) : Pass :=
  let ps := (q.piecesFrom [] before s).map (Piece.judge g)
  ⟨ps.flatMap (Part.spell q.symbol name), ps.count .replaced⟩

theorem replace_eq_sweep (q : Search) (name : Text) (g : Guard) (s : Text) :
    q.replace name g s = q.sweep name g none s :=
  q.replace_eq name g s

section
variable {q : Search} {name : Text} {g : Guard} {before : Option Char} {c : Char} {s rest : Text}

theorem sweep_nil (hq : q.symbol ≠ []) : q.sweep name g before [] = ⟨[], 0⟩ := by
  have h : q.at? before [] = none := by
    cases h : q.at? before [] with
    | none => rfl
    | some rest => exact absurd (List.append_eq_nil_iff.mp (q.spells h).symm).1 hq
  simp [sweep, piecesFrom, h]

theorem sweep_cons_none (h : q.at? before (c :: s) = none) :
    q.sweep name g before (c :: s) = (q.sweep name g (some c) s).after [c] 0 := by
  rw [sweep, piecesFrom_cons_none [] h, piecesFrom_eq_append q [.char c]]
  simp [sweep, Pass.after, Piece.judge, Part.spell]

theorem sweep_cons_some (h : q.at? before (c :: s) = some rest) (hq : q.symbol ≠ []) :
    q.sweep name g before (c :: s) = (q.sweep name g q.symbol.getLast? rest).after
      (if g.admits rest then name else q.symbol) (if g.admits rest then 1 else 0) := by
  rw [sweep, piecesFrom_cons_some [] h hq, piecesFrom_eq_append q [.hit rest]]
  cases ha : g.admits rest
  · simp [sweep, Pass.after, Piece.judge, Part.spell, ha]
  · simp [sweep, Pass.after, Piece.judge, Part.spell, ha, Nat.add_comm]

end
end Search

/-! ### Rules -/

/-- A rule for clusters: what is put for a cluster that `rest` follows, if it is replaced. -/
abbrev Rule (α : Type) := (cluster rest : List α) → Option (List α)

namespace Rule
variable {α : Type}

/-- The clusters after the rule, each judged by the clusters as they were; `last` follows them. -/
def rewrite (rule : Rule α) (last : List α) : List (List α) → List (List α)
  | [] => []
  | c :: cs => (rule c (cs.flatten ++ last)).getD c :: rule.rewrite last cs

/-- The number of clusters that the rule replaces. -/
def count (rule : Rule α) (last : List α) : List (List α) → Nat
  | [] => 0
  | c :: cs => (if (rule c (cs.flatten ++ last)).isSome then 1 else 0) + rule.count last cs

theorem rewrite_append (rule : Rule α) (last : List α) (cs ds : List (List α)) :
    rule.rewrite last (cs ++ ds) = rule.rewrite (ds.flatten ++ last) cs ++ rule.rewrite last ds := by
  induction cs with
  | nil => rfl
  | cons c cs ih => simp [rewrite, ih]

theorem count_append (rule : Rule α) (last : List α) (cs ds : List (List α)) :
    rule.count last (cs ++ ds) = rule.count (ds.flatten ++ last) cs + rule.count last ds := by
  induction cs with
  | nil => simp [count]
  | cons c cs ih => simp [count, ih, Nat.add_assoc]

/-- A rule that refuses all clusters leaves them and counts nothing. -/
theorem rewrite_of_none {rule : Rule α} {cs : List (List α)} (h : ∀ c ∈ cs, ∀ rest, rule c rest = none) (last : List α) :
    rule.rewrite last cs = cs ∧ rule.count last cs = 0 := by
  induction cs with
  | nil => exact ⟨rfl, rfl⟩
  | cons c cs ih =>
    obtain ⟨hr, hc⟩ := ih fun d hd => h d (List.mem_cons_of_mem c hd)
    simp [rewrite, count, h c List.mem_cons_self, hr, hc]

theorem count_pos {rule : Rule α} {c last : List α} {cs : List (List α)} (hc : c ∈ cs) (h : ∀ rest, (rule c rest).isSome = true) :
    0 < rule.count last cs := by
  induction cs with
  | nil => cases hc
  | cons d cs ih =>
    rw [Rule.count]
    rcases List.mem_cons.mp hc with rfl | hc
    · rw [if_pos (h _)]
      omega
    · have := ih hc
      omega

/-- A relation to the clusters of another text is kept if every replacement keeps it. -/
theorem forall₂_rewrite {β : Type} {R : List β → List α → Prop} {rule : Rule α} {last : List α} {cs : List (List β)}
    {ds : List (List α)} (h : List.Forall₂ R cs ds)
    (hrule : ∀ c d rest e, R c d → rule d rest = some e → R c e) : List.Forall₂ R cs (rule.rewrite last ds) := by
  induction h with
  | nil => exact .nil
  | @cons c d cs ds hcd _ ih =>
    refine .cons ?_ ih
    cases he : rule d (ds.flatten ++ last) with
    | none => exact hcd
    | some e => exact hrule c d _ e hcd he

theorem mem_rewrite {rule : Rule α} {last d : List α} {cs : List (List α)} (h : d ∈ rule.rewrite last cs) :
    d ∈ cs ∨ ∃ c ∈ cs, ∃ rest, rule c rest = some d := by
  induction cs with
  | nil => cases h
  | cons c cs ih =>
    rcases List.mem_cons.mp h with rfl | h
    · cases he : rule c (cs.flatten ++ last) with
      | none => exact Or.inl List.mem_cons_self
      | some e => exact Or.inr ⟨c, List.mem_cons_self, _, he⟩
    · rcases ih h with h | ⟨e, he, rest, hr⟩
      · exact Or.inl (List.mem_cons_of_mem c h)
      · exact Or.inr ⟨e, List.mem_cons_of_mem c he, rest, hr⟩

/-- A rule that keeps the clusters of a class in place: it puts runs for runs and leaves all else. -/
structure Keeps (p : α → Bool) (rule : Rule α) : Prop where
  single : ∀ a rest, p a = false → rule [a] rest = none
  run : ∀ c rest d, (∀ a ∈ c, p a = true) → rule c rest = some d → d ≠ [] ∧ ∀ a ∈ d, p a = true

theorem Keeps.clusters_rewrite {p : α → Bool} {rule : Rule α} (h : rule.Keeps p) (last l : List α) :
    clusters p (rule.rewrite last (clusters p l)).flatten = rule.rewrite last (clusters p l) := by
  refine clusters_flatten_of_forall₂ (p := p) (l := l) ?_
  refine forall₂_rewrite (List.forall₂_same.mpr fun c hc => SameKind.refl hc) fun c d rest e hcd he => ?_
  rcases hcd with ⟨hc, -, hd⟩ | ⟨-, b, -, rfl, -, hb⟩
  · exact Or.inl ⟨hc, h.run d rest e hd he⟩
  · rw [h.single b rest hb] at he
    cases he

/-- What a rule makes of a text, word by word. -/
def pass (rule : Rule Char) (s : Text) : Pass :=
  ⟨(rule.rewrite [] (clusters isWord s)).flatten, rule.count [] (clusters isWord s)⟩

theorem pass_cons_of_neg (rule : Rule Char) {c : Char} (hc : isWord c = false) (s : Text) :
    rule.pass (c :: s) = (rule.pass s).after ((rule [c] s).getD [c]) (if (rule [c] s).isSome then 1 else 0) := by
  simp [pass, clusters_cons_of_neg hc, rewrite, count, Pass.after]

theorem pass_run_append (rule : Rule Char) {r s : Text} (hne : r ≠ []) (hr : ∀ c ∈ r, isWord c = true)
    (hs : StartsOutside isWord s) :
    rule.pass (r ++ s) = (rule.pass s).after ((rule r s).getD r) (if (rule r s).isSome then 1 else 0) := by
  simp [pass, clusters_run_append hne hr hs, rewrite, count, Pass.after]

section
variable {rule : Rule Char} (hsingle : ∀ c rest, isWord c = false → rule [c] rest = none)
include hsingle

theorem pass_cons_of_single {c : Char} (hc : isWord c = false) (s : Text) : rule.pass (c :: s) = (rule.pass s).after [c] 0 := by
  rw [pass_cons_of_neg rule hc, hsingle c s hc]
  rfl

theorem pass_append_of_single {t : Text} (ht : ∀ c ∈ t, isWord c = false) (s : Text) :
    rule.pass (t ++ s) = (rule.pass s).after t 0 := by
  induction t with
  | nil => simp [Pass.after]
  | cons c t ih =>
    obtain ⟨hc, ht⟩ := List.forall_mem_cons.mp ht
    rw [List.cons_append, pass_cons_of_single hsingle hc, ih ht, Pass.after_after]
    rfl

end
end Rule

/-! ### Whole words -/

/-- Puts `name` for the word `symbol` where the rest admits it. -/
def wordRule (symbol name : Text) (admits : Text → Bool) : Rule Char := fun c rest =>
  if c = symbol ∧ admits rest = true then some name else none

section
variable {symbol name : Text} {g : Guard}

theorem isBoundary_eq_true_iff {before after : Option Char} :
    isBoundary before after = true ↔ isWordAt before ≠ isWordAt after := by
  simp [isBoundary]

theorem isWordAt_getLast? (hs : IsWordText symbol) (before : Option Char) :
    isWordAt (symbol.getLast?.or before) = true := by
  rw [List.getLast?_eq_some_getLast hs.ne_nil]
  exact hs.all _ (List.getLast_mem hs.ne_nil)

/-- Inside a word nothing is found. -/
theorem Search.sweep_word_inside (symbol name : Text) (g : Guard) {before : Char} (hb : isWord before = true) {r : Text}
    (hr : ∀ c ∈ r, isWord c = true) (s : Text) :
    ∃ last, isWord last = true ∧
      (word symbol).sweep name g (some before) (r ++ s) = ((word symbol).sweep name g (some last) s).after r 0 := by
  induction r generalizing before with
  | nil => exact ⟨before, hb, by simp [Pass.after]⟩
  | cons c r ih =>
    have hc := hr c List.mem_cons_self
    have hnone : (word symbol).at? (some before) (c :: (r ++ s)) = none := by
      have hbd : isBoundary (some before) (some c) = false := by simp [isBoundary, isWordAt, hb, hc]
      simp [word, wordAt?, hbd]
    obtain ⟨last, hl, h⟩ := ih hc fun d hd => hr d (List.mem_cons_of_mem c hd)
    exact ⟨last, hl, by rw [List.cons_append, sweep_cons_none hnone, h, Pass.after_after]; rfl⟩

/-- At the beginning of a word exactly that word is found. -/
theorem Search.at?_word_run (hs : IsWordText symbol) {before : Option Char} (hb : isWordAt before = false) {r s : Text}
    (hne : r ≠ []) (hr : ∀ c ∈ r, isWord c = true) (hout : StartsOutside isWord s) :
    (word symbol).at? before (r ++ s) = if r = symbol then some s else none := by
  have hhead : isWordAt (r ++ s).head? = true := by
    obtain ⟨c, r, rfl⟩ := List.exists_cons_of_ne_nil hne
    exact hr c List.mem_cons_self
  have hbd : isBoundary before (r ++ s).head? = true := by rw [isBoundary_eq_true_iff, hb, hhead]; decide
  have hend : ∀ u : Text, isBoundary (symbol.getLast?.or before) u.head? = true ↔ StartsOutside isWord u := fun u => by
    rw [isBoundary_eq_true_iff, isWordAt_getLast? hs]
    cases u with
    | nil => simp [isWordAt, startsOutside_nil]
    | cons c u => simp [isWordAt, startsOutside_cons]
  change wordAt? symbol before (r ++ s) = _
  split
  · next h =>
    subst h
    have hstart : startsAlike r (r ++ s) = true := by
      obtain ⟨c, r, rfl⟩ := List.exists_cons_of_ne_nil hne
      simp [startsAlike]
    simp only [wordAt?, hstart, hbd, Bool.and_self, if_true, after?_eq_some_iff.mpr rfl, (hend s).mpr hout]
  · next h =>
    unfold wordAt?
    split
    · split
      · rfl
      · next u hu =>
        split
        · next hu' =>
          have hu := after?_eq_some_iff.mp hu
          exact absurd (eq_of_append_eq hr hs.all hout ((hend u).mp hu') hu).1 h
        · rfl
    · rfl

/-- Nothing is found at a character that no word has. -/
theorem Search.at?_word_single (hs : IsWordText symbol) {before : Option Char} {c : Char} (hc : isWord c = false) (s : Text) :
    (word symbol).at? before (c :: s) = none := by
  refine at?_eq_none_of_mayStart _ ?_
  obtain ⟨a, t, ht⟩ := List.exists_cons_of_ne_nil hs.ne_nil
  simp only [mayStart, word, ht, beq_eq_false_iff_ne]
  rintro rfl
  exact hs.not_mem hc (ht ▸ List.mem_cons_self)

/-- A whole-word sweep goes word by word. -/
theorem Search.sweep_word (hs : IsWordText symbol) {before : Option Char} {s : Text}
    (hb : isWordAt before = true → StartsOutside isWord s) :
    (word symbol).sweep name g before s = (wordRule symbol name g.admits).pass s := by
  induction s using cluster_induction isWord generalizing before with
  | nil => exact sweep_nil hs.ne_nil
  | single c s hc ih =>
    have hne : [c] ≠ symbol := fun h => hs.not_mem hc (h ▸ List.mem_cons_self)
    have hnone : (word symbol).at? before (c :: s) = none := at?_word_single hs hc s
    have hout : isWordAt (some c) = true → StartsOutside isWord s := fun h => by
      rw [isWordAt, Option.any_some, hc] at h
      cases h
    rw [sweep_cons_none hnone, ih hout, Rule.pass_cons_of_neg _ hc]
    simp [wordRule, hne]
  | run r s hne hr hout ih =>
    -- The word begins here: where a word character stands before, the text starts outside a word.
    have hbefore : isWordAt before = false := by
      obtain ⟨c, r, rfl⟩ := List.exists_cons_of_ne_nil hne
      refine Bool.eq_false_iff.mpr fun h => ?_
      have := startsOutside_cons.mp (hb h)
      rw [hr c List.mem_cons_self] at this
      cases this
    have hat := at?_word_run hs hbefore hne hr hout
    obtain ⟨c, t, rfl⟩ := List.exists_cons_of_ne_nil hne
    rw [Rule.pass_run_append _ hne hr hout, List.cons_append]
    rw [List.cons_append] at hat
    by_cases h : c :: t = symbol
    · rw [if_pos h] at hat
      rw [sweep_cons_some hat hs.ne_nil, ih fun _ => hout]
      cases hg : g.admits s <;> simp [wordRule, h, hg, word]
    · rw [if_neg h] at hat
      have ht : ∀ d ∈ t, isWord d = true := fun d hd => hr d (List.mem_cons_of_mem c hd)
      obtain ⟨last, -, hl⟩ := sweep_word_inside symbol name g (hr c List.mem_cons_self) ht s
      rw [sweep_cons_none hat, hl, ih fun _ => hout, Pass.after_after]
      simp [wordRule, h]

/-- A symbol too long to be looked for is refused everywhere. -/
def wordAdmits (symbol : Text) (g : Guard) (rest : Text) : Bool :=
  decide (Utf8.size symbol ≤ Search.longestWord) && g.admits rest

theorem wordAdmits_of_short (hshort : Utf8.size symbol ≤ Search.longestWord) : wordAdmits symbol g = g.admits := by
  funext rest
  simp [wordAdmits, hshort]

/-- Replacing whole words goes word by word. -/
theorem replaceWord_eq_pass (hs : IsWordText symbol) (s : Text) :
    replaceWord symbol name g s = (wordRule symbol name (wordAdmits symbol g)).pass s := by
  unfold replaceWord
  split
  · next hlong =>
    have hnone : ∀ c ∈ clusters isWord s, ∀ rest, wordRule symbol name (wordAdmits symbol g) c rest = none := by
      intro c _ rest
      simp [wordRule, wordAdmits, Nat.not_le.mpr hlong]
    obtain ⟨hr, hc⟩ := Rule.rewrite_of_none hnone []
    rw [Rule.pass, hr, hc, flatten_clusters]
  · next hshort =>
    rw [Search.replace_eq_sweep, Search.sweep_word hs (by simp [isWordAt]), wordAdmits_of_short (Nat.not_lt.mp hshort)]

theorem replaceWord_eq_pass_of_short (hs : IsWordText symbol) (hshort : Utf8.size symbol ≤ Search.longestWord) (s : Text) :
    replaceWord symbol name g s = (wordRule symbol name g.admits).pass s := by
  rw [replaceWord_eq_pass hs, wordAdmits_of_short hshort]

theorem keeps_wordRule (hs : IsWordText symbol) (hn : IsWordText name) (admits : Text → Bool) :
    (wordRule symbol name admits).Keeps isWord where
  single a rest ha := by
    refine if_neg ?_
    rintro ⟨rfl, -⟩
    exact hs.not_mem ha List.mem_cons_self
  run c rest d _ h := by
    unfold wordRule at h
    split at h
    · cases h
      exact ⟨hn.ne_nil, hn.all⟩
    · cases h

/-- Text in front in which the symbol is no word, and that ends outside a word, stays in front. -/
theorem pass_wordRule_append {admits : Text → Bool} {t s : Text} (ht : ∀ c ∈ clusters isWord t, c ≠ symbol)
    (hend : ∀ c ∈ t.getLast?, isWord c = false) :
    (wordRule symbol name admits).pass (t ++ s) = ((wordRule symbol name admits).pass s).after t 0 := by
  have hcut : clusters isWord (t ++ s) = clusters isWord t ++ clusters isWord s :=
    clusters_append fun c hc d _ => by rw [hend c hc, Bool.false_and]
  have hnone : ∀ c ∈ clusters isWord t, ∀ rest, wordRule symbol name admits c rest = none := fun c hc rest =>
    if_neg fun h => ht c hc h.1
  obtain ⟨hr, hc⟩ := Rule.rewrite_of_none hnone (s ++ [])
  simp only [Rule.pass, hcut, Rule.rewrite_append, Rule.count_append, hr, hc, List.flatten_append, flatten_clusters,
    Pass.after]

end

/-! ### Guards -/

/-- Text that neither ends a statement nor begins the marker settles nothing: the answer is that of what follows it. -/
theorem isUnquoted_append {marker t : Text} (hne : marker ≠ []) (ht : ∀ c ∈ t, c ≠ ';' ∧ marker.head? ≠ some c) (s : Text) :
    isUnquoted marker (t ++ s) = isUnquoted marker s := by
  obtain ⟨a, marker, rfl⟩ := List.exists_cons_of_ne_nil hne
  induction t with
  | nil => rfl
  | cons c t ih =>
    obtain ⟨hsemi, hhead⟩ := ht c List.mem_cons_self
    have hac : (a == c) = false := beq_eq_false_iff_ne.mpr fun h => hhead (congrArg some h)
    rw [List.cons_append, isUnquoted, beq_eq_false_iff_ne.mpr hsemi, List.isPrefixOf, hac,
      ih fun d hd => ht d (List.mem_cons_of_mem c hd)]
    rfl

/-! ### Passes over a table -/

namespace Pass
variable {step : (symbol name : Text) → Text → Pass} {t : SymbolTable}

/-- The pass after one more entry. -/
def advance (step : (symbol name : Text) → Text → Pass) (p : Pass) (e : Text × Text) : Pass :=
  ⟨(step e.1 e.2 p.text).text, p.replaced + (step e.1 e.2 p.text).replaced⟩

theorem overTable_eq (step : (symbol name : Text) → Text → Pass) (t : SymbolTable) (s : Text) :
    overTable step t s = t.entries.foldl (advance step) ⟨s, 0⟩ := rfl

/-- The text after the steps of entries, one after the other. -/
def run (step : (symbol name : Text) → Text → Pass) (es : List (Text × Text)) (s : Text) : Text :=
  es.foldl (fun s e => (step e.1 e.2 s).text) s

theorem run_cons (step : (symbol name : Text) → Text → Pass) (e : Text × Text) (es : List (Text × Text)) (s : Text) :
    run step (e :: es) s = run step es (step e.1 e.2 s).text := rfl

theorem run_append (step : (symbol name : Text) → Text → Pass) (es fs : List (Text × Text)) (s : Text) :
    run step (es ++ fs) s = run step fs (run step es s) :=
  List.foldl_append

theorem text_overTable (step : (symbol name : Text) → Text → Pass) (t : SymbolTable) (s : Text) :
    (overTable step t s).text = run step t.entries s := by
  suffices hfold : ∀ (es : List (Text × Text)) (p : Pass), (es.foldl (advance step) p).text = run step es p.text from
    hfold t.entries ⟨s, 0⟩
  intro es
  induction es with
  | nil => exact fun _ => rfl
  | cons e es ih => exact fun _ => ih _

/-- What every entry's step keeps, the steps together keep. -/
theorem run_induction {P : Text → Prop} {es : List (Text × Text)} {s : Text} (h : P s)
    (hstep : ∀ e ∈ es, ∀ s, P s → P (step e.1 e.2 s).text) : P (run step es s) := by
  induction es generalizing s with
  | nil => exact h
  | cons e es ih =>
    exact ih (hstep e List.mem_cons_self s h) fun d hd => hstep d (List.mem_cons_of_mem e hd)

theorem overTable_induction {P : Text → Prop} {s : Text} (h : P s)
    (hstep : ∀ e ∈ t.entries, ∀ s, P s → P (step e.1 e.2 s).text) : P (overTable step t s).text := by
  rw [text_overTable]
  exact run_induction h hstep

end Pass
end Cloak
