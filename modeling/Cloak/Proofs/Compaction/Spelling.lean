import Cloak.Proofs.Compaction.Line
import Cloak.Proofs.Renaming.Skeleton

/-! Compaction and spelling. Letters of one alphabet can be put for the letters of another so that compaction sees no difference;
    then it does not matter whether they are put in before or after. A name has no white space and no line break and does not
    begin a directive, so laying out a spelled skeleton spells out the skeleton laid out in the same way. -/

namespace Cloak

namespace Compaction

/-- What is put for the letters of a stretch. -/
def Stretch.expand {α β : Type} (f : α → List β) : Stretch α → Stretch β
  | .directive line => .directive (line.flatMap f)
  | .code joined => .code (joined.flatMap f)

namespace Alphabet
variable {α β : Type} [BEq α] [BEq β] {A : Alphabet α} {B : Alphabet β} {f : α → List β}

/-- What `f` puts for a letter is of the same kind: one letter for white space and for the end of a line, and else letters that are
    neither. It begins like a directive only if the letter does. -/
structure Puts (A : Alphabet α) (B : Alphabet β) (f : α → List β) (a : α) : Prop where
  ne_nil : f a ≠ []
  blank : A.isBlank a = true → ∃ b, f a = [b] ∧ B.isBlank b = true
  inked : A.isBlank a = false → ∀ b ∈ f a, B.isBlank b = false
  ends : A.isLineBreak a = true → ∃ b, f a = [b] ∧ B.isLineBreak b = true
  goesOn : A.isLineBreak a = false → ∀ b ∈ f a, B.isLineBreak b = false
  mark : ((f a).head? == some B.mark) = (a == A.mark)

section
variable {k r : List α}

theorem head?_flatMap (h : ∀ a ∈ k, Puts A B f a) : (k.flatMap f).head? = k.head?.bind fun a => (f a).head? := by
  cases k with
  | nil => rfl
  | cons a k =>
    obtain ⟨b, t, hb⟩ := List.exists_cons_of_ne_nil (h a List.mem_cons_self).ne_nil
    rw [List.flatMap_cons, hb, List.cons_append, List.head?_cons, List.head?_cons, Option.bind_some, hb, List.head?_cons]

theorem isDirective_flatMap (h : ∀ a ∈ k, Puts A B f a) : B.isDirective (k.flatMap f) = A.isDirective k := by
  unfold isDirective
  rw [head?_flatMap h]
  cases k with
  | nil => rfl
  | cons a k => exact (h a List.mem_cons_self).mark

theorem isEmpty_flatMap (h : ∀ a ∈ k, Puts A B f a) : (k.flatMap f).isEmpty = k.isEmpty := by
  cases k with
  | nil => rfl
  | cons a k =>
    obtain ⟨b, t, hb⟩ := List.exists_cons_of_ne_nil (h a List.mem_cons_self).ne_nil
    rw [List.flatMap_cons, hb]
    rfl

theorem all_isBlank_flatMap (h : ∀ a ∈ k, Puts A B f a) : (k.flatMap f).all B.isBlank = k.all A.isBlank := by
  induction k with
  | nil => rfl
  | cons a k ih =>
    obtain ⟨ha, hk⟩ := List.forall_mem_cons.mp h
    rw [List.flatMap_cons, List.all_append, ih hk, List.all_cons]
    refine congrArg (· && k.all A.isBlank) ?_
    cases hblank : A.isBlank a with
    | true =>
      obtain ⟨b, hb, hbblank⟩ := ha.blank hblank
      simp [hb, hbblank]
    | false =>
      obtain ⟨b, t, hb⟩ := List.exists_cons_of_ne_nil ha.ne_nil
      have hbink := ha.inked hblank b (by simp [hb])
      simp [hb, hbink]

theorem startsOutside_flatMap (h : ∀ a ∈ k, Puts A B f a) (hk : StartsOutside A.isBlank k) :
    StartsOutside B.isBlank (k.flatMap f) := by
  intro b hb
  rw [head?_flatMap h] at hb
  obtain ⟨a, ha, hb⟩ := Option.bind_eq_some_iff.mp hb
  exact (h a (List.mem_of_mem_head? ha)).inked (hk a ha) b (List.mem_of_mem_head? hb)

theorem length_flatMap_of_blank (h : ∀ a ∈ r, Puts A B f a) (hr : ∀ a ∈ r, A.isBlank a = true) :
    (r.flatMap f).length = r.length := by
  induction r with
  | nil => rfl
  | cons a r ih =>
    obtain ⟨ha, hp⟩ := List.forall_mem_cons.mp h
    obtain ⟨hblank, hr⟩ := List.forall_mem_cons.mp hr
    obtain ⟨b, hb, -⟩ := ha.blank hblank
    rw [List.flatMap_cons, hb, List.singleton_append, List.length_cons, ih hp hr, List.length_cons]

theorem squeeze_flatMap (hblank : f A.blank = [B.blank]) (h : ∀ a ∈ r, Puts A B f a) (hr : ∀ a ∈ r, A.isBlank a = true) :
    B.squeeze (r.flatMap f) = (A.squeeze r).flatMap f := by
  unfold squeeze
  rw [length_flatMap_of_blank h hr]
  split
  · rw [List.flatMap_singleton, hblank]
  · rfl

theorem collapse_flatMap (hblank : f A.blank = [B.blank]) (h : ∀ a ∈ k, Puts A B f a) :
    B.collapse (k.flatMap f) = (A.collapse k).flatMap f := by
  induction k using cluster_induction A.isBlank with
  | nil => rfl
  | single a k ha ih =>
    obtain ⟨hp, hk⟩ := List.forall_mem_cons.mp h
    rw [List.flatMap_cons, B.collapse_append_of_neg (hp.inked ha), ih hk, A.collapse_cons_of_neg ha, List.flatMap_cons]
  | run r k hne hr hk ih =>
    obtain ⟨hpr, hpk⟩ := List.forall_mem_append.mp h
    have hblanks : ∀ b ∈ r.flatMap f, B.isBlank b = true := by
      refine List.all_eq_true.mp ((all_isBlank_flatMap hpr).trans (List.all_eq_true.mpr hr))
    have hsome : r.flatMap f ≠ [] := fun hnil => by
      have hlength := length_flatMap_of_blank hpr hr
      rw [hnil] at hlength
      exact hne (List.eq_nil_of_length_eq_zero hlength.symm)
    rw [List.flatMap_append, B.collapse_run_append hsome hblanks (startsOutside_flatMap hpk hk), ih hpk,
      squeeze_flatMap hblank hpr hr, A.collapse_run_append hne hr hk, List.flatMap_append]

/-! ### Lines and stretches -/

theorem splitOnP_flatMap (h : ∀ a ∈ k, Puts A B f a) :
    (k.flatMap f).splitOnP B.isLineBreak = (k.splitOnP A.isLineBreak).map (List.flatMap f) := by
  have hpiece : ∀ {l : List α}, (∀ a ∈ l, Puts A B f a) → (∀ a ∈ l, A.isLineBreak a = false) →
      ∀ b ∈ l.flatMap f, B.isLineBreak b = false := by
    intro l hp hl b hb
    obtain ⟨a, ha, hb⟩ := List.mem_flatMap.mp hb
    exact (hp a ha).goesOn (hl a ha) b hb
  induction k using piece_induction A.isLineBreak with
  | piece l hl => rw [List.splitOnP_eq_singleton (hpiece h hl), List.splitOnP_eq_singleton hl, List.map_singleton]
  | cut l a s hl ha ih =>
    obtain ⟨hpl, hps⟩ := List.forall_mem_append.mp h
    obtain ⟨hpa, hps⟩ := List.forall_mem_cons.mp hps
    obtain ⟨b, hb, hbreak⟩ := hpa.ends ha
    rw [List.flatMap_append, List.flatMap_cons, hb, List.singleton_append,
      List.splitOnP_append_cons_of_forall_mem (hpiece hpl hl) b hbreak, ih hps,
      List.splitOnP_append_cons_of_forall_mem hl a ha, List.map_cons]

theorem lines_flatMap (h : ∀ a ∈ k, Puts A B f a) : B.lines (k.flatMap f) = (A.lines k).map (List.flatMap f) := by
  rw [lines, splitOnP_flatMap h, List.filter_map, lines]
  refine congrArg (List.map (List.flatMap f)) (List.filter_congr fun l hl => ?_)
  exact congrArg (!·) (isEmpty_flatMap fun a ha => h a ((infix_of_mem_splitOnP hl).subset ha))

theorem join_flatMap {ls : List (List α)} (h : ∀ l ∈ ls, ∀ a ∈ l, Puts A B f a) :
    B.join (ls.map (List.flatMap f)) = (A.join ls).expand f := by
  match ls, h with
  | [], _ => rfl
  | [l], h =>
    rw [List.map_singleton, join, join, isDirective_flatMap (h l List.mem_cons_self)]
    split <;> rfl
  | l :: l' :: ls, _ =>
    change Stretch.code ((l :: l' :: ls).map (List.flatMap f)).flatten = .code ((l :: l' :: ls).flatten.flatMap f)
    rw [List.flatMap_def (l := (l :: l' :: ls).flatten), List.map_flatten, List.flatten_flatten, List.map_map]
    rfl

theorem stretches_flatMap (h : ∀ a ∈ k, Puts A B f a) : B.stretches (k.flatMap f) = (A.stretches k).map (Stretch.expand f) := by
  have hlines : ∀ l ∈ A.lines k, ∀ a ∈ l, Puts A B f a := fun l hl a ha => h a ((A.infix_of_mem_lines hl).subset ha)
  have hclusters : clusters (fun l => !B.isDirective l) ((A.lines k).map (List.flatMap f)) =
      (clusters (fun l => !A.isDirective l) (A.lines k)).map (List.map (List.flatMap f)) := by
    rw [clusters_map]
    refine congrArg (List.map (List.map (List.flatMap f))) (clusters_congr fun l hl => ?_)
    rw [isDirective_flatMap (hlines l hl)]
  change (clusters (fun l => !B.isDirective l) (B.lines (k.flatMap f))).map B.join =
    ((clusters (fun l => !A.isDirective l) (A.lines k)).map A.join).map (Stretch.expand f)
  rw [lines_flatMap h, hclusters, List.map_map, List.map_map]
  exact List.map_congr_left fun ls hls => join_flatMap fun l hl => hlines l ((infix_of_mem_clusters hls).subset hl)

theorem render_flatMap (hblank : f A.blank = [B.blank]) (hnewline : f A.newline = [B.newline]) {xs : List (Stretch α)}
    (h : ∀ x ∈ xs, ∀ a ∈ x.text, Puts A B f a) : B.render (xs.map (Stretch.expand f)) = (A.render xs).flatMap f := by
  induction xs with
  | nil => rfl
  | cons x xs ih =>
    obtain ⟨hx, hxs⟩ := List.forall_mem_cons.mp h
    have hrest := ih hxs
    cases x with
    | directive line =>
      have hcollapse : B.collapse (line.flatMap f) = (A.collapse line).flatMap f := collapse_flatMap hblank hx
      rw [List.map_cons, Stretch.expand, render, render, hrest, hcollapse, List.flatMap_append, List.flatMap_cons, hnewline,
        List.singleton_append]
    | code joined =>
      have hcollapse : B.collapse (joined.flatMap f) = (A.collapse joined).flatMap f := collapse_flatMap hblank hx
      have hall : (joined.flatMap f).all B.isBlank = joined.all A.isBlank := all_isBlank_flatMap hx
      cases xs with
      | nil =>
        rw [List.map_singleton, Stretch.expand, render, render, hall, hcollapse]
        split <;> rfl
      | cons y ys =>
        rw [List.map_cons, Stretch.expand, List.map_cons, render, render, ← List.map_cons, hrest, hall, hcollapse,
          List.flatMap_append]
        · split
          · rfl
          · rw [List.flatMap_append, List.flatMap_singleton, hnewline]
        · exact fun h => by cases h
        · exact fun h => by cases h

/-- Letters that compaction takes for the same can be put in before it or after it. -/
theorem compact_flatMap (hblank : f A.blank = [B.blank]) (hnewline : f A.newline = [B.newline]) (h : ∀ a ∈ k, Puts A B f a) :
    B.compact (k.flatMap f) = (A.compact k).flatMap f := by
  rw [compact, stretches_flatMap h, render_flatMap hblank hnewline, compact]
  exact fun x hx a ha => h a (A.mem_of_mem_stretches hx a ha)

end
end Alphabet
end Compaction

/-! ### Skeletons -/

namespace Token

def isBlank : Token → Bool
  | .char c => Cloak.isBlank c
  | .ref _ _ => false

def isLineBreak : Token → Bool
  | .char c => Cloak.isLineBreak c
  | .ref _ _ => false

/-- The alphabet of skeletons: characters are what they are, and references are neither white space nor the end of a line. -/
def alphabet : Compaction.Alphabet Token := ⟨isBlank, isLineBreak, .char '#', .char ' ', .char '\n'⟩

end Token

namespace Skeleton

/-- The compact form of a skeleton. -/
def compact (k : Skeleton) : Skeleton := Token.alphabet.compact k

theorem not_isLineBreak_of_isHexDigit {c : Char} (h : isHexDigit c = true) : isLineBreak c = false :=
  forall_hexDigit (P := fun c => isLineBreak c = false) (forall_of_all (by decide)) h

section
variable {m : Mappings} {k : Skeleton}

/-- A character is put for itself, and a name is a word that does not begin like a directive. -/
theorem puts_spell (hn : Named m k) : ∀ t ∈ k, Token.alphabet.Puts Compaction.characters (Token.spell m) t := by
  intro t ht
  cases t with
  | char c =>
    refine ⟨List.cons_ne_nil c [], fun h => ⟨c, rfl, h⟩, fun h => List.forall_mem_singleton.mpr h, fun h => ⟨c, rfl, h⟩,
      fun h => List.forall_mem_singleton.mpr h, ?_⟩
    change (some c == some '#') = (Token.char c == Token.char '#')
    by_cases h : c = '#' <;> simp [h]
  | ref category symbol =>
    obtain ⟨name, hfind, hform⟩ := hn category symbol ht
    obtain ⟨c, rest, rfl, hc, -⟩ := exists_cons_of_isOpaqueName hform
    have hhex := (isOpaqueName_iff.mp hform).2.1
    have hspell : Token.spell m (.ref category symbol) = c :: rest := by rw [Token.spell, hfind, Option.getD_some]
    refine ⟨?_, fun h => absurd h Bool.false_ne_true, fun _ => ?_, fun h => absurd h Bool.false_ne_true, fun _ => ?_, ?_⟩
    · rw [hspell]
      exact List.cons_ne_nil c rest
    · rw [hspell]
      exact fun d hd => not_isBlank_of_isHexDigit (hhex d hd)
    · rw [hspell]
      exact fun d hd => not_isLineBreak_of_isHexDigit (hhex d hd)
    · have hne : c ≠ '#' := forall_hexDigit (P := fun c => c ≠ '#') (forall_of_all (by decide)) hc
      rw [hspell]
      change (some c == some '#') = (Token.ref category symbol == Token.char '#')
      simp [hne]

/-- Compacting a spelled skeleton spells out the compact skeleton. -/
theorem compact_spell (hn : Named m k) : Compaction.compact (spell m k) = spell m (compact k) :=
  Compaction.Alphabet.compact_flatMap rfl rfl (puts_spell hn)

theorem mem_of_ref_mem_compact {category : Category} {symbol : Text} (h : Token.ref category symbol ∈ compact k) :
    Token.ref category symbol ∈ k := by
  rcases Token.alphabet.mem_compact h with h | h | h
  · exact h
  · cases h
  · cases h

end
end Skeleton
end Cloak
