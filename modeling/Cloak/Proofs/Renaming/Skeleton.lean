import Cloak.Proofs.Renaming.Alias
import Cloak.Proofs.Renaming.Call
import Cloak.Proofs.Renaming.Marker
import Cloak.Proofs.Symbol.Codebook

/-! Texts whose names are left open. A skeleton holds literal characters and references to symbols; mappings spell it out.
    Renaming spelled text comes to the same as renaming the skeleton and spelling the result, as long as no name can be
    mistaken for a symbol: a word pass compares whole words, and a call pass looks at the ends of words, where a reference
    stands whole. -/

namespace Cloak

/-! ### Skeletons -/

/-- A literal character, or a reference to the name of a symbol. -/
inductive Token where
  | char (c : Char)
  | ref (category : Category) (symbol : Text)
  deriving DecidableEq

/-- A text whose names are left open. -/
abbrev Skeleton := List Token

namespace Token

/-- The token is part of a word. -/
def isWord : Token → Bool
  | .char c => Cloak.isWord c
  | .ref _ _ => true

/-- What a token reads under mappings. -/
def spell (m : Mappings) : Token → Text
  | .char c => [c]
  | .ref category symbol => (m.find? category symbol).getD []

end Token

namespace Skeleton

/-- What a skeleton reads under mappings. -/
def spell (m : Mappings) (k : Skeleton) : Text := k.flatMap (Token.spell m)

/-- The skeleton of a text without references. -/
def ofText (s : Text) : Skeleton := s.map .char

/-- What a skeleton reads with a letter for each name. -/
def blind (k : Skeleton) : Text :=
  k.flatMap fun
    | .char c => [c]
    | .ref _ _ => ['a']

/-- Every reference has an opaque name. -/
def Named (m : Mappings) (k : Skeleton) : Prop :=
  ∀ category symbol, Token.ref category symbol ∈ k → ∃ name, m.find? category symbol = some name ∧ isOpaqueName name = true

section
variable {m : Mappings}

@[simp]
theorem spell_nil (m : Mappings) : spell m [] = [] := rfl

@[simp]
theorem spell_cons (m : Mappings) (t : Token) (k : Skeleton) : spell m (t :: k) = t.spell m ++ spell m k :=
  List.flatMap_cons

@[simp]
theorem spell_append (m : Mappings) (k l : Skeleton) : spell m (k ++ l) = spell m k ++ spell m l := List.flatMap_append

@[simp]
theorem spell_flatten (m : Mappings) (ks : List Skeleton) : spell m ks.flatten = (ks.map (spell m)).flatten := by
  induction ks with
  | nil => rfl
  | cons k ks ih => rw [List.flatten_cons, spell_append, ih, List.map_cons, List.flatten_cons]

@[simp]
theorem spell_ofText (m : Mappings) (s : Text) : spell m (ofText s) = s := by
  induction s with
  | nil => rfl
  | cons c s ih => rw [ofText, List.map_cons, spell_cons, ← ofText, ih]; rfl

theorem ofText_append (s t : Text) : ofText (s ++ t) = ofText s ++ ofText t := List.map_append

theorem Named.of_subset {k l : Skeleton} (h : Named m k) (hl : ∀ t ∈ l, t ∈ k) : Named m l :=
  fun category symbol hr => h category symbol (hl _ hr)

theorem Named.tail {t : Token} {k : Skeleton} (h : Named m (t :: k)) : Named m k :=
  h.of_subset fun _ => List.mem_cons_of_mem t

theorem spell_ref {category : Category} {symbol name : Text} (h : m.find? category symbol = some name) :
    spell m [.ref category symbol] = name := by
  rw [spell_cons, Token.spell, h, spell_nil, List.append_nil, Option.getD_some]

end
end Skeleton

namespace Skeleton
variable {m : Mappings}

/-- A named token spells at least one character, and word characters only if it is part of a word. -/
theorem isWord_of_mem_spell {t : Token} (hn : Named m [t]) (ht : t.isWord = true) : IsWordText (t.spell m) := by
  cases t with
  | char c => exact ⟨List.cons_ne_nil c [], fun d hd => List.mem_singleton.mp hd ▸ ht⟩
  | ref category symbol =>
    obtain ⟨name, hfind, hform⟩ := hn category symbol List.mem_cons_self
    rw [Token.spell, hfind, Option.getD_some]
    exact isWordText_of_isOpaqueName hform

theorem sameKind_spell {k c : Skeleton} (hn : Named m k) (hc : c ∈ clusters Token.isWord k) :
    SameKind Token.isWord isWord c (spell m c) := by
  have hin : ∀ t ∈ c, t ∈ k := (infix_of_mem_clusters hc).subset
  rcases mem_clusters_cases hc with hall | ⟨t, rfl, ht⟩
  · have hword : ∀ t ∈ c, IsWordText (t.spell m) := fun t ht =>
      isWord_of_mem_spell (hn.of_subset fun u hu => List.mem_singleton.mp hu ▸ hin t ht) (hall t ht)
    refine Or.inl ⟨hall, fun hnil => ?_, fun a ha => ?_⟩
    · obtain ⟨t, l, rfl⟩ := List.exists_cons_of_ne_nil (ne_nil_of_mem_clusters hc)
      exact (hword t List.mem_cons_self).ne_nil (List.append_eq_nil_iff.mp hnil).1
    · obtain ⟨t, ht, ha⟩ := List.mem_flatMap.mp ha
      exact (hword t ht).all a ha
  · cases t with
    | char a => exact Or.inr ⟨.char a, a, rfl, rfl, ht, ht⟩
    | ref category symbol => cases ht

/-- The words of a spelled skeleton are the spelled words of the skeleton. -/
theorem clusters_spell {k : Skeleton} (hn : Named m k) :
    clusters isWord (spell m k) = (clusters Token.isWord k).map (spell m) := by
  have h : List.Forall₂ (SameKind Token.isWord isWord) (clusters Token.isWord k) ((clusters Token.isWord k).map (spell m)) :=
    List.forall₂_map_right_iff.mpr (List.forall₂_same.mpr fun c hc => sameKind_spell hn hc)
  rw [← clusters_flatten_of_forall₂ h, ← spell_flatten, flatten_clusters]

/-! ### Guards -/

/-- Names are words, and so are the letters that stand for them. -/
theorem respells_spell {k : Skeleton} (hn : Named m k) : Respells (blind k) (spell m k) := by
  induction k with
  | nil => exact .nil
  | cons t k ih =>
    cases t with
    | char c =>
      cases hc : isWord c with
      | false => exact .char hc (ih hn.tail)
      | true =>
        have hword : IsWordText [c] := ⟨List.cons_ne_nil c [], List.forall_mem_singleton.mpr hc⟩
        exact .word hword hword (ih hn.tail)
    | ref category symbol =>
      obtain ⟨name, hfind, hform⟩ := hn category symbol List.mem_cons_self
      have hletter : IsWordText ['a'] := ⟨List.cons_ne_nil 'a' [], List.forall_mem_singleton.mpr rfl⟩
      rw [spell_cons, Token.spell, hfind, Option.getD_some]
      exact .word hletter (isWordText_of_isOpaqueName hform) (ih hn.tail)

theorem isUnquoted_spell {marker : Text} (hm : IsMarker marker) {k : Skeleton} (hn : Named m k) :
    isUnquoted marker (spell m k) = isUnquoted marker (blind k) :=
  ((respells_spell hn).isUnquoted hm).symm

theorem isCallFollower_spell {k : Skeleton} (hn : Named m k) : isCallFollower (spell m k) = isCallFollower (blind k) := by
  cases k with
  | nil => rfl
  | cons t k =>
    cases t with
    | char c => rfl
    | ref category symbol =>
      obtain ⟨name, hfind, hform⟩ := hn category symbol List.mem_cons_self
      obtain ⟨c, rest, rfl, hc, -⟩ := exists_cons_of_isOpaqueName hform
      have hne : ∀ d, isHexDigit d = true → d ≠ '(' ∧ d ≠ ' ' := fun d hd => ne_follower_of_isWord (isWord_of_isHexDigit hd)
      rw [spell_cons, Token.spell, hfind, Option.getD_some]
      change (some c == some '(' || some c == some ' ') = (some 'a' == some '(' || some 'a' == some ' ')
      simp [hne c hc]

end Skeleton
end Cloak
