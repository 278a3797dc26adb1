import Cloak.Proofs.Text.Trim
import Cloak.Proofs.Text.Words

/-! Chains of type words. No type word begins another, so the one that a text begins with is found whatever the order of the
    search, and the ends that are found one after the other are those of all chains that the text begins with. -/

namespace Cloak

theorem isIdentifier_of_mem_typeWords {w : Text} (h : w ∈ typeWords) : isIdentifier w = true := by
  have all : ∀ w ∈ typeWords, isIdentifier w = true := by decide
  exact all w h

theorem isWordText_of_mem_typeWords {w : Text} (h : w ∈ typeWords) : IsWordText w :=
  isWordText_of_isIdentifier (isIdentifier_of_mem_typeWords h)

theorem eq_of_isPrefix_of_mem_typeWords {v w : Text} (hv : v ∈ typeWords) (hw : w ∈ typeWords) (h : v <+: w) : v = w := by
  have all : ∀ v ∈ typeWords, ∀ w ∈ typeWords, v <+: w → v = w := by decide
  exact all v hv w hw h

theorem typeWord?_append {w : Text} (hw : w ∈ typeWords) (r : Text) : typeWord? (w ++ r) = some r := by
  cases h : typeWord? (w ++ r) with
  | none =>
    have hnone := List.findSome?_eq_none_iff.mp h w hw
    rw [after?_eq_some_iff.mpr rfl] at hnone
    cases hnone
  | some q =>
    -- No type word begins another, so the one that is found is `w`.
    obtain ⟨v, hv, hq⟩ := typeWord?_eq_some h
    have hvw : v = w := by
      rcases List.prefix_or_prefix_of_prefix ⟨q, hq.symm⟩ ⟨r, rfl⟩ with hpre | hpre
      · exact eq_of_isPrefix_of_mem_typeWords hv hw hpre
      · exact (eq_of_isPrefix_of_mem_typeWords hw hv hpre).symm
    subst hvw
    rw [List.append_cancel_left hq]

theorem typeWordEnds_append {w : Text} (hw : w ∈ typeWords) (r : Text) :
    typeWordEnds (w ++ r) = r :: typeWordEnds (Text.trimStart r) := by
  rw [typeWordEnds]
  split
  · next h => rw [typeWord?_append hw] at h; cases h
  · next q h =>
    rw [typeWord?_append hw] at h
    cases h
    rfl

/-- Type words one after the other, with or without white space between them. -/
inductive IsTypeChain : Text → Prop
  | word {w : Text} (hw : w ∈ typeWords) : IsTypeChain w
  | cons {w gap chain : Text} (hw : w ∈ typeWords) (hgap : ∀ c ∈ gap, isBlank c = true) (h : IsTypeChain chain) :
    IsTypeChain (w ++ (gap ++ chain))

namespace IsTypeChain
variable {chain other before tail : Text}

theorem startsOutside (h : IsTypeChain chain) (s : Text) : StartsOutside isBlank (chain ++ s) := by
  cases h with
  | word hw => exact (isWordText_of_mem_typeWords hw).isSolid.startsOutside s
  | cons hw _ _ =>
    rw [List.append_assoc]
    exact (isWordText_of_mem_typeWords hw).isSolid.startsOutside _

theorem exists_cons (h : IsTypeChain chain) : ∃ c rest, chain = c :: rest ∧ isIdentChar c = true := by
  have first : ∀ {w}, w ∈ typeWords → ∃ c rest, w = c :: rest ∧ isIdentChar c = true := fun {w} hw => by
    have hid := isIdentifier_of_mem_typeWords hw
    cases w with
    | nil => cases hid
    | cons c rest => exact ⟨c, rest, rfl, isIdentChar_of_isIdentStart (Bool.and_eq_true_iff.mp hid).1⟩
  cases h with
  | word hw => exact first hw
  | cons hw _ _ =>
    obtain ⟨c, rest, rfl, hc⟩ := first hw
    exact ⟨c, _, rfl, hc⟩

theorem mem_cases (h : IsTypeChain chain) {c : Char} (hc : c ∈ chain) : isBlank c = true ∨ isWord c = true := by
  induction h with
  | word hw => exact Or.inr ((isWordText_of_mem_typeWords hw).all c hc)
  | cons hw hgap _ ih =>
    rcases List.mem_append.mp hc with hc | hc
    · exact Or.inr ((isWordText_of_mem_typeWords hw).all c hc)
    · rcases List.mem_append.mp hc with hc | hc
      · exact Or.inl (hgap c hc)
      · exact ih hc

theorem endsWord (h : IsTypeChain chain) (b : Bool) : endsWord b chain = true := by
  induction h generalizing b with
  | word hw =>
    have hword := isWordText_of_mem_typeWords hw
    exact endsWord_of_forall hword.ne_nil hword.all
  | cons hw _ _ ih => rw [endsWord_append, endsWord_append, ih]

/-- A chain can be changed from the beginning of one of its words on, where that is the beginning of a word of the text. -/
theorem replace_end (h : IsTypeChain chain) (hsplit : chain = before ++ tail) (hne : before ≠ [])
    (hend : Cloak.endsWord false before = false) (hother : IsTypeChain other) : IsTypeChain (before ++ other) := by
  -- No beginning of a type word ends outside words.
  have inside : ∀ {w}, w ∈ typeWords → ∀ {p q}, w = p ++ q → p ≠ [] → Cloak.endsWord false p = true := by
    intro w hw p q hpq hp
    exact endsWord_of_forall hp fun c hc => (isWordText_of_mem_typeWords hw).all c (hpq ▸ List.mem_append_left q hc)
  induction h generalizing before with
  | word hw =>
    rw [inside hw hsplit hne] at hend
    cases hend
  | @cons w gap chain hw hgap hchain ih =>
    rcases List.append_eq_append_iff.mp hsplit with ⟨mid, rfl, hmid⟩ | ⟨mid, hw', -⟩
    · rw [List.append_assoc]
      rcases List.append_eq_append_iff.mp hmid with ⟨more, rfl, hmore⟩ | ⟨more, rfl, -⟩
      · rw [List.append_assoc]
        by_cases hnil : more = []
        · subst hnil
          exact .cons hw hgap hother
        · refine .cons hw hgap (ih hmore hnil ?_)
          rw [endsWord_append, endsWord_append, endsWord_eq _ hnil false] at hend
          exact hend
      · exact .cons hw (fun c hc => hgap c (List.mem_append_left more hc)) hother
    · rw [inside hw hw' hne] at hend
      cases hend

end IsTypeChain

theorem mem_typeWordEnds_iff {s r : Text} : r ∈ typeWordEnds s ↔ ∃ chain, IsTypeChain chain ∧ s = chain ++ r := by
  constructor
  · intro h
    fun_induction typeWordEnds s with
    | case1 => cases h
    | case2 s q hq _ ih =>
      obtain ⟨w, hw, rfl⟩ := typeWord?_eq_some hq
      rcases List.mem_cons.mp h with rfl | h
      · exact ⟨w, .word hw, rfl⟩
      · obtain ⟨gap, hgap, hblank⟩ := Text.exists_blanks_append q
        obtain ⟨chain, hchain, hrest⟩ := ih h
        refine ⟨_, .cons hw hblank hchain, ?_⟩
        rw [List.append_assoc, List.append_assoc, ← hrest, ← hgap]
  · rintro ⟨chain, hchain, rfl⟩
    induction hchain with
    | word hw =>
      rw [typeWordEnds_append hw]
      exact List.mem_cons_self
    | cons hw hgap hchain ih =>
      rw [List.append_assoc, typeWordEnds_append hw, List.append_assoc, Text.trimStart_append hgap,
        Text.trimStart_of_startsOutside (hchain.startsOutside r)]
      exact List.mem_cons_of_mem _ ih

theorem isTypeChain_iff {s : Text} : IsTypeChain s ↔ (typeWordEnds s).contains [] = true := by
  rw [List.contains_iff_mem, mem_typeWordEnds_iff]
  constructor
  · exact fun h => ⟨s, h, (List.append_nil s).symm⟩
  · rintro ⟨chain, hchain, rfl⟩
    rwa [List.append_nil]

instance : DecidablePred IsTypeChain := fun _ => decidable_of_iff _ isTypeChain_iff.symm

end Cloak
