import Cloak.Harvest.Definition
import Cloak.Proofs.Harvest.Declarator
import Cloak.Signature
import Mathlib.Data.List.TakeWhile

/-! The symbols of an obfuscation. Variables and macros are identifiers, and each stands in the source text; functions are
    tokens of their signatures, without white space. -/

namespace Cloak

/-- An identifier that stands in a text. -/
structure IsSymbolOf (source x : Text) : Prop where
  identifier : isIdentifier x = true
  stands : x <:+: source

/-! ### Variables -/

theorem isSymbolOf_of_mem_variableNames {source x : Text} (h : x ∈ variableNames source) : IsSymbolOf source x := by
  obtain ⟨d, hd, hnames⟩ := mem_variableNames_iff.mp h
  obtain ⟨a, b, hsource, -, -⟩ := endsDeclarator_of_names hd hnames
  exact ⟨isIdentifier_of_names hd hnames, a, b, by rw [hsource, List.append_assoc]⟩

/-! ### Macros -/

theorem suffix_of_afterDefine? {s r : Text} (h : afterDefine? s = some r) : r <:+ s := by
  fun_induction afterDefine? s with
  | case1 => cases h
  | case2 c s g rest ha hg =>
    cases h
    exact ⟨_, (after?_eq_some_iff.mp ha).symm⟩
  | case3 c s g rest ha hg ih => exact (ih h).trans (List.suffix_cons c s)
  | case4 c s ha ih => exact (ih h).trans (List.suffix_cons c s)

theorem isSymbolOf_of_mem_definedNames {source x : Text} (h : x ∈ definedNames source) : IsSymbolOf source x := by
  obtain ⟨line, hline, hx⟩ := List.mem_filterMap.mp h
  have hinfix : line <:+: source := infix_of_mem_splitOnP (List.mem_of_mem_drop hline)
  simp only [definedName?, Option.bind_eq_bind, Option.bind_eq_some_iff] at hx
  obtain ⟨rest, hrest, hx⟩ := hx
  split at hx
  · next hname =>
    cases hx
    refine ⟨isIdentifier_takeWhile hname, ?_⟩
    exact (List.takeWhile_prefix _).isInfix.trans
      ((List.dropWhile_suffix _).isInfix.trans ((suffix_of_afterDefine? hrest).isInfix.trans hinfix))
  · cases hx

/-! ### Functions -/

theorem isSolid_of_name? {s : Signature} {f : Text} (h : s.name? = some f) : IsSolid f := by
  simp only [Signature.name?, Signature.functionName?, Option.bind_eq_bind, Option.bind_eq_some_iff] at h
  obtain ⟨heading, -, token, htoken, h⟩ := h
  split at h
  · cases h
  · next hne =>
    cases h
    refine ⟨fun hnil => hne (List.isEmpty_iff.mpr hnil), fun c hc => ?_⟩
    have hmem := (List.mem_filter.mp (List.mem_of_getLast? htoken)).1
    exact not_of_mem_splitOnP hmem c ((List.dropWhile_suffix _).subset hc)

end Cloak
