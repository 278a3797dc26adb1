import Cloak.Proofs.Harvest.Symbol
import Cloak.Proofs.Symbol.Codebook

/-! The code book of a run with the default keywords: its names are opaque and no two entries share one, and each of its
    symbols comes from the source, from the vocabulary or from a signature. -/

namespace Cloak

/-- Where a symbol of a category comes from. -/
inductive Provenance (source : Text) (signatures : List Signature) : Category → Text → Prop
  | varName {x : Text} (h : IsSymbolOf source x) : Provenance source signatures .varName x
  | macroName {x : Text} (h : IsSymbolOf source x) : Provenance source signatures .macroName x
  | keyword {x : Text} (h : x ∈ defaultKeywords) : Provenance source signatures .keyword x
  | localFunction {s : Signature} {f : Text} (hs : s ∈ signatures) (h : s.name? = some f) :
      Provenance source signatures .localFunction f
  | libraryFunction {s : Signature} {f : Text} (hs : s ∈ signatures) (h : s.name? = some f) :
      Provenance source signatures .libraryFunction f
  | entryPoint : Provenance source signatures .libraryFunction entryPoint

namespace Mappings

structure Regular (m : Mappings) (source : Text) (signatures : List Signature) : Prop where
  form : ∀ name ∈ m.names, isOpaqueName name = true
  distinct : ∀ {c d e f}, e ∈ (m.table c).entries → f ∈ (m.table d).entries → e.2 = f.2 → c = d ∧ e = f
  provenance : ∀ {c x}, x ∈ (m.table c).symbols → Provenance source signatures c x

end Mappings

section
variable {source : Text} {signatures : List Signature} {path : Path}

theorem provenance_of_mem_demands {c : Category} {x : Text} (h : (c, x) ∈ demands defaultKeywords source signatures path) :
    Provenance source signatures c x := by
  rcases mem_demands h with ⟨rfl, hx⟩ | ⟨rfl, hx⟩ | ⟨rfl, hx⟩ | ⟨s, hs, hx, rfl⟩ | ⟨rfl, rfl⟩
  · exact .varName (isSymbolOf_of_mem_variableNames hx)
  · exact .keyword (List.mem_filter.mp hx).1
  · exact .macroName (isSymbolOf_of_mem_definedNames hx)
  · unfold Signature.category
    split
    · exact .localFunction hs hx
    · exact .libraryFunction hs hx
  · exact .entryPoint

/-- A run renders with a regular code book. -/
theorem regular_of_obfuscate {σ : Type} [WordSource σ] {e : Engine} (he : e.keywords = defaultKeywords) {g : σ}
    {o : Obfuscated} {r : Registry σ} (h : e.obfuscate source signatures path (Registry.ofSource g) = some (o, r)) :
    o.mappings.Regular source signatures ∧ o = e.render o.mappings source := by
  obtain ⟨names, hd, rfl⟩ := obfuscate_eq_some h
  rw [he] at hd ⊢
  have hl := length_of_drawNames hd
  have hissued := issuesAll_of_drawNames hd
  refine ⟨⟨fun name hn => hissued.form name (mem_of_mem_codebook_names hn),
    fun hc hd h => eq_of_mem_codebook hl hissued.nodup hc hd h, fun hx => ?_⟩, rfl⟩
  exact provenance_of_mem_demands (mem_demands_of_mem_codebook hl hx)

end
end Cloak
