import Cloak.Obfuscation
import Cloak.Proofs.Name.Drawing
import Mathlib.Control.Lawful

/-! The demand of an obfuscation: the symbols that are given names, each with its category, in the order in which the names
    are drawn. An obfuscation is drawing that many names and then a function of them: the code book is filled by inserting
    one demand after the other. -/

namespace Cloak

/-! ### Tables of mappings -/

namespace Mappings

theorem table_withTable (m : Mappings) (c d : Category) (t : SymbolTable) :
    (m.withTable c t).table d = if d = c then t else m.table d := by
  cases c <;> cases d <;> rfl

theorem table_insert (m : Mappings) (c d : Category) (symbol name : Text) :
    (m.insert c symbol name).table d = if d = c then (m.table c).insert symbol name else m.table d :=
  m.table_withTable c d _

theorem withTable_insert (m : Mappings) (c : Category) (t : SymbolTable) (symbol name : Text) :
    (m.withTable c t).insert c symbol name = m.withTable c (t.insert symbol name) := by
  cases c <;> rfl

end Mappings

/-! ### Demands -/

/-- A symbol that is to be given a name in a category. -/
abbrev Demand := Category × Text

/-- The category of a function by its origin. -/
def Signature.category (s : Signature) (path : Path) : Category :=
  if s.origin.isDeclaredIn path then .localFunction else .libraryFunction

/-- The demand of a signature, if it names a function. -/
def Signature.demand? (path : Path) (s : Signature) : Option Demand := s.name?.map fun name => (s.category path, name)

/-- The demands of a source text: variables, then keywords, then macros, repeats included. -/
def sourceDemands (vocabulary : List Text) (source : Text) : List Demand :=
  (variableNames source).map (Category.varName, ·) ++ (occurringKeywords vocabulary source).map (Category.keyword, ·) ++
    (definedNames source).map (Category.macroName, ·)

/-- The demands of an obfuscation. The last is the entry point's. -/
def demands (vocabulary : List Text) (source : Text) (signatures : List Signature) (path : Path) : List Demand :=
  sourceDemands vocabulary source ++ signatures.filterMap (Signature.demand? path) ++ [(.libraryFunction, entryPoint)]

theorem mem_demands {vocabulary : List Text} {source : Text} {signatures : List Signature} {path : Path} {c : Category}
    {x : Text} (h : (c, x) ∈ demands vocabulary source signatures path) :
    (c = .varName ∧ x ∈ variableNames source) ∨ (c = .keyword ∧ x ∈ occurringKeywords vocabulary source) ∨
      (c = .macroName ∧ x ∈ definedNames source) ∨ (∃ s ∈ signatures, s.name? = some x ∧ c = s.category path) ∨
      (c = .libraryFunction ∧ x = entryPoint) := by
  simp only [demands, sourceDemands, Signature.demand?, List.mem_append, List.mem_map, List.mem_filterMap,
    Option.map_eq_some_iff, List.mem_singleton, Prod.mk.injEq] at h
  rcases h with (((⟨y, hy, rfl, rfl⟩ | ⟨y, hy, rfl, rfl⟩) | ⟨y, hy, rfl, rfl⟩) | ⟨s, hs, y, hy, rfl, rfl⟩) | h
  · exact Or.inl ⟨rfl, hy⟩
  · exact Or.inr (Or.inl ⟨rfl, hy⟩)
  · exact Or.inr (Or.inr (Or.inl ⟨rfl, hy⟩))
  · exact Or.inr (Or.inr (Or.inr (Or.inl ⟨s, hs, hy, rfl⟩)))
  · exact Or.inr (Or.inr (Or.inr (Or.inr h)))

/-- Meets demands with names, from the left. -/
def Mappings.meet (m : Mappings) (ds : List (Demand × Text)) : Mappings :=
  ds.foldl (fun m d => m.insert d.1.1 d.1.2 d.2) m

/-- The code book of demands and names: the entry point is no local function. -/
def codebook (ds : List Demand) (names : List Text) : Mappings :=
  let m := ({} : Mappings).meet (ds.zip names)
  { m with localFunctions := m.localFunctions.erase entryPoint }

/-! ### Drawing for demands -/

section
variable {σ : Type} [WordSource σ]

/-- Draws a name for each demand and meets it. -/
def meetM (m : Mappings) (ds : List Demand) : Naming σ Mappings :=
  ds.foldlM (fun m d => do return m.insert d.1 d.2 (← freshName)) m

theorem meetM_cons (m : Mappings) (d : Demand) (ds : List Demand) :
    (meetM m (d :: ds) : Naming σ Mappings) = freshName >>= fun name => meetM (m.insert d.1 d.2 name) ds := by
  simp [meetM, List.foldlM_cons]

theorem meetM_append (m : Mappings) (ds es : List Demand) :
    (meetM m (ds ++ es) : Naming σ Mappings) = meetM m ds >>= fun m => meetM m es :=
  List.foldlM_append

theorem meetM_eq (m : Mappings) (ds : List Demand) :
    (meetM m ds : Naming σ Mappings) = (fun names => m.meet (ds.zip names)) <$> drawNames ds.length := by
  induction ds generalizing m with
  | nil => simp [meetM, drawNames, Mappings.meet]
  | cons d ds ih =>
    rw [meetM_cons, List.length_cons, drawNames, map_bind]
    refine bind_congr fun name => ?_
    rw [ih, map_bind, map_eq_pure_bind]
    refine bind_congr fun names => ?_
    rw [map_pure, List.zip_cons_cons, Mappings.meet, Mappings.meet, List.foldl_cons]

/-- Names for the symbols of one category, drawn in the mappings as a whole. -/
theorem meetM_map (m : Mappings) (c : Category) (t : SymbolTable) (symbols : List Text) :
    (meetM (m.withTable c t) (symbols.map (c, ·)) : Naming σ Mappings) =
      m.withTable c <$> symbols.foldlM (fun t s => do return t.insert s (← freshName)) t := by
  induction symbols generalizing t with
  | nil => simp [meetM]
  | cons s symbols ih =>
    rw [List.map_cons, meetM_cons, List.foldlM_cons, bind_assoc, map_bind]
    refine bind_congr fun name => ?_
    rw [Mappings.withTable_insert, ih, pure_bind]

theorem harvest_eq (vocabulary : List Text) (source : Text) :
    (harvest vocabulary source : Naming σ Mappings) = meetM {} (sourceDemands vocabulary source) := by
  rw [sourceDemands, meetM_append, meetM_append]
  change _ = (meetM (({} : Mappings).withTable .varName .empty) _ >>= _) >>= _
  rw [meetM_map, bind_map_left, bind_assoc]
  refine bind_congr fun vars => ?_
  change _ = meetM (({ vars } : Mappings).withTable .keyword .empty) _ >>= _
  rw [meetM_map, bind_map_left]
  refine bind_congr fun keywords => ?_
  change _ = meetM (({ vars, keywords } : Mappings).withTable .macroName .empty) _
  rw [meetM_map, map_eq_pure_bind]
  rfl

theorem foldlM_add_eq (m : Mappings) (signatures : List Signature) (path : Path) :
    (fun f : Functions => { m with localFunctions := f.locals, libraryFunctions := f.library }) <$>
        (signatures.foldlM (Functions.add path) ⟨m.localFunctions, m.libraryFunctions⟩ : Naming σ Functions) =
      meetM m (signatures.filterMap (Signature.demand? path)) := by
  induction signatures generalizing m with
  | nil => simp [meetM]
  | cons s signatures ih =>
    rw [List.foldlM_cons, map_bind]
    cases hn : s.name? with
    | none =>
      have hd : s.demand? path = none := by rw [Signature.demand?, hn, Option.map_none]
      have ha : (Functions.add path ⟨m.localFunctions, m.libraryFunctions⟩ s : Naming σ Functions) =
          pure ⟨m.localFunctions, m.libraryFunctions⟩ := by simp only [Functions.add, hn]
      rw [List.filterMap_cons_none hd, ha, pure_bind, ih]
    | some name =>
      have hd : s.demand? path = some (s.category path, name) := by rw [Signature.demand?, hn, Option.map_some]
      rw [List.filterMap_cons_some hd, meetM_cons]
      simp only [Functions.add, hn, bind_assoc]
      refine bind_congr fun opaqueName => ?_
      rw [← ih]
      by_cases ho : s.origin.isDeclaredIn path = true
      · simp only [ho, if_true, pure_bind, Signature.category, Mappings.insert, Mappings.withTable, Mappings.table]
      · simp only [ho, if_false, pure_bind, Signature.category, Mappings.insert, Mappings.withTable, Mappings.table,
          Bool.false_eq_true]

/-- An obfuscation draws one name for each demand; the rest is a function of the names. -/
theorem obfuscate_eq (e : Engine) (source : Text) (signatures : List Signature) (path : Path) :
    (e.obfuscate source signatures path : Naming σ Obfuscated) =
      (fun names => e.render (codebook (demands e.keywords source signatures path) names) source) <$>
        drawNames (demands e.keywords source signatures path).length := by
  have hall : (e.obfuscate source signatures path : Naming σ Obfuscated) =
      (fun m : Mappings => e.render { m with localFunctions := m.localFunctions.erase entryPoint } source) <$>
        meetM {} (demands e.keywords source signatures path) := by
    rw [demands, List.append_assoc, meetM_append, ← harvest_eq, Engine.obfuscate, map_bind]
    simp only [harvest, bind_assoc, pure_bind]
    refine bind_congr fun vars => bind_congr fun keywords => bind_congr fun macros => ?_
    rw [meetM_append, ← foldlM_add_eq, bind_map_left, map_bind, classify, bind_assoc]
    refine bind_congr fun f => ?_
    rw [meetM_cons, map_bind, bind_assoc]
    exact bind_congr fun name => by simp only [pure_bind, meetM, List.foldlM_nil, map_pure]; rfl
  rw [hall, meetM_eq, Functor.map_map]
  rfl

end
end Cloak
