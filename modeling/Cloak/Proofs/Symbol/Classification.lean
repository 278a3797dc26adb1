import Cloak.Proofs.Symbol.Allotment

/-! Functions sorted by origin. Every function that a signature names stands in the table of its side, in the order in which the
    signatures of that side name them first. The entry point alone changes sides: whatever declares it, it is a library function
    and no local one. -/

namespace Cloak

/-! ### The order of first occurrences -/

theorem pairwise_idxOf_eraseDups (l : List Text) : l.eraseDups.Pairwise fun a b => l.idxOf a < l.idxOf b := by
  -- From the end, since `eraseDups` keeps first occurrences: what is appended comes after all the others or is dropped.
  induction l using List.reverseRecOn with
  | nil => simp
  | append_singleton l a ih =>
    have hold : l.eraseDups.Pairwise fun x y => (l ++ [a]).idxOf x < (l ++ [a]).idxOf y := by
      refine ih.imp_of_mem fun {x y} hx hy hlt => ?_
      rw [List.mem_eraseDups] at hx hy
      rwa [List.idxOf_append_of_mem hx, List.idxOf_append_of_mem hy]
    rw [eraseDups_concat]
    split
    · exact hold
    · next ha =>
      refine List.pairwise_append.mpr ⟨hold, List.pairwise_singleton _ _, fun x hx y hy => ?_⟩
      rw [List.mem_eraseDups] at hx
      rw [List.mem_singleton.mp hy, List.idxOf_append_of_mem hx, List.idxOf_append_of_notMem ha]
      have := List.idxOf_lt_length_of_mem hx
      omega

namespace SymbolTable

/-- The symbols of a table are those that occur, each once, in the order of their first occurrences. -/
structure ListsFirst (t : SymbolTable) (occurrences : List Text) : Prop where
  mem : ∀ x, x ∈ t.symbols ↔ x ∈ occurrences
  nodup : t.symbols.Nodup
  order : t.symbols.Pairwise fun a b => occurrences.idxOf a < occurrences.idxOf b

theorem listsFirst_of_symbols {t : SymbolTable} {occurrences : List Text} (h : t.symbols = occurrences.eraseDups) :
    t.ListsFirst occurrences where
  mem x := by rw [h, List.mem_eraseDups]
  nodup := t.nodup
  order := h ▸ pairwise_idxOf_eraseDups occurrences

end SymbolTable

/-! ### Names drawn for signatures -/

/-- The functions named by the signatures that satisfy `side`, in order. -/
def functionsOn (side : Signature → Bool) (signatures : List Signature) : List Text :=
  (signatures.filter side).filterMap Signature.name?

theorem map_fst_drawnFor {ds : List Demand} {names : List Text} (hl : names.length = ds.length) (c : Category) :
    (drawnFor c (ds.zip names)).map Prod.fst = (ds.filter fun d => d.1 = c).map Prod.snd := by
  induction ds generalizing names with
  | nil => simp [drawnFor]
  | cons d ds ih =>
    cases names with
    | nil => cases hl
    | cons name names =>
      have hrest := ih (Nat.succ.inj hl)
      by_cases hd : d.1 = c <;> simp_all [drawnFor]

/-- The demands of a listing and of the entry point. -/
def functionDemands (signatures : List Signature) (source : Path) : List Demand :=
  signatures.filterMap (Signature.demand? source) ++ [(.libraryFunction, entryPoint)]

theorem length_functionDemands (signatures : List Signature) (source : Path) :
    (functionDemands signatures source).length = (signatures.filterMap Signature.name?).length + 1 := by
  simp [functionDemands, Signature.demand?, List.length_filterMap_eq_countP]

section
variable {source : Path} {side : Signature → Bool} {c : Category} (hside : ∀ s, side s = decide (s.category source = c))
include hside

theorem map_snd_filterMap_demand? (signatures : List Signature) :
    ((signatures.filterMap (Signature.demand? source)).filter fun d => d.1 = c).map Prod.snd = functionsOn side signatures := by
  induction signatures with
  | nil => rfl
  | cons s signatures ih =>
    cases hn : s.name? <;> by_cases hc : s.category source = c <;> simp_all [functionsOn, Signature.demand?]

theorem map_fst_drawnFor_functions {signatures : List Signature} {names : List Text}
    (hl : names.length = (functionDemands signatures source).length) :
    (drawnFor c ((functionDemands signatures source).zip names)).map Prod.fst =
      functionsOn side signatures ++ if c = .libraryFunction then [entryPoint] else [] := by
  rw [map_fst_drawnFor hl, functionDemands, List.filter_append, List.map_append, map_snd_filterMap_demand? hside]
  by_cases hc : c = .libraryFunction
  · simp [hc]
  · simp [hc, Ne.symm hc]

end

/-! ### Classification -/

section
variable {σ : Type} [WordSource σ]

/-- A classification draws one name for each signature that names a function and one for the entry point; the rest is a function
    of the names. -/
theorem classify_eq (signatures : List Signature) (source : Path) :
    (classify signatures source : Naming σ Functions) =
      (fun names => (⟨(codebook (functionDemands signatures source) names).localFunctions,
          (codebook (functionDemands signatures source) names).libraryFunctions⟩ : Functions)) <$>
        drawNames (functionDemands signatures source).length := by
  have hall : (classify signatures source : Naming σ Functions) =
      (fun m : Mappings => ⟨m.localFunctions.erase entryPoint, m.libraryFunctions⟩) <$>
        meetM {} (functionDemands signatures source) := by
    -- The entry point is one more demand, met after those of the signatures.
    rw [functionDemands, meetM_append, ← foldlM_add_eq, bind_map_left, map_bind, classify]
    refine bind_congr fun f => ?_
    rw [meetM_cons, map_bind]
    exact bind_congr fun name => by simp only [meetM, List.foldlM_nil, map_pure]; rfl
  rw [hall, meetM_eq, Functor.map_map]
  rfl

theorem classify_apply (signatures : List Signature) (source : Path) (r : Registry σ) :
    classify signatures source r = (drawNames (functionDemands signatures source).length r).map fun p =>
      (⟨(codebook (functionDemands signatures source) p.1).localFunctions,
        (codebook (functionDemands signatures source) p.1).libraryFunctions⟩, p.2) := by
  rw [classify_eq]
  simp only [Functor.map, StateT.map, bind]
  cases drawNames (functionDemands signatures source).length r <;> rfl

/-- The functions of a listing, divided by whether their signatures stand in `source`. The entry point counts as declared last
    outside it. -/
structure Functions.Partitions (f : Functions) (signatures : List Signature) (source : Path) : Prop where
  locals : f.locals.ListsFirst ((functionsOn (·.origin.isDeclaredIn source) signatures).filter (· ≠ entryPoint))
  library : f.library.ListsFirst (functionsOn (!·.origin.isDeclaredIn source) signatures ++ [entryPoint])
  entry_last : entryPoint ∉ functionsOn (!·.origin.isDeclaredIn source) signatures →
    f.library.symbols.getLast? = some entryPoint
  entry_not_local : entryPoint ∉ f.locals.symbols
  entry_library : entryPoint ∈ f.library.symbols
  keeps : ∀ s ∈ signatures, ∀ name, s.name? = some name → name ∈ f.locals.symbols ∨ name ∈ f.library.symbols

theorem mem_functionsOn {side : Signature → Bool} {signatures : List Signature} {s : Signature} {name : Text}
    (hs : s ∈ signatures) (hside : side s = true) (hname : s.name? = some name) : name ∈ functionsOn side signatures :=
  List.mem_filterMap.mpr ⟨s, List.mem_filter.mpr ⟨hs, hside⟩, hname⟩

theorem partitions_of_symbols {f : Functions} {signatures : List Signature} {source : Path}
    (hlocals : f.locals.symbols = ((functionsOn (·.origin.isDeclaredIn source) signatures).filter (· ≠ entryPoint)).eraseDups)
    (hlibrary : f.library.symbols = (functionsOn (!·.origin.isDeclaredIn source) signatures ++ [entryPoint]).eraseDups) :
    f.Partitions signatures source := by
  have hl := SymbolTable.listsFirst_of_symbols hlocals
  have hr := SymbolTable.listsFirst_of_symbols hlibrary
  refine ⟨hl, hr, fun hnone => ?_, ?_, ?_, fun s hs name hname => ?_⟩
  · rw [hlibrary, eraseDups_concat, if_neg hnone, List.getLast?_concat]
  · simp [hl.mem]
  · simp [hr.mem]
  · rw [hl.mem, hr.mem]
    by_cases hentry : name = entryPoint
    · simp [hentry]
    cases hside : s.origin.isDeclaredIn source with
    | true => exact Or.inl (List.mem_filter.mpr ⟨mem_functionsOn hs hside hname, by simpa using hentry⟩)
    | false => exact Or.inr (List.mem_append_left _ (mem_functionsOn hs (by simp [hside]) hname))

/-- A classification returns once a name is drawn for each signature that names a function and for the entry point, and its tables
    then divide the functions by origin. -/
theorem classify_partitions (signatures : List Signature) (source : Path) (r : Registry σ) :
    (classify signatures source r).isSome =
        (drawNames ((signatures.filterMap Signature.name?).length + 1) r).isSome ∧
      ∀ f r', classify signatures source r = some (f, r') → f.Partitions signatures source := by
  rw [classify_apply, ← length_functionDemands signatures source]
  refine ⟨Option.isSome_map, fun f r' hrun => ?_⟩
  obtain ⟨⟨names, q⟩, hdraw, heq⟩ := Option.map_eq_some_iff.mp hrun
  simp only [Prod.mk.injEq] at heq
  obtain ⟨rfl, -⟩ := heq
  have hl := length_of_drawNames hdraw
  apply partitions_of_symbols
  · have hside : ∀ s : Signature, s.origin.isDeclaredIn source = decide (s.category source = .localFunction) := by
      intro s
      cases h : s.origin.isDeclaredIn source <;> simp [Signature.category, h]
    have hdrawn := map_fst_drawnFor_functions hside hl
    rw [if_neg (by decide), List.append_nil] at hdrawn
    rw [(records_codebook_locals _ names).symbols, ← hdrawn, List.filter_map]
    rfl
  · have hside : ∀ s : Signature, (!s.origin.isDeclaredIn source) = decide (s.category source = .libraryFunction) := by
      intro s
      cases h : s.origin.isDeclaredIn source <;> simp [Signature.category, h]
    have hdrawn := map_fst_drawnFor_functions hside hl
    rw [if_pos rfl] at hdrawn
    have hlibrary : Category.libraryFunction ≠ .localFunction := by decide
    rw [← hdrawn]
    exact (records_codebook hlibrary _ names).symbols

end

/-- A function declared twice in the source and once outside it, the entry point between them, and a declaration without a name. -/
def mixedSignatures : List Signature :=
  [⟨"extern int f (void);".toList, ⟨[97]⟩⟩, ⟨"extern int main (void);".toList, ⟨[97]⟩⟩,
    ⟨"extern int g (void);".toList, ⟨[98]⟩⟩, ⟨"int h (void);".toList, ⟨[97]⟩⟩, ⟨"extern int f (void);".toList, ⟨[98]⟩⟩,
    ⟨"extern int f (void);".toList, ⟨[97]⟩⟩]

theorem classify_partitions_mixed :
    ∃ (f : Functions) (r : Registry WordStream),
      classify mixedSignatures ⟨[97]⟩ (Registry.ofSource ⟨fun n => 0xa0 + n.toUInt32⟩) = some (f, r) ∧
        f.Partitions mixedSignatures ⟨[97]⟩ ∧ f.locals.symbols = ["f".toList] ∧
        f.library.symbols = ["g".toList, "f".toList, entryPoint] := by
  have hrun : ((classify mixedSignatures ⟨[97]⟩ (Registry.ofSource (⟨fun n => 0xa0 + n.toUInt32⟩ : WordStream))).map fun p =>
      (p.1.locals.symbols, p.1.library.symbols)) = some (["f".toList], ["g".toList, "f".toList, entryPoint]) := by decide +kernel
  obtain ⟨⟨f, r⟩, h, heq⟩ := Option.map_eq_some_iff.mp hrun
  simp only [Prod.mk.injEq] at heq
  exact ⟨f, r, h, (classify_partitions mixedSignatures ⟨[97]⟩ _).2 f r h, heq⟩

end Cloak
