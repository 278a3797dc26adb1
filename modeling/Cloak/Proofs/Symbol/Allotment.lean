import Cloak.Proofs.Symbol.Codebook
import Mathlib.Data.List.Infix

/-! Which name each symbol is given. Names are drawn in one sequence for all categories; a table keeps a symbol at the place
    where it came first, and with the name that was drawn for it last. Taking a symbol out is the same as never having drawn
    for it. -/

namespace Cloak

/-! ### Lists -/

theorem eraseDups_concat (l : List Text) (a : Text) :
    (l ++ [a]).eraseDups = if a ∈ l then l.eraseDups else l.eraseDups ++ [a] := by
  rw [List.eraseDups_append]
  split
  · next h => simp [List.removeAll, h]
  · next h => simp [List.removeAll, h, List.eraseDups_cons]

theorem filter_eraseDups (p : Text → Bool) (l : List Text) : l.eraseDups.filter p = (l.filter p).eraseDups := by
  induction l using List.reverseRecOn with
  | nil => rfl
  | append_singleton l a ih =>
    rw [eraseDups_concat, List.filter_append]
    by_cases hp : p a = true
    · rw [List.filter_cons_of_pos hp, List.filter_nil, eraseDups_concat, ← ih]
      by_cases ha : a ∈ l
      · rw [if_pos ha, if_pos (List.mem_filter.mpr ⟨ha, hp⟩)]
      · rw [if_neg ha, if_neg fun h => ha (List.mem_filter.mp h).1, List.filter_append, List.filter_cons_of_pos hp,
          List.filter_nil]
    · rw [List.filter_cons_of_neg hp, List.filter_nil, List.append_nil, ← ih]
      split
      · rfl
      · rw [List.filter_append, List.filter_cons_of_neg hp, List.filter_nil, List.append_nil]

theorem lookup_filter_ne (l : List (Text × Text)) (k x : Text) :
    (l.filter fun e => decide (e.1 ≠ k)).lookup x = if x = k then none else l.lookup x := by
  induction l with
  | nil => simp
  | cons e l ih =>
    obtain ⟨a, b⟩ := e
    by_cases ha : a = k
    · subst ha
      rw [List.filter_cons_of_neg (by simp), ih]
      split
      · rfl
      · next hx => rw [List.lookup_cons, beq_eq_false_iff_ne.mpr hx]
    · rw [List.filter_cons_of_pos (by simp [ha]), List.lookup_cons, List.lookup_cons, ih]
      by_cases hx : x = a
      · subst hx
        simp [ha]
      · rw [beq_eq_false_iff_ne.mpr hx]

theorem lookup_reverse_concat (l : List (Text × Text)) (k x v : Text) :
    (l ++ [(k, v)]).reverse.lookup x = if x = k then some v else l.reverse.lookup x := by
  rw [List.reverse_concat, List.lookup_cons]
  split
  · next h => rw [if_pos (beq_iff_eq.mp h)]
  · next h => rw [if_neg (beq_eq_false_iff_ne.mp h)]

theorem exists_append_of_length {α : Type} {l : List α} {m n : Nat} (h : l.length = m + n) :
    ∃ a b, l = a ++ b ∧ a.length = m ∧ b.length = n := by
  refine ⟨l.take m, l.drop m, (List.take_append_drop m l).symm, ?_, ?_⟩
  · rw [List.length_take]
    omega
  · rw [List.length_drop]
    omega

theorem occursIn_iff {needle s : Text} : Text.occursIn needle s = true ↔ needle <:+: s := by
  induction s with
  | nil => simp [Text.occursIn]
  | cons c s ih => rw [Text.occursIn, Bool.or_eq_true, List.isPrefixOf_iff_prefix, ih, List.infix_cons_iff]

theorem occurringKeywords_eq (vocabulary : List Text) (s : Text) :
    occurringKeywords vocabulary s = vocabulary.filter fun k => k ≠ [] ∧ k <:+: s := by
  refine List.filter_congr fun k _ => ?_
  rw [Bool.eq_iff_iff, Bool.and_eq_true, occursIn_iff, decide_eq_true_eq]
  simp

/-! ### One table -/

namespace SymbolTable

/-- The table of symbols with the names drawn for them one after the other: each symbol once, in the order in which they came
    first, with the name it was given last. -/
structure Records (t : SymbolTable) (drawn : List (Text × Text)) : Prop where
  symbols : t.symbols = (drawn.map Prod.fst).eraseDups
  find : ∀ x, t.find? x = drawn.reverse.lookup x

theorem find?_upsert (symbol name x : Text) (es : List (Text × Text)) :
    ((upsert symbol name es).find? fun e => decide (e.1 = x)) =
      if symbol = x then some (symbol, name) else es.find? fun e => decide (e.1 = x) := by
  induction es with
  | nil => simp only [upsert, List.find?_cons, List.find?_nil]; split <;> simp_all
  | cons e es ih =>
    unfold upsert
    split
    · next h =>
      rw [List.find?_cons, List.find?_cons, h]
      by_cases hx : symbol = x
      · simp [hx]
      · simp [hx]
    · next h =>
      rw [List.find?_cons, List.find?_cons, ih]
      by_cases hx : e.1 = x
      · have hs : symbol ≠ x := fun hs => h (hx.trans hs.symm)
        simp [hx, hs]
      · simp [hx]

theorem find?_insert (t : SymbolTable) (symbol name x : Text) :
    (t.insert symbol name).find? x = if x = symbol then some name else t.find? x := by
  rw [find?, insert, find?_upsert]
  by_cases hx : x = symbol
  · rw [if_pos hx.symm, if_pos hx, Option.map_some]
  · rw [if_neg (Ne.symm hx), if_neg hx, find?]

theorem find?_erase (t : SymbolTable) (symbol x : Text) :
    (t.erase symbol).find? x = if x = symbol then none else t.find? x := by
  rw [find?, erase, List.find?_filter]
  split
  · next hx =>
    rw [List.find?_eq_none.mpr fun e _ => by simp [hx], Option.map_none]
  · next hx =>
    rw [find?]
    congr 2
    funext e
    by_cases he : e.1 = x
    · simp [he, hx]
    · simp [he]

variable {t : SymbolTable} {drawn : List (Text × Text)}

theorem records_empty : empty.Records [] := ⟨rfl, fun _ => rfl⟩

theorem Records.insert (h : t.Records drawn) (symbol name : Text) :
    (t.insert symbol name).Records (drawn ++ [(symbol, name)]) where
  symbols := by
    have hmem : symbol ∈ t.symbols ↔ symbol ∈ drawn.map Prod.fst := by rw [h.symbols, List.mem_eraseDups]
    rw [symbols_insert, note, List.map_append, List.map_singleton, eraseDups_concat, ← h.symbols]
    simp only [List.contains_iff_mem, hmem]
  find x := by rw [find?_insert, lookup_reverse_concat, h.find]

theorem Records.erase (h : t.Records drawn) (symbol : Text) :
    (t.erase symbol).Records (drawn.filter fun e => e.1 ≠ symbol) where
  symbols := by
    rw [symbols_erase, h.symbols, filter_eraseDups, List.filter_map]
    rfl
  find x := by rw [find?_erase, ← List.filter_reverse, lookup_filter_ne, h.find]

/-- A symbol recorded at the end has the name recorded there. -/
theorem Records.find?_last {symbol name : Text} (h : t.Records (drawn ++ [(symbol, name)])) :
    t.find? symbol = some name := by
  rw [h.find, lookup_reverse_concat, if_pos rfl]

end SymbolTable

/-! ### All tables -/

/-- What was drawn for one category, in order. -/
def drawnFor (c : Category) (ds : List (Demand × Text)) : List (Text × Text) :=
  ds.filterMap fun d => if d.1.1 = c then some (d.1.2, d.2) else none

theorem drawnFor_append (c : Category) (ds es : List (Demand × Text)) :
    drawnFor c (ds ++ es) = drawnFor c ds ++ drawnFor c es :=
  List.filterMap_append

theorem drawnFor_zip_map (c d : Category) (symbols names : List Text) :
    drawnFor c ((symbols.map (d, ·)).zip names) = if d = c then symbols.zip names else [] := by
  rw [List.zip_map_left, drawnFor, List.filterMap_map]
  split
  · next h => simp [h]
  · next h => simp [h]

theorem Mappings.records_meet {m : Mappings} {c : Category} {drawn : List (Text × Text)} (h : (m.table c).Records drawn)
    (ds : List (Demand × Text)) : ((m.meet ds).table c).Records (drawn ++ drawnFor c ds) := by
  induction ds generalizing m drawn with
  | nil =>
    rw [drawnFor, List.filterMap_nil, List.append_nil]
    exact h
  | cons d ds ih =>
    have hstep : ((m.insert d.1.1 d.1.2 d.2).table c).Records (drawn ++ drawnFor c [d]) := by
      rw [table_insert]
      by_cases hc : c = d.1.1
      · subst hc
        simpa [drawnFor] using h.insert d.1.2 d.2
      · simpa [drawnFor, hc, Ne.symm hc] using h
    have hall := ih hstep
    rw [List.append_assoc, ← drawnFor_append, List.singleton_append] at hall
    exact hall

theorem records_meet_empty (ds : List (Demand × Text)) (c : Category) :
    ((({} : Mappings).meet ds).table c).Records (drawnFor c ds) := by
  have hempty : (({} : Mappings).table c).Records [] := by cases c <;> exact SymbolTable.records_empty
  exact Mappings.records_meet hempty ds

theorem records_codebook {c : Category} (hc : c ≠ .localFunction) (ds : List Demand) (names : List Text) :
    ((codebook ds names).table c).Records (drawnFor c (ds.zip names)) := by
  rw [table_codebook, if_neg hc]
  exact records_meet_empty _ c

/-- The entry point is as if it had never been drawn for as a local function. -/
theorem records_codebook_locals (ds : List Demand) (names : List Text) :
    (codebook ds names).localFunctions.Records
      ((drawnFor .localFunction (ds.zip names)).filter fun e => e.1 ≠ entryPoint) :=
  (records_meet_empty (ds.zip names) .localFunction).erase entryPoint

/-! ### The sequence of draws -/

/-- A code book whose names were drawn for variables, for keywords, for macros, for the functions of a listing and last for the
    entry point. -/
structure Mappings.Allots (m : Mappings) (vars keywords macros : List (Text × Text)) (functions : List (Demand × Text))
    (last : Text) : Prop where
  vars : m.vars.Records vars
  keywords : m.keywords.Records keywords
  macros : m.macros.Records macros
  locals : m.localFunctions.Records ((drawnFor .localFunction functions).filter fun e => e.1 ≠ entryPoint)
  library : m.libraryFunctions.Records (drawnFor .libraryFunction functions ++ [(entryPoint, last)])
  entry : m.libraryFunctions.find? entryPoint = some last

theorem drawnFor_functions {signatures : List Signature} {path : Path} {fs : List Text} {c : Category}
    (hl : c ≠ .localFunction) (hr : c ≠ .libraryFunction) :
    drawnFor c ((signatures.filterMap (Signature.demand? path)).zip fs) = [] := by
  refine List.filterMap_eq_nil_iff.mpr fun d hd => if_neg ?_
  obtain ⟨s, -, hs⟩ := List.mem_filterMap.mp (List.of_mem_zip hd).1
  obtain ⟨f, -, hf⟩ := Option.map_eq_some_iff.mp hs
  rw [← hf]
  rintro rfl
  unfold Signature.category at hl hr
  split at hl
  · exact hl rfl
  · next h => exact hr (if_neg h)

section
variable {vocabulary : List Text} {source : Text} {signatures : List Signature} {path : Path} {vs ks ds fs : List Text}

theorem drawnFor_demands (hv : vs.length = (variableNames source).length)
    (hk : ks.length = (occurringKeywords vocabulary source).length) (hd : ds.length = (definedNames source).length)
    (hf : fs.length = (signatures.filterMap (Signature.demand? path)).length) (last : Text) (c : Category) :
    drawnFor c ((demands vocabulary source signatures path).zip (vs ++ ks ++ ds ++ fs ++ [last])) =
      (if .varName = c then (variableNames source).zip vs else []) ++
        (if .keyword = c then (occurringKeywords vocabulary source).zip ks else []) ++
        (if .macroName = c then (definedNames source).zip ds else []) ++
        drawnFor c ((signatures.filterMap (Signature.demand? path)).zip fs) ++
        (if .libraryFunction = c then [(entryPoint, last)] else []) := by
  rw [demands, sourceDemands, List.zip_append (by simp [hv, hk, hd, hf]), List.zip_append (by simp [hv, hk, hd]),
    List.zip_append (by simp [hv, hk]), List.zip_append (by simp [hv])]
  simp only [drawnFor_append, drawnFor_zip_map]
  congr 1
  exact drawnFor_zip_map c .libraryFunction [entryPoint] [last]

theorem allots_codebook (hv : vs.length = (variableNames source).length)
    (hk : ks.length = (occurringKeywords vocabulary source).length) (hd : ds.length = (definedNames source).length)
    (hf : fs.length = (signatures.filterMap (Signature.demand? path)).length) (last : Text) :
    (codebook (demands vocabulary source signatures path) (vs ++ ks ++ ds ++ fs ++ [last])).Allots
      ((variableNames source).zip vs) ((occurringKeywords vocabulary source).zip ks) ((definedNames source).zip ds)
      ((signatures.filterMap (Signature.demand? path)).zip fs) last := by
  have hdrawn : ∀ c, drawnFor c ((demands vocabulary source signatures path).zip (vs ++ ks ++ ds ++ fs ++ [last])) = _ :=
    drawnFor_demands hv hk hd hf last
  have hrec : ∀ c ≠ Category.localFunction, _ := fun c hc =>
    hdrawn c ▸ records_codebook hc (demands vocabulary source signatures path) (vs ++ ks ++ ds ++ fs ++ [last])
  have hlocals := records_codebook_locals (demands vocabulary source signatures path) (vs ++ ks ++ ds ++ fs ++ [last])
  have hlibrary := hrec .libraryFunction (by decide)
  refine ⟨?_, ?_, ?_, ?_, hlibrary, hlibrary.find?_last⟩
  · simpa [drawnFor_functions, Mappings.table] using hrec .varName (by decide)
  · simpa [drawnFor_functions, Mappings.table] using hrec .keyword (by decide)
  · simpa [drawnFor_functions, Mappings.table] using hrec .macroName (by decide)
  · rw [hdrawn .localFunction] at hlocals
    simpa using hlocals

end

/-! ### The names of a run -/

section
variable {σ : Type} [WordSource σ]

theorem obfuscate_apply (e : Engine) (source : Text) (signatures : List Signature) (path : Path) (r : Registry σ) :
    e.obfuscate source signatures path r =
      (drawNames (demands e.keywords source signatures path).length r).map fun p =>
        (e.render (codebook (demands e.keywords source signatures path) p.1) source, p.2) := by
  rw [obfuscate_eq]
  simp only [Functor.map, StateT.map, bind]
  cases drawNames (demands e.keywords source signatures path).length r <;> rfl

/-- An obfuscation draws one name for each variable found, each vocabulary word that occurs, each macro found and each function
    listed, in this order, and one more for the entry point. Each table records its own part of the sequence. -/
theorem obfuscate_allots_names (e : Engine) (source : Text) (signatures : List Signature) (path : Path) (r : Registry σ) :
    let keywords := e.keywords.filter fun k => k ≠ [] ∧ k <:+: source
    let functions := signatures.filterMap (Signature.demand? path)
    let total := (variableNames source).length + keywords.length + (definedNames source).length + functions.length + 1
    (drawNames total r = none → e.obfuscate source signatures path r = none) ∧
      ∀ names r', drawNames total r = some (names, r') →
        ∃ o vs ks ds fs last, e.obfuscate source signatures path r = some (o, r') ∧ names = vs ++ ks ++ ds ++ fs ++ [last] ∧
          vs.length = (variableNames source).length ∧ ks.length = keywords.length ∧
          ds.length = (definedNames source).length ∧ fs.length = functions.length ∧
          o.mappings.Allots ((variableNames source).zip vs) (keywords.zip ks) ((definedNames source).zip ds)
            (functions.zip fs) last := by
  intro keywords functions total
  have hkeywords : occurringKeywords e.keywords source = keywords := occurringKeywords_eq e.keywords source
  have htotal : (demands e.keywords source signatures path).length = total := by
    simp only [demands, sourceDemands, List.length_append, List.length_map, List.length_singleton, hkeywords]
    rfl
  have hrun := obfuscate_apply e source signatures path r
  rw [htotal] at hrun
  refine ⟨fun hnone => by rw [hrun, hnone, Option.map_none], fun names r' hdraw => ?_⟩
  obtain ⟨front, back, rfl, hfront, hback⟩ := exists_append_of_length (length_of_drawNames hdraw)
  obtain ⟨last, rfl⟩ := List.length_eq_one_iff.mp hback
  obtain ⟨front, fs, rfl, hfront, hf⟩ := exists_append_of_length hfront
  obtain ⟨front, ds, rfl, hfront, hd⟩ := exists_append_of_length hfront
  obtain ⟨vs, ks, rfl, hv, hk⟩ := exists_append_of_length hfront
  rw [hdraw, Option.map_some] at hrun
  refine ⟨_, vs, ks, ds, fs, last, hrun, rfl, hv, hk, hd, hf, ?_⟩
  rw [← hkeywords] at hk ⊢
  exact allots_codebook hv hk hd hf last

end

/-- A variable declared twice, whose name is that of a macro and of a local function too. -/
def repeatedSource : Text := "int x;int x;\n#define x 1\n".toList

/-- The entry point, and a function of that name. -/
def repeatedSignatures : List Signature :=
  [⟨"extern int main (void);".toList, ⟨[97]⟩⟩, ⟨"extern int x (void);".toList, ⟨[97]⟩⟩]

/-- The second of two names drawn for a variable counts, and for the entry point the last of all. -/
theorem obfuscate_allots_names_of_repeats :
    ∃ (names : List Text) (r : Registry WordStream) (o : Obfuscated),
      drawNames 7 (Registry.ofSource (⟨fun n => 0xa0 + n.toUInt32⟩ : WordStream)) = some (names, r) ∧
      ({} : Engine).obfuscate repeatedSource repeatedSignatures ⟨[97]⟩
        (Registry.ofSource ⟨fun n => 0xa0 + n.toUInt32⟩) = some (o, r) ∧
      o.mappings.vars.symbols = ["x".toList] ∧ o.mappings.vars.find? "x".toList = names[1]? ∧
      o.mappings.libraryFunctions.find? entryPoint = names.getLast? := by
  have hdraw : (drawNames 7 (Registry.ofSource (⟨fun n => 0xa0 + n.toUInt32⟩ : WordStream))).isSome = true := by
    decide +kernel
  have hvars : variableNames repeatedSource = ["x".toList, "x".toList] := by decide +kernel
  have htotal : (variableNames repeatedSource).length +
      (defaultKeywords.filter fun k => k ≠ [] ∧ k <:+: repeatedSource).length + (definedNames repeatedSource).length +
      (repeatedSignatures.filterMap (Signature.demand? ⟨[97]⟩)).length + 1 = 7 := by decide +kernel
  obtain ⟨⟨names, r⟩, hnames⟩ := Option.isSome_iff_exists.mp hdraw
  obtain ⟨o, vs, ks, ds, fs, last, hrun, rfl, hv, -, -, -, hallots⟩ :=
    (obfuscate_allots_names {} repeatedSource repeatedSignatures ⟨[97]⟩ _).2 names r (htotal ▸ hnames)
  rw [hvars] at hallots hv
  obtain ⟨a, b, rfl⟩ := List.length_eq_two.mp hv
  refine ⟨_, r, o, hnames, hrun, hallots.vars.symbols, ?_, ?_⟩
  · rw [hallots.vars.find]
    rfl
  · rw [hallots.entry, List.getLast?_concat]

end Cloak
