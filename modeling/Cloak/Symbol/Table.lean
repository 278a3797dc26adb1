import Cloak.Text.Basic

/-! Symbol tables: each symbol once, with its opaque name, in the order in which the symbols came first. -/

namespace Cloak

/-- A table from symbols to opaque names that keeps the order of insertion. -/
structure SymbolTable where
  entries : List (Text × Text)
  nodup : (entries.map Prod.fst).Nodup
  deriving DecidableEq

namespace SymbolTable

/-- The entries with `symbol` mapped to `name`: in its old place if it has one, else at the end. -/
def upsert (symbol name : Text) : List (Text × Text) → List (Text × Text)
  | [] => [(symbol, name)]
  | e :: es => if e.1 = symbol then (symbol, name) :: es else e :: upsert symbol name es

theorem map_fst_upsert (symbol name : Text) (es : List (Text × Text)) :
    (upsert symbol name es).map Prod.fst =
      if symbol ∈ es.map Prod.fst then es.map Prod.fst else es.map Prod.fst ++ [symbol] := by
  induction es with
  | nil => rfl
  | cons e es ih =>
    by_cases h : e.1 = symbol
    · simp [upsert, h]
    · have h' : ¬symbol = e.1 := fun hs => h hs.symm
      simp only [upsert, h, if_false, List.map_cons, ih, List.mem_cons, h', false_or]
      split <;> rfl

theorem nodup_upsert (symbol name : Text) {es : List (Text × Text)} (h : (es.map Prod.fst).Nodup) :
    ((upsert symbol name es).map Prod.fst).Nodup := by
  rw [map_fst_upsert]
  split
  · exact h
  · next hs =>
    rw [List.nodup_append]
    refine ⟨h, by simp, fun a ha b hb hab => hs ?_⟩
    rw [List.mem_singleton] at hb
    rwa [← hb, ← hab]

/-- The table without entries. -/
def empty : SymbolTable := ⟨[], List.nodup_nil⟩

instance : Inhabited SymbolTable := ⟨empty⟩

/-- Maps `symbol` to `name`. A symbol that the table has keeps its place. -/
def insert (t : SymbolTable) (symbol name : Text) : SymbolTable :=
  ⟨upsert symbol name t.entries, nodup_upsert symbol name t.nodup⟩

/-- Takes `symbol` out; the others keep their order. -/
def erase (t : SymbolTable) (symbol : Text) : SymbolTable :=
  ⟨t.entries.filter (·.1 ≠ symbol), t.nodup.sublist (List.filter_sublist.map Prod.fst)⟩

/-- The name of `symbol`. -/
def find? (t : SymbolTable) (symbol : Text) : Option Text :=
  (t.entries.find? (·.1 = symbol)).map Prod.snd

/-- The number of symbols. -/
def size (t : SymbolTable) : Nat := t.entries.length

/-- The symbols, in order. -/
def symbols (t : SymbolTable) : List Text := t.entries.map Prod.fst

/-- The opaque names, in the order of their symbols. -/
def names (t : SymbolTable) : List Text := t.entries.map Prod.snd

/-- The table of the given pairs, inserted from the left. -/
def ofList (pairs : List (Text × Text)) : SymbolTable := pairs.foldl (fun t e => t.insert e.1 e.2) empty

@[ext]
theorem ext {t u : SymbolTable} (h : t.entries = u.entries) : t = u := by
  cases t
  cases u
  cases h
  rfl

end SymbolTable
end Cloak
