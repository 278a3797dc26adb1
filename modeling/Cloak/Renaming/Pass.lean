import Cloak.Renaming.Guard
import Cloak.Renaming.Search
import Cloak.Symbol.Mappings
import Cloak.Text.Utf8

/-! Renaming passes. Each category has its own rule for which occurrences count and which aliases are put in
    front of the text; a pass takes the symbols of a table in order, each over the text left by the one
    before. -/

namespace Cloak

/-- A text after renaming, and how many occurrences were replaced. -/
structure Pass where
  text : Text
  replaced : Nat
  deriving DecidableEq, Repr

namespace Search

/-- What becomes of a piece: a character outside the occurrences and a refused occurrence stay, an admitted one is
    replaced. -/
inductive Part where
  | char (c : Char)
  | kept
  | replaced
  deriving DecidableEq, Repr

/-- The part that a piece makes under a guard. -/
def Piece.judge (g : Guard) : Piece → Part
  | .char c => .char c
  | .hit rest => if g.admits rest then .replaced else .kept

/-- What a part reads after `name` is put for `symbol`. -/
def Part.spell (symbol name : Text) : Part → Text
  | .char c => [c]
  | .kept => symbol
  | .replaced => name

/-- The parts of a text. -/
def parts (q : Search) (g : Guard) (s : Text) : List Part := (q.pieces s).map (Piece.judge g)

/-- The character before a place: `last`, unless the text begins there. -/
def neighbour : (atStart : Bool) → (last : Char) → Option Char
  | true, _ => none
  | false, last => some last

/-- Replaces on after `done` (in reverse) with `count` occurrences replaced, while the guard's answer on the next `ahead`
    texts is known to be `verdict`. The character before is `last`, unless the text begins here. -/
def replaceFrom (q : Search) (name : Text) (g : Guard) (verdict : Bool) (ahead : Nat) (done : Text) (count : Nat)
    (atStart : Bool) (last : Char) : Text → Pass
  | [] =>
    match q.at? (neighbour atStart last) [] with
    | none => ⟨done.reverse, count⟩
    | some _ =>
      if g.admits [] then ⟨(name.reverseAux done).reverse, count + 1⟩
      else ⟨(q.symbol.reverseAux done).reverse, count⟩
  | c :: s =>
    if q.mayStart c then
      match h : q.at? (neighbour atStart last) (c :: s) with
      | none => replaceFrom q name g verdict (ahead - 1) (c :: done) count false c s
      | some rest =>
        let known := g.consult verdict ahead q.symbol.length rest
        let done := (if known.1 then name else q.symbol).reverseAux done
        let count := if known.1 then count + 1 else count
        if hq : q.symbol = [] then replaceFrom q name g known.1 (known.2 - 1) (c :: done) count false c s
        else
          have := q.length_lt_of_at? hq h
          replaceFrom q name g known.1 known.2 done count false (q.symbol.getLast hq) rest
    else replaceFrom q name g verdict (ahead - 1) (c :: done) count false c s
termination_by s => s.length
decreasing_by
  · exact Nat.lt_succ_self _
  · exact Nat.lt_succ_self _
  · exact this
  · exact Nat.lt_succ_self _

/-- Puts `name` for every occurrence that the guard admits. -/
def replace (q : Search) (name : Text) (g : Guard) (s : Text) : Pass := q.replaceFrom name g false 0 [] 0 true ' ' s

theorem replaceFrom_eq (q : Search) (name : Text) (g : Guard) (verdict : Bool) (ahead : Nat) (done : Text) (count : Nat)
    (atStart : Bool) (last : Char) (s : Text) (hk : g.Knows verdict ahead s) :
    q.replaceFrom name g verdict ahead done count atStart last s =
      ⟨done.reverse ++ ((q.piecesFrom [] (neighbour atStart last) s).map (Piece.judge g)).flatMap
          (Part.spell q.symbol name),
        count + ((q.piecesFrom [] (neighbour atStart last) s).map (Piece.judge g)).count .replaced⟩ := by
  fun_induction replaceFrom q name g verdict ahead done count atStart last s with
  | case1 verdict ahead done count atStart last h => simp [piecesFrom, h]
  | case2 verdict ahead done count atStart last rest h ha =>
    simp [piecesFrom, h, ha, Piece.judge, Part.spell, List.reverseAux_eq]
  | case3 verdict ahead done count atStart last rest h ha =>
    simp [piecesFrom, h, ha, Piece.judge, Part.spell, List.reverseAux_eq]
  | case4 verdict ahead done count atStart last c s _ h ih =>
    rw [ih hk.tail, piecesFrom_cons_none [] h, piecesFrom_eq_append q [.char c]]
    simp [Piece.judge, Part.spell, neighbour]
  | case5 verdict ahead done count atStart last c s _ rest h known done' count' hq ih =>
    have hs := q.spells h
    have hr := Guard.consult_fst (hs ▸ hk)
    have hrest : g.Knows known.1 known.2 rest := Guard.knows_consult (hs ▸ hk)
    have hcs : rest = c :: s := by rw [hs, hq, List.nil_append]
    rw [ih (hcs ▸ hrest).tail, piecesFrom_cons_empty [] h hq, piecesFrom_eq_append q [.char c, .hit rest]]
    cases ha : g.admits rest with
    | true =>
      simp [Piece.judge, Part.spell, List.reverseAux_eq, done', count', known, hr, ha, neighbour]
      omega
    | false => simp [Piece.judge, Part.spell, List.reverseAux_eq, done', count', known, hr, ha, neighbour]
  | case6 verdict ahead done count atStart last c s _ rest h known done' count' hq _ ih =>
    have hs := q.spells h
    have hr := Guard.consult_fst (hs ▸ hk)
    have hl : q.symbol.getLast? = some (q.symbol.getLast hq) := List.getLast?_eq_some_getLast hq
    rw [ih (Guard.knows_consult (hs ▸ hk)), piecesFrom_cons_some [] h hq, piecesFrom_eq_append q [.hit rest], hl]
    cases ha : g.admits rest with
    | true =>
      simp [Piece.judge, Part.spell, List.reverseAux_eq, done', count', known, hr, ha, neighbour]
      omega
    | false => simp [Piece.judge, Part.spell, List.reverseAux_eq, done', count', known, hr, ha, neighbour]
  | case7 verdict ahead done count atStart last c s hm ih =>
    have h : q.at? (neighbour atStart last) (c :: s) = none :=
      q.at?_eq_none_of_mayStart (Bool.eq_false_iff.mpr hm)
    rw [ih hk.tail, piecesFrom_cons_none [] h, piecesFrom_eq_append q [.char c]]
    simp [Piece.judge, Part.spell, neighbour]

/-- Replacing spells the parts of the text one after the other. -/
theorem replace_eq (q : Search) (name : Text) (g : Guard) (s : Text) :
    q.replace name g s = ⟨(q.parts g s).flatMap (Part.spell q.symbol name), (q.parts g s).count .replaced⟩ := by
  simp [replace, replaceFrom_eq q name g false 0 [] 0 true ' ' s (g.knows_zero false s), parts, pieces, neighbour]

end Search

/-- Puts `name` for every whole word `symbol` that the guard admits. A symbol that is too long to be looked for stays. -/
def replaceWord (symbol name : Text) (g : Guard) (s : Text) : Pass :=
  if Search.longestWord < Utf8.size symbol then ⟨s, 0⟩ else (Search.word symbol).replace name g s

namespace Pass

/-- Renames the symbols of a table one after the other. -/
def overTable (step : (symbol name : Text) → Text → Pass) (t : SymbolTable) (s : Text) : Pass :=
  t.entries.foldl
    (fun p e =>
      let q := step e.1 e.2 p.text
      ⟨q.text, p.replaced + q.replaced⟩)
    ⟨s, 0⟩

end Pass

/-- The line that lets `name` stand for `symbol`. -/
def aliasLine (symbol name : Text) : Text := "#define ".toList ++ name ++ [' '] ++ symbol ++ ['\n']

/-- Replaces whole words that no string contains up to `marker`. -/
def replaceGuarded (marker symbol name s : Text) : Pass :=
  replaceWord symbol name (Guard.unquoted marker) s

/-- Renames variables: whole words, unless `")` comes before the next `;`. -/
def renameVariables (t : SymbolTable) (s : Text) : Pass := Pass.overTable (replaceGuarded ['"', ')']) t s

/-- Renames macros: all whole words. -/
def renameMacros (t : SymbolTable) (s : Text) : Pass :=
  Pass.overTable (fun symbol name => replaceWord symbol name Guard.always) t s

/-- Renames one keyword: whole words, unless `"` comes before the next `;`. Its alias goes in front even if
    nothing was replaced. -/
def renameKeyword (keyword name s : Text) : Pass :=
  let p := replaceGuarded ['"'] keyword name s
  ⟨aliasLine keyword name ++ p.text, p.replaced⟩

/-- Renames keywords. -/
def renameKeywords (t : SymbolTable) (s : Text) : Pass := Pass.overTable renameKeyword t s

/-- What follows is what follows the name of a function in use. -/
def isCallFollower (rest : Text) : Bool := rest.head? == some '(' || rest.head? == some ' '

/-- Renames one function: every place where its name stands, even inside a word, before `(` or a blank. -/
def renameFunction (symbol name s : Text) : Pass := (Search.plain symbol).replace name (Guard.ofTest isCallFollower) s

/-- Renames the functions of the source itself. -/
def renameLocalFunctions (t : SymbolTable) (s : Text) : Pass := Pass.overTable renameFunction t s

/-- A pass over library functions: the text, the count, and the aliases of the functions replaced so far. -/
structure LibraryPass where
  pass : Pass
  aliases : List Text

/-- Renames one library function and notes its alias if it was replaced and is not noted yet. -/
def LibraryPass.step (l : LibraryPass) (e : Text × Text) : LibraryPass :=
  let p := renameFunction e.1 e.2 l.pass.text
  let line := aliasLine e.1 e.2
  ⟨⟨p.text, l.pass.replaced + p.replaced⟩,
    if 0 < p.replaced ∧ line ∉ l.aliases then l.aliases ++ [line] else l.aliases⟩

/-- Renames library functions. The aliases go in front, the last on top. -/
def renameLibraryFunctions (t : SymbolTable) (s : Text) : Pass :=
  let l := t.entries.foldl LibraryPass.step ⟨⟨s, 0⟩, []⟩
  ⟨l.aliases.reverse.flatten ++ l.pass.text, l.pass.replaced⟩

/-- Renames the symbols of one category. -/
def rename : Category → SymbolTable → Text → Pass
  | .varName => renameVariables
  | .macroName => renameMacros
  | .keyword => renameKeywords
  | .localFunction => renameLocalFunctions
  | .libraryFunction => renameLibraryFunctions

/-- A text after all passes, with the occurrences replaced in each category. -/
structure Substitution where
  text : Text
  replaced : Category → Nat

/-- Renames the symbols of all categories, each over the text left by the one before. -/
def substitute (m : Mappings) (s : Text) : Substitution :=
  let vars := renameVariables m.vars s
  let macros := renameMacros m.macros vars.text
  let keywords := renameKeywords m.keywords macros.text
  let locals := renameLocalFunctions m.localFunctions keywords.text
  let library := renameLibraryFunctions m.libraryFunctions locals.text
  { text := library.text
    replaced := fun
      | .varName => vars.replaced
      | .macroName => macros.replaced
      | .keyword => keywords.replaced
      | .localFunction => locals.replaced
      | .libraryFunction => library.replaced }

end Cloak
