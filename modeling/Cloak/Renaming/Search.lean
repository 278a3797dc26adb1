import Cloak.Text.Basic
import Cloak.Text.Word

/-! Occurrences of a symbol in a text. A search cuts the text into pieces: characters outside all occurrences,
    and occurrences, found from the left and none overlapping another. -/

namespace Cloak

/-- A way to look for a symbol: given the character before a position and the text from it on, what follows
    the symbol if it occurs there. -/
structure Search where
  symbol : Text
  at? : (before : Option Char) → Text → Option Text
  spells : ∀ {before s rest}, at? before s = some rest → s = symbol ++ rest

namespace Search

/-- The first characters agree, which is tested before all else. -/
def startsAlike : (symbol s : Text) → Bool
  | [], _ => true
  | _ :: _, [] => false
  | a :: _, c :: _ => a == c

/-- What follows `symbol` where it stands between two word boundaries. -/
def wordAt? (symbol : Text) (before : Option Char) (s : Text) : Option Text :=
  if startsAlike symbol s && isBoundary before s.head? then
    match after? symbol s with
    | none => none
    | some rest => if isBoundary (symbol.getLast?.or before) rest.head? then some rest else none
  else none

/-- Looks for `symbol` as a whole word. The empty symbol occurs at every word boundary. -/
def word (symbol : Text) : Search where
  symbol := symbol
  at? := wordAt? symbol
  spells := by
    intro before s rest h
    unfold wordAt? at h
    split at h
    · split at h
      · simp at h
      · next r hr =>
        split at h
        · cases h
          exact after?_eq_some_iff.mp hr
        · simp at h
    · simp at h

/-- The longest symbol, in bytes, that is looked for as a whole word. -/
def longestWord : Nat := 327671

/-- What follows `symbol`, wherever it stands. -/
def plainAt? (symbol s : Text) : Option Text := if symbol.isEmpty then none else after? symbol s

/-- Looks for `symbol` anywhere. The empty symbol never occurs. -/
def plain (symbol : Text) : Search where
  symbol := symbol
  at? _ s := plainAt? symbol s
  spells := by
    intro _ s rest h
    unfold plainAt? at h
    split at h
    · simp at h
    · exact after?_eq_some_iff.mp h

/-- A piece of a text: a character outside the occurrences, or an occurrence with all that follows it. -/
inductive Piece where
  | char (c : Char)
  | hit (rest : Text)
  deriving DecidableEq, Repr

/-- An occurrence can begin with `c`. -/
def mayStart (q : Search) (c : Char) : Bool :=
  match q.symbol with
  | [] => true
  | a :: _ => a == c

theorem mayStart_of_at? (q : Search) {before : Option Char} {c : Char} {s rest : Text}
    (h : q.at? before (c :: s) = some rest) : q.mayStart c = true := by
  have hs := q.spells h
  unfold mayStart
  split
  · rfl
  · next a lead hq =>
    rw [hq, List.cons_append, List.cons.injEq] at hs
    exact beq_iff_eq.mpr hs.1.symm

theorem at?_eq_none_of_mayStart (q : Search) {before : Option Char} {c : Char} {s : Text} (h : q.mayStart c = false) :
    q.at? before (c :: s) = none := by
  cases ha : q.at? before (c :: s) with
  | none => rfl
  | some rest => exact absurd (q.mayStart_of_at? ha) (by simp [h])

theorem length_lt_of_at? (q : Search) {before : Option Char} {s rest : Text} (hq : q.symbol ≠ [])
    (h : q.at? before s = some rest) : rest.length < s.length := by
  have hs := q.spells h
  have hp := List.length_pos_iff.mpr hq
  rw [hs, List.length_append]
  omega

/-- Cuts on after the pieces `cut` (in reverse). -/
def piecesFrom (q : Search) (cut : List Piece) (before : Option Char) : Text → List Piece
  | [] => (if (q.at? before []).isSome then .hit [] :: cut else cut).reverse
  | c :: s =>
    match h : q.at? before (c :: s) with
    | none => piecesFrom q (.char c :: cut) (some c) s
    | some rest =>
      if hq : q.symbol = [] then piecesFrom q (.char c :: .hit rest :: cut) (some c) s
      else
        have := q.length_lt_of_at? hq h
        piecesFrom q (.hit rest :: cut) q.symbol.getLast? rest
termination_by s => s.length
decreasing_by
  · exact Nat.lt_succ_self _
  · exact Nat.lt_succ_self _
  · exact this

theorem piecesFrom_nil (q : Search) (cut : List Piece) (before : Option Char) :
    q.piecesFrom cut before [] = cut.reverse ++ q.piecesFrom [] before [] := by
  rw [piecesFrom, piecesFrom]
  split <;> simp

theorem piecesFrom_cons_none {q : Search} {before : Option Char} {c : Char} {s : Text} (cut : List Piece)
    (h : q.at? before (c :: s) = none) : q.piecesFrom cut before (c :: s) = q.piecesFrom (.char c :: cut) (some c) s := by
  rw [piecesFrom]
  split
  · rfl
  · simp_all

theorem piecesFrom_cons_empty {q : Search} {before : Option Char} {c : Char} {s rest : Text} (cut : List Piece)
    (h : q.at? before (c :: s) = some rest) (hq : q.symbol = []) :
    q.piecesFrom cut before (c :: s) = q.piecesFrom (.char c :: .hit rest :: cut) (some c) s := by
  rw [piecesFrom]
  split
  · simp_all
  · simp_all

theorem piecesFrom_cons_some {q : Search} {before : Option Char} {c : Char} {s rest : Text} (cut : List Piece)
    (h : q.at? before (c :: s) = some rest) (hq : q.symbol ≠ []) :
    q.piecesFrom cut before (c :: s) = q.piecesFrom (.hit rest :: cut) q.symbol.getLast? rest := by
  rw [piecesFrom]
  split
  · simp_all
  · simp_all

theorem piecesFrom_eq_append (q : Search) (cut : List Piece) (before : Option Char) (s : Text) :
    q.piecesFrom cut before s = cut.reverse ++ q.piecesFrom [] before s := by
  induction hn : s.length using Nat.strongRecOn generalizing s cut before with
  | _ n ih =>
    cases s with
    | nil => exact q.piecesFrom_nil cut before
    | cons c s =>
      have hs : s.length < n := by simp only [← hn, List.length_cons]; omega
      cases h : q.at? before (c :: s) with
      | none =>
        rw [piecesFrom_cons_none cut h, piecesFrom_cons_none [] h, ih _ hs (.char c :: cut) (some c) s rfl,
          ih _ hs [.char c] (some c) s rfl]
        simp
      | some rest =>
        by_cases hq : q.symbol = []
        · rw [piecesFrom_cons_empty cut h hq, piecesFrom_cons_empty [] h hq,
            ih _ hs (.char c :: .hit rest :: cut) (some c) s rfl, ih _ hs [.char c, .hit rest] (some c) s rfl]
          simp
        · have hr : rest.length < n := hn ▸ q.length_lt_of_at? hq h
          rw [piecesFrom_cons_some cut h hq, piecesFrom_cons_some [] h hq,
            ih _ hr (.hit rest :: cut) q.symbol.getLast? rest rfl, ih _ hr [.hit rest] q.symbol.getLast? rest rfl]
          simp

/-- The pieces of a text. -/
def pieces (q : Search) (s : Text) : List Piece := q.piecesFrom [] none s

end Search
end Cloak
