import Cloak.Harvest.Declaration

/-! Variable names of a source text: the name of each declaration, and before it the further names of a
    declaration that a comma continues. -/

namespace Cloak

/-- The text is an identifier of the C language. -/
def isIdentifier : Text → Bool
  | [] => false
  | c :: s => isIdentStart c && s.all isIdentChar

/-- A declarator: a plain name, or a piece of text that is not one. -/
inductive Declarator where
  | plain (name : Text)
  | irregular (piece : Text)
  deriving DecidableEq, Repr

namespace Declarator

/-- The name of a plain declarator. -/
def name? : Declarator → Option Text
  | .plain name => some name
  | .irregular _ => none

/-- The text of a declarator that is no plain name. -/
def irregular? : Declarator → Option Text
  | .plain _ => none
  | .irregular piece => some piece

/-- A trimmed piece without its initialiser and stars. -/
def bare (piece : Text) : Text :=
  Text.trim ((Text.trim (piece.takeWhile (· ≠ '='))).dropWhile (· = '*'))

/-- Reads a trimmed piece. -/
def ofPiece (piece : Text) : Declarator :=
  let name := bare piece
  if isIdentifier name then .plain name else .irregular piece

/-- Reads a piece. A blank one is no declarator. -/
def ofPiece? (piece : Text) : Option Declarator :=
  let trimmed := Text.trim piece
  if trimmed.isEmpty then none else some (ofPiece trimmed)

end Declarator

/-- Reads on after the declarators `done` and the characters `piece` of the next one (both in reverse). -/
def trailingFrom (done : List Declarator) (piece : Text) : Text → List Declarator
  | [] => ((Declarator.ofPiece? piece.reverse).toList ++ done).reverse
  | c :: s =>
    if c = ';' then ((Declarator.ofPiece? piece.reverse).toList ++ done).reverse
    else if c = ',' then trailingFrom ((Declarator.ofPiece? piece.reverse).toList ++ done) [] s
    else trailingFrom done (c :: piece) s

/-- The declarators of a list from its first comma to the end of the statement. Empty pieces are none. -/
def trailingDeclarators (s : Text) : List Declarator := trailingFrom [] [] s

theorem reverse_toList_eq_filterMap (piece : Text) :
    (Declarator.ofPiece? piece).toList.reverse = [piece].filterMap Declarator.ofPiece? := by
  cases h : Declarator.ofPiece? piece <;> simp [h]

theorem trailingFrom_eq (done : List Declarator) (piece s : Text) :
    trailingFrom done piece s =
      done.reverse ++ ((Text.statement s).splitOnPPrepend (· == ',') piece).filterMap Declarator.ofPiece? := by
  induction s generalizing done piece with
  | nil => simp [trailingFrom, Text.statement, reverse_toList_eq_filterMap]
  | cons c s ih =>
    unfold trailingFrom
    split
    · next h => simp [h, Text.statement, reverse_toList_eq_filterMap]
    · next h =>
      have hs : Text.statement (c :: s) = c :: Text.statement s := by simp [Text.statement, h]
      rw [hs, List.splitOnPPrepend]
      split
      · next hc =>
        rw [ih, if_pos (by simp [hc]), List.reverse_append, reverse_toList_eq_filterMap, List.append_assoc,
          ← List.filterMap_append]
        rfl
      · next hc => rw [ih, if_neg (by simp [hc])]

/-- The declarators are those of the pieces between commas. -/
theorem trailingDeclarators_eq (s : Text) :
    trailingDeclarators s = ((Text.statement s).splitOn ',').filterMap Declarator.ofPiece? :=
  trailingFrom_eq [] [] s

/-- The declarators of one declaration: those after a comma come first. -/
def Declaration.declarators (d : Declaration) : List Declarator :=
  (if d.closer = ',' then trailingDeclarators (',' :: d.rest) else []) ++ [.plain d.name]

/-- All declarators of a text, in the order found. -/
def declarators (s : Text) : List Declarator := (declarations s).flatMap Declaration.declarators

/-- The names of one declaration. -/
def Declaration.names (d : Declaration) : List Text := d.declarators.filterMap Declarator.name?

/-- The variable names of a text, in the order found, repeats included. -/
def variableNames (s : Text) : List Text := (declarations s).flatMap Declaration.names

end Cloak
