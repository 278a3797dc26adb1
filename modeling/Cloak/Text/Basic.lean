import Cloak.Text.Blank

/-! Texts as lists of characters: trimming, what follows a given beginning, and plain search. -/

namespace Cloak

/-- A text, as the list of its characters. -/
abbrev Text := List Char

/-- What is left of `s` after the beginning `lead`, if `s` begins so. -/
def after? (lead s : Text) : Option Text := lead.isPrefixOf? s

theorem after?_eq_some_iff {lead s rest : Text} : after? lead s = some rest ↔ s = lead ++ rest := by
  -- The core library says nothing about `isPrefixOf?`; each step is its equation for two lists that are not empty.
  induction lead generalizing s with
  | nil => exact ⟨Option.some.inj, congrArg some⟩
  | cons a lead ih =>
    cases s with
    | nil => exact ⟨fun h => (nomatch h), fun h => (nomatch h)⟩
    | cons b s =>
      show (if a == b then after? lead s else none) = some rest ↔ _
      by_cases h : a = b
      · simp [ih, h]
      · simp [h, Ne.symm h]

/-- The list without the elements at its end that satisfy `p`. -/
def dropEndWhile {α : Type} (p : α → Bool) (l : List α) : List α := (l.reverse.dropWhile p).reverse

namespace Text

/-- The text from its first character that is not white space. -/
def trimStart (s : Text) : Text := s.dropWhile isBlank

/-- The text up to its last character that is not white space. -/
def trimEnd (s : Text) : Text := dropEndWhile isBlank s

/-- The text without white space at its ends. -/
def trim (s : Text) : Text := trimEnd (trimStart s)

/-- Every character is white space. -/
def isBlankText (s : Text) : Bool := s.all isBlank

/-- `needle` stands somewhere in the text. -/
def occursIn (needle : Text) : Text → Bool
  | [] => needle.isEmpty
  | c :: s => needle.isPrefixOf (c :: s) || occursIn needle s

/-- The text up to the next `;`, or all of it. -/
def statement (s : Text) : Text := s.takeWhile (· ≠ ';')

theorem length_trimStart_le (s : Text) : (trimStart s).length ≤ s.length :=
  (List.dropWhile_sublist isBlank).length_le

end Text
end Cloak
