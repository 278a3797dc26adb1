import Cloak.Text.Basic
import Cloak.Text.Word

/-! Declaration-shaped text: one or more type words, then white space, at most two stars, a name and a closing
    character. Type words may be glued together, and of a chain of type words as many as possible belong to the
    type, so that the last word of `int int;` is the name. -/

namespace Cloak

/-- The words a declaration can start with. -/
def typeWords : List Text :=
  ["auto".toList, "const".toList, "unsigned".toList, "signed".toList, "register".toList, "volatile".toList,
    "static".toList, "void".toList, "short".toList, "long".toList, "char".toList, "int".toList, "float".toList,
    "double".toList, "_Bool".toList, "complex".toList]

/-- What follows the type word at the beginning of `s`, if there is one. -/
def typeWord? (s : Text) : Option Text := typeWords.findSome? (after? · s)

theorem typeWord?_eq_some {s r : Text} (h : typeWord? s = some r) : ∃ w ∈ typeWords, s = w ++ r := by
  obtain ⟨w, hw, hr⟩ := List.exists_of_findSome?_eq_some h
  exact ⟨w, hw, after?_eq_some_iff.mp hr⟩

theorem length_pos_of_mem_typeWords {w : Text} (h : w ∈ typeWords) : 0 < w.length := by
  have all : ∀ w ∈ typeWords, 0 < w.length := by decide
  exact all w h

theorem length_lt_of_typeWord? {s r : Text} (h : typeWord? s = some r) : r.length < s.length := by
  obtain ⟨w, hw, rfl⟩ := typeWord?_eq_some h
  have := length_pos_of_mem_typeWords hw
  simp only [List.length_append]
  omega

/-- What follows each word of the chain of type words at the beginning of `s`, white space between the words
    left out of the chain. -/
def typeWordEnds (s : Text) : List Text :=
  match h : typeWord? s with
  | none => []
  | some r =>
    have := Nat.lt_of_le_of_lt (Text.length_trimStart_le r) (length_lt_of_typeWord? h)
    r :: typeWordEnds (Text.trimStart r)
termination_by s.length
decreasing_by exact this

theorem length_lt_of_mem_typeWordEnds {s r : Text} (h : r ∈ typeWordEnds s) : r.length < s.length := by
  fun_induction typeWordEnds s with
  | case1 => simp at h
  | case2 s q hq _ ih =>
    have hlt := length_lt_of_typeWord? hq
    rcases List.mem_cons.mp h with rfl | h
    · exact hlt
    · have := ih h
      have := Text.length_trimStart_le q
      omega

/-- A declaration found in a text: its name, the character that closed it, and what follows. -/
structure Declaration where
  name : Text
  closer : Char
  rest : Text
  deriving DecidableEq, Repr

/-- The characters that close a declaration. -/
def closers : List Char := ['[', ';', ',', '=', ')']

/-- The text without its first stars, at most `n`. -/
def dropStars : (n : Nat) → Text → Text
  | n + 1, '*' :: s => dropStars n s
  | _, s => s

theorem length_dropStars_le (n : Nat) (s : Text) : (dropStars n s).length ≤ s.length := by
  fun_induction dropStars n s with
  | case1 n s ih => exact Nat.le_succ_of_le ih
  | case2 => exact Nat.le_refl _

/-- Reads the part of a declaration that follows its type words. -/
def declarator? (s : Text) : Option Declaration :=
  let body := Text.trimStart (dropStars 2 (Text.trimStart s))
  let name := body.takeWhile isIdentChar
  if s.head?.any isBlank && name.head?.any isIdentStart then
    match Text.trimStart (body.dropWhile isIdentChar) with
    | c :: rest => if c ∈ closers then some ⟨name, c, rest⟩ else none
    | [] => none
  else none

theorem length_lt_of_declarator? {s : Text} {d : Declaration} (h : declarator? s = some d) :
    d.rest.length < s.length := by
  simp only [declarator?] at h
  split at h
  · split at h
    · next c rest hc =>
      split at h
      · cases h
        have h₁ := Text.length_trimStart_le ((Text.trimStart (dropStars 2 (Text.trimStart s))).dropWhile isIdentChar)
        have h₂ := (List.dropWhile_sublist (l := Text.trimStart (dropStars 2 (Text.trimStart s))) isIdentChar).length_le
        have h₃ := Text.length_trimStart_le (dropStars 2 (Text.trimStart s))
        have h₄ := length_dropStars_le 2 (Text.trimStart s)
        have h₅ := Text.length_trimStart_le s
        rw [hc] at h₁
        simp only [List.length_cons] at h₁
        show rest.length < s.length
        omega
      · simp at h
    · simp at h
  · simp at h

/-- The declaration at the beginning of `s`: the longest chain of type words that leaves a declarator. -/
def declarationAt? (s : Text) : Option Declaration := (typeWordEnds s).reverse.findSome? declarator?

theorem length_lt_of_declarationAt? {s : Text} {d : Declaration} (h : declarationAt? s = some d) :
    d.rest.length < s.length := by
  obtain ⟨r, hr, hd⟩ := List.exists_of_findSome?_eq_some h
  exact Nat.lt_trans (length_lt_of_declarator? hd) (length_lt_of_mem_typeWordEnds (List.mem_reverse.mp hr))

/-- The declaration at the beginning of `s`, given whether a word character stands before it: no declaration
    starts inside a word. -/
def declarationAfter? (inWord : Bool) (s : Text) : Option Declaration :=
  if inWord then none else declarationAt? s

theorem length_lt_of_declarationAfter? {inWord : Bool} {s : Text} {d : Declaration}
    (h : declarationAfter? inWord s = some d) : d.rest.length < s.length := by
  unfold declarationAfter? at h
  split at h
  · simp at h
  · exact length_lt_of_declarationAt? h

/-- What follows the chain of type words at the beginning of `s`, given whether a word character stands before it. No
    shorter chain that starts inside leaves a declarator if this one leaves none. -/
def chainEnd? (inWord : Bool) (s : Text) : Option Text := if inWord then none else (typeWordEnds s).getLast?

theorem length_lt_of_chainEnd? {inWord : Bool} {s r : Text} (h : chainEnd? inWord s = some r) :
    r.length < s.length := by
  unfold chainEnd? at h
  split at h
  · simp at h
  · exact length_lt_of_mem_typeWordEnds (List.mem_of_getLast? h)

/-- Searches on after the declarations `found` (in reverse). No closing character is part of a word, and a type word
    ends with a word character. -/
def declarationsFrom (found : List Declaration) (inWord : Bool) : Text → List Declaration
  | [] => found.reverse
  | c :: s =>
    match h : declarationAfter? inWord (c :: s) with
    | some d =>
      have := length_lt_of_declarationAfter? h
      declarationsFrom (d :: found) false d.rest
    | none =>
      match h' : chainEnd? inWord (c :: s) with
      | some r =>
        have := length_lt_of_chainEnd? h'
        declarationsFrom found true r
      | none => declarationsFrom found (isWord c) s
termination_by s => s.length
decreasing_by
  · exact this
  · exact this
  · exact Nat.lt_succ_self _

/-- All declarations of a text, from the left, none overlapping another. -/
def declarations (s : Text) : List Declaration := declarationsFrom [] false s

end Cloak
