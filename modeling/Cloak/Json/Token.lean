import Cloak.Text.Basic

/-! Tokens of JSON. Strings are read with all their escapes; an escape for half of a surrogate pair may stand
    alone in the text, but the string then has no value. -/

namespace Cloak.Json

/-- A token. A number is kept only if it is written as a natural number of moderate length, a string only if its
    halves pair up. -/
inductive Token where
  | openObject
  | closeObject
  | openArray
  | closeArray
  | colon
  | comma
  | null
  | bool (b : Bool)
  | number (natural : Option Nat)
  | string (text : Option Text)
  deriving DecidableEq, Repr

/-! ### Strings -/

/-- A unit of a string: a character, or an escaped half of a surrogate pair. -/
inductive Unit16 where
  | char (c : Char)
  | half (code : Nat)
  deriving DecidableEq, Repr

/-- The unit of an escaped code. -/
def Unit16.ofCode (code : Nat) : Unit16 :=
  if 0xD800 ≤ code ∧ code < 0xE000 then .half code else .char (Char.ofNat code)

/-- The value of a hexadecimal digit. -/
def hexValue? (c : Char) : Option Nat :=
  if c.isDigit then some (c.toNat - '0'.toNat)
  else if 'a' ≤ c ∧ c ≤ 'f' then some (c.toNat - 'a'.toNat + 10)
  else if 'A' ≤ c ∧ c ≤ 'F' then some (c.toNat - 'A'.toNat + 10)
  else none

/-- The code of four hexadecimal digits. -/
def code? (a b c d : Char) : Option Nat := do
  let a ← hexValue? a
  let b ← hexValue? b
  let c ← hexValue? c
  let d ← hexValue? d
  return ((a * 16 + b) * 16 + c) * 16 + d

/-- The character of a short escape. -/
def escaped? : Char → Option Char
  | '"' => some '"'
  | '\\' => some '\\'
  | '/' => some '/'
  | 'b' => some '\x08'
  | 'f' => some '\x0c'
  | 'n' => some '\n'
  | 'r' => some '\r'
  | 't' => some '\t'
  | _ => none

/-- Reads on to the closing quote after `read` (in reverse). Control characters must be escaped. -/
def readString (read : List Unit16) : Text → Option (List Unit16 × Text)
  | [] => none
  | '"' :: s => some (read.reverse, s)
  | '\\' :: 'u' :: a :: b :: c :: d :: s =>
    match code? a b c d with
    | none => none
    | some code => readString (.ofCode code :: read) s
  | '\\' :: c :: s =>
    match escaped? c with
    | none => none
    | some e => readString (.char e :: read) s
  | c :: s => if c.toNat < 0x20 then none else readString (.char c :: read) s

/-- The text of units after `read` (in reverse): a high half needs a low half right after it. -/
def joinHalves (read : Text) : List Unit16 → Option Text
  | [] => some read.reverse
  | .char c :: us => joinHalves (c :: read) us
  | .half hi :: .half lo :: us =>
    if hi < 0xDC00 ∧ 0xDC00 ≤ lo then
      joinHalves (Char.ofNat (0x10000 + (hi - 0xD800) * 0x400 + (lo - 0xDC00)) :: read) us
    else none
  | .half _ :: _ => none

theorem length_lt_of_readString {read us : List Unit16} {s rest : Text}
    (h : readString read s = some (us, rest)) : rest.length < s.length := by
  fun_induction readString read s with
  | case1 => simp at h
  | case2 read s =>
    cases h
    exact Nat.lt_succ_self _
  | case3 => simp at h
  | case4 read a b c d s code hc ih =>
    have := ih h
    simp only [List.length_cons]
    omega
  | case5 => simp at h
  | case6 read c s _ e he ih =>
    have := ih h
    simp only [List.length_cons]
    omega
  | case7 => simp at h
  | case8 read c s _ _ _ hc ih =>
    have := ih h
    simp only [List.length_cons]
    omega

/-! ### Numbers -/

/-- The most digits that a number is kept with: more than any 64 bits need. -/
def mostDigits : Nat := 20

/-- The value of decimal digits, if they are not too many. -/
def digitsValue? (s : Text) : Option Nat :=
  if s.length ≤ mostDigits then some (s.foldl (fun n c => 10 * n + (c.toNat - '0'.toNat)) 0) else none

/-- Reads an integer without sign: `0`, or digits that do not start with it. -/
def readInteger : Text → Option (Option Nat × Text)
  | '0' :: s => some (some 0, s)
  | s =>
    if (s.takeWhile Char.isDigit).isEmpty then none
    else some (digitsValue? (s.takeWhile Char.isDigit), s.dropWhile Char.isDigit)

/-- What follows one or more digits. -/
def skipDigits (s : Text) : Option Text :=
  if (s.takeWhile Char.isDigit).isEmpty then none else some (s.dropWhile Char.isDigit)

/-- What follows a fraction, if there is one. -/
def skipFraction : Text → Option Text
  | '.' :: s => skipDigits s
  | s => some s

/-- What follows an exponent, if there is one. -/
def skipExponent : Text → Option Text
  | 'e' :: s => skipSigned s
  | 'E' :: s => skipSigned s
  | s => some s
where
  skipSigned : Text → Option Text
    | '+' :: s => skipDigits s
    | '-' :: s => skipDigits s
    | s => skipDigits s

/-- A fraction or an exponent follows. -/
def isContinued (s : Text) : Bool := s.head?.any fun c => c == '.' || c == 'e' || c == 'E'

/-- What follows a number without sign, and its value if it is a kept integer. -/
def readUnsigned (s : Text) : Option (Option Nat × Text) := do
  let (n, s) ← readInteger s
  let rest ← skipFraction s >>= skipExponent
  return (if isContinued s then none else n, rest)

/-- Reads a number, and its value if it is written as a natural number and kept. -/
def readNumber : Text → Option (Option Nat × Text)
  | '-' :: s => (readUnsigned s).map fun (_, rest) => (none, rest)
  | s => readUnsigned s

theorem length_dropWhile_le (p : Char → Bool) (s : Text) : (s.dropWhile p).length ≤ s.length :=
  (List.dropWhile_sublist p).length_le

theorem length_dropWhile_lt {p : Char → Bool} {s : Text} (h : (s.takeWhile p).isEmpty = false) :
    (s.dropWhile p).length < s.length := by
  have hs := congrArg List.length (List.takeWhile_append_dropWhile (p := p) (l := s))
  have hp : 0 < (s.takeWhile p).length := by
    rw [List.length_pos_iff]
    intro he
    simp [he] at h
  rw [List.length_append] at hs
  omega

theorem length_lt_of_readInteger {s rest : Text} {n : Option Nat} (h : readInteger s = some (n, rest)) :
    rest.length < s.length := by
  unfold readInteger at h
  split at h
  · cases h
    exact Nat.lt_succ_self _
  · split at h
    · simp at h
    · next he =>
      cases h
      exact length_dropWhile_lt (Bool.eq_false_iff.mpr he)

theorem length_le_of_skipDigits {s rest : Text} (h : skipDigits s = some rest) : rest.length ≤ s.length := by
  unfold skipDigits at h
  split at h
  · simp at h
  · cases h
    exact length_dropWhile_le _ _

theorem length_le_of_skipFraction {s rest : Text} (h : skipFraction s = some rest) : rest.length ≤ s.length := by
  unfold skipFraction at h
  split at h
  · exact Nat.le_succ_of_le (length_le_of_skipDigits h)
  · cases h
    exact Nat.le_refl _

theorem length_le_of_skipSigned {s rest : Text} (h : skipExponent.skipSigned s = some rest) :
    rest.length ≤ s.length := by
  unfold skipExponent.skipSigned at h
  split at h
  · exact Nat.le_succ_of_le (length_le_of_skipDigits h)
  · exact Nat.le_succ_of_le (length_le_of_skipDigits h)
  · exact length_le_of_skipDigits h

theorem length_le_of_skipExponent {s rest : Text} (h : skipExponent s = some rest) : rest.length ≤ s.length := by
  unfold skipExponent at h
  split at h
  · exact Nat.le_succ_of_le (length_le_of_skipSigned h)
  · exact Nat.le_succ_of_le (length_le_of_skipSigned h)
  · cases h
    exact Nat.le_refl _

theorem length_lt_of_readUnsigned {s rest : Text} {n : Option Nat} (h : readUnsigned s = some (n, rest)) :
    rest.length < s.length := by
  unfold readUnsigned at h
  simp only [Option.bind_eq_bind, Option.pure_def, Option.bind_eq_some_iff, Option.some.injEq, Prod.mk.injEq] at h
  obtain ⟨⟨k, r⟩, hr, r', ⟨f, hf, he⟩, -, rfl⟩ := h
  have h₁ := length_lt_of_readInteger hr
  have h₂ := length_le_of_skipFraction hf
  have h₃ := length_le_of_skipExponent he
  exact Nat.lt_of_le_of_lt (Nat.le_trans h₃ h₂) h₁

theorem length_lt_of_readNumber {s rest : Text} {n : Option Nat} (h : readNumber s = some (n, rest)) :
    rest.length < s.length := by
  unfold readNumber at h
  split at h
  · next s =>
    obtain ⟨⟨k, r⟩, hr, he⟩ := Option.map_eq_some_iff.mp h
    cases he
    exact Nat.lt_succ_of_lt (length_lt_of_readUnsigned hr)
  · exact length_lt_of_readUnsigned h

/-! ### Lexing -/

/-- The white space of JSON. -/
def isSpace (c : Char) : Bool := c == ' ' || c == '\t' || c == '\n' || c == '\r'

/-- Reads the token that starts with `c`. -/
def readToken (c : Char) (s : Text) : Option (Token × Text) :=
  match c with
  | '\x7b' => some (.openObject, s)
  | '\x7d' => some (.closeObject, s)
  | '[' => some (.openArray, s)
  | ']' => some (.closeArray, s)
  | ':' => some (.colon, s)
  | ',' => some (.comma, s)
  | 'n' => (after? "ull".toList s).map (.null, ·)
  | 't' => (after? "rue".toList s).map (.bool true, ·)
  | 'f' => (after? "alse".toList s).map (.bool false, ·)
  | '"' => (readString [] s).map fun (us, rest) => (.string (joinHalves [] us), rest)
  | c => (readNumber (c :: s)).map fun (n, rest) => (.number n, rest)

theorem length_le_of_after? {lead s rest : Text} (h : after? lead s = some rest) : rest.length ≤ s.length := by
  rw [after?_eq_some_iff.mp h, List.length_append]
  exact Nat.le_add_left _ _

theorem length_le_of_readToken {c : Char} {s rest : Text} {t : Token} (h : readToken c s = some (t, rest)) :
    rest.length ≤ s.length := by
  have word : ∀ {lead : Text} {u : Token}, (after? lead s).map (u, ·) = some (t, rest) → rest.length ≤ s.length := by
    intro lead u hw
    obtain ⟨r, hr, he⟩ := Option.map_eq_some_iff.mp hw
    cases he
    exact length_le_of_after? hr
  unfold readToken at h
  split at h
  case h_7 => exact word h
  case h_8 => exact word h
  case h_9 => exact word h
  case h_10 =>
    obtain ⟨⟨us, r⟩, hr, he⟩ := Option.map_eq_some_iff.mp h
    cases he
    exact Nat.le_of_lt (length_lt_of_readString hr)
  case h_11 =>
    obtain ⟨⟨n, r⟩, hr, he⟩ := Option.map_eq_some_iff.mp h
    cases he
    exact Nat.le_of_lt_succ (length_lt_of_readNumber hr)
  all_goals
    cases h
    exact Nat.le_refl _

/-- Reads on after the tokens `read` (in reverse). -/
def lexFrom (read : List Token) : Text → Option (List Token)
  | [] => some read.reverse
  | c :: s =>
    if isSpace c then lexFrom read s
    else
      match h : readToken c s with
      | none => none
      | some (t, rest) =>
        have := length_le_of_readToken h
        lexFrom (t :: read) rest
termination_by s => s.length
decreasing_by
  · exact Nat.lt_succ_self _
  · exact Nat.lt_succ_of_le this

/-- The tokens of a text. -/
def lex (s : Text) : Option (List Token) := lexFrom [] s

end Cloak.Json
