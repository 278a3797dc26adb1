import Cloak.Text.Basic

/-! UTF-8. Reading stops at the first ill-formed sequence and says where it stands; lossy reading puts one
    replacement character for each longest ill-formed piece and goes on. -/

namespace Cloak

/-- A sequence of bytes. -/
abbrev Bytes := List UInt8

namespace Utf8

/-- The bytes of a text. -/
def encode (s : Text) : Bytes := s.flatMap String.utf8EncodeChar

/-- The number of bytes of a text. -/
def size (s : Text) : Nat := s.foldl (fun n c => n + c.utf8Size) 0

/-- Where and how bytes fail to be UTF-8. -/
inductive Fault where
  | invalid (length index : Nat)
  | truncated (index : Nat)
  deriving DecidableEq, Repr

/-- The fault in words. -/
def Fault.message : Fault → String
  | .invalid length index => s!"invalid utf-8 sequence of {length} bytes from index {index}"
  | .truncated index => s!"incomplete utf-8 byte sequence from index {index}"

/-- What a first byte of a sequence promises: how many bytes follow, the bits it carries itself, and the range
    of the byte right after it. Every later byte lies between `80` and `BF`. -/
structure Lead where
  more : Nat
  bits : Nat
  lo : UInt8
  hi : UInt8

/-- Reads a first byte. Bytes that start no shortest form, no surrogate-free form and no form up to the last
    code point have none. -/
def lead? (b : UInt8) : Option Lead :=
  if b < 0x80 then some ⟨0, b.toNat, 0x80, 0xBF⟩
  else if b < 0xC2 then none
  else if b < 0xE0 then some ⟨1, b.toNat - 0xC0, 0x80, 0xBF⟩
  else if b = 0xE0 then some ⟨2, 0, 0xA0, 0xBF⟩
  else if b = 0xED then some ⟨2, 0xD, 0x80, 0x9F⟩
  else if b < 0xF0 then some ⟨2, b.toNat - 0xE0, 0x80, 0xBF⟩
  else if b = 0xF0 then some ⟨3, 0, 0x90, 0xBF⟩
  else if b < 0xF4 then some ⟨3, b.toNat - 0xF0, 0x80, 0xBF⟩
  else if b = 0xF4 then some ⟨3, 4, 0x80, 0x8F⟩
  else none

/-- One step of reading: a character, an ill-formed piece of `length` bytes, or a sequence that the end of the
    input cuts off. -/
inductive Step where
  | char (c : Char) (rest : Bytes)
  | invalid (length : Nat) (rest : Bytes)
  | truncated

/-- Reads `more` bytes of a sequence of which `length` bytes gave the code point `value` so far. -/
def readMore (length value : Nat) (lo hi : UInt8) : (more : Nat) → Bytes → Step
  | 0, bs => .char (Char.ofNat value) bs
  | _ + 1, [] => .truncated
  | more + 1, b :: bs =>
    if lo ≤ b ∧ b ≤ hi then readMore (length + 1) (value * 64 + (b.toNat - 0x80)) 0x80 0xBF more bs
    else .invalid length (b :: bs)

/-- Reads one character or ill-formed piece that starts with `b`. -/
def step (b : UInt8) (bs : Bytes) : Step :=
  match lead? b with
  | none => .invalid 1 bs
  | some l => readMore 1 l.bits l.lo l.hi l.more bs

/-- The bytes a step leaves. -/
def Step.rest : Step → Bytes
  | .char _ rest => rest
  | .invalid _ rest => rest
  | .truncated => []

theorem length_rest_readMore_le (length value : Nat) (lo hi : UInt8) (more : Nat) (bs : Bytes) :
    (readMore length value lo hi more bs).rest.length ≤ bs.length := by
  fun_induction readMore length value lo hi more bs with
  | case1 => exact Nat.le_refl _
  | case2 => exact Nat.le_refl _
  | case3 _ _ _ _ more b bs _ ih => exact Nat.le_succ_of_le ih
  | case4 => exact Nat.le_refl _

theorem length_rest_step_lt (b : UInt8) (bs : Bytes) : (step b bs).rest.length < (b :: bs).length := by
  apply Nat.lt_succ_of_le
  unfold step
  split
  · exact Nat.le_refl _
  · exact length_rest_readMore_le ..

theorem length_lt_of_step_char {b : UInt8} {bs rest : Bytes} {c : Char} (h : step b bs = .char c rest) :
    rest.length < (b :: bs).length := by
  have := length_rest_step_lt b bs
  rwa [h] at this

theorem length_lt_of_step_invalid {b : UInt8} {bs rest : Bytes} {n : Nat} (h : step b bs = .invalid n rest) :
    rest.length < (b :: bs).length := by
  have := length_rest_step_lt b bs
  rwa [h] at this

/-- Reads on after `read` (in reverse), which `index` bytes gave. -/
def decodeFrom (index : Nat) (read : Text) : Bytes → Except Fault Text
  | [] => .ok read.reverse
  | b :: bs =>
    match h : step b bs with
    | .char c rest =>
      have := length_lt_of_step_char h
      decodeFrom (index + c.utf8Size) (c :: read) rest
    | .invalid length _ => .error (.invalid length index)
    | .truncated => .error (.truncated index)
termination_by bs => bs.length
decreasing_by exact this

/-- Reads bytes as a text, or gives the first fault. -/
def decode (bs : Bytes) : Except Fault Text := decodeFrom 0 [] bs

/-- The text of the bytes if they are UTF-8. -/
def decode? (bs : Bytes) : Option Text := (decode bs).toOption

/-- The character that stands for an ill-formed piece. -/
def replacement : Char := Char.ofNat 0xFFFD

/-- Reads on after `read` (in reverse), with a replacement character for each ill-formed piece. -/
def decodeLossyFrom (read : Text) : Bytes → Text
  | [] => read.reverse
  | b :: bs =>
    match h : step b bs with
    | .char c rest =>
      have := length_lt_of_step_char h
      decodeLossyFrom (c :: read) rest
    | .invalid _ rest =>
      have := length_lt_of_step_invalid h
      decodeLossyFrom (replacement :: read) rest
    | .truncated => (replacement :: read).reverse
termination_by bs => bs.length
decreasing_by all_goals exact this

/-- Reads bytes as a text, with a replacement character for each ill-formed piece. -/
def decodeLossy (bs : Bytes) : Text := decodeLossyFrom [] bs

/-- The text from byte `offset` on, if a character starts or the text ends there. -/
def dropBytes? : (offset : Nat) → Text → Option Text
  | 0, s => some s
  | _ + 1, [] => none
  | offset + 1, c :: s => if c.utf8Size ≤ offset + 1 then dropBytes? (offset + 1 - c.utf8Size) s else none
termination_by _ s => s.length
decreasing_by exact Nat.lt_succ_self _

end Utf8
end Cloak
