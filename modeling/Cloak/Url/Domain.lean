import Cloak.Url.Joiner
import Cloak.Url.Spelling

/-! Domain names. Their labels are written in ASCII: a label beyond ASCII keeps its ASCII characters and lists the
    others as differences in base 36, in the order of their code points. -/

namespace Cloak.Domain

/-! ### Labels beyond ASCII -/

/-- A digit in base 36: a letter, then a decimal digit. -/
def digit (n : Nat) : Char := if n < 26 then Char.ofNat (97 + n) else Char.ofNat (22 + n)

/-- The least value of the digit of weight `k` that is not the last of its number. -/
def threshold (k bias : Nat) : Nat := if k ≤ bias then 1 else if bias + 26 ≤ k then 26 else k - bias

theorem threshold_pos (k bias : Nat) : 0 < threshold k bias := by
  unfold threshold
  split
  · omega
  · split <;> omega

/-- The digits of a number, the lowest first. -/
def digits (bias k n : Nat) : Text :=
  let t := threshold k bias
  if n < t then [digit n] else digit (t + (n - t) % (36 - t)) :: digits bias (k + 36) ((n - t) / (36 - t))
termination_by n
decreasing_by
  have := threshold_pos k bias
  have := Nat.div_le_self (n - threshold k bias) (36 - threshold k bias)
  omega

/-- Divides by 35 while the number is large, and counts the divisions. -/
def shrink (n count : Nat) : Nat × Nat := if 455 < n then shrink (n / 35) (count + 1) else (n, count)
termination_by n
decreasing_by exact Nat.div_lt_self (by omega) (by omega)

/-- The bias for the number after `delta`, when `count` characters are written. -/
def adapt (first : Bool) (delta count : Nat) : Nat :=
  let start := if first then delta / 700 else delta / 2
  let (n, divisions) := shrink (start + start / count) 0
  36 * divisions + 36 * n / (n + 38)

/-- What is written of a label: its digits (in reverse pieces), the difference to write next, the bias and the number
    of characters written. -/
structure Writing where
  pieces : List Text
  delta : Nat
  bias : Nat
  count : Nat

/-- Goes past a character while all characters with code point `n` are written. -/
def Writing.pass (basic n : Nat) (w : Writing) (c : Char) : Writing :=
  if c.toNat < n then { w with delta := w.delta + 1 }
  else if c.toNat = n then
    { pieces := digits w.bias 36 w.delta :: w.pieces
      delta := 0
      bias := adapt (w.count == basic) w.delta (w.count + 1)
      count := w.count + 1 }
  else w

/-- Writes the characters with the given code points, which increase from `least` on. -/
def Writing.writeAll (label : Text) (basic : Nat) (w : Writing) (least : Nat) : List Nat → Writing
  | [] => w
  | n :: rest =>
    let w := { w with delta := w.delta + (n - least) * (w.count + 1) }
    let w := label.foldl (pass basic n) w
    Writing.writeAll label basic { w with delta := w.delta + 1 } (n + 1) rest

/-- The ASCII form of a label beyond ASCII. -/
def encodeLabel (label : Text) : Text :=
  let plain := label.filter (·.toNat < 128)
  let others := ((label.map Char.toNat).filter (128 ≤ ·)).mergeSort.eraseDups
  let written := Writing.writeAll label plain.length ⟨[], 0, 72, plain.length⟩ 128 others
  "xn--".toList ++ (if plain.isEmpty then [] else plain ++ ['-']) ++ written.pieces.reverse.flatten

/-- The value of a digit in base 36. -/
def digitValue? (c : Char) : Option Nat :=
  if c.isLower then some (c.toNat - 97) else if c.isDigit then some (c.toNat - 22) else none

/-- Reads the digits of a number, the lowest first, and adds it to `sum`. -/
def readDigits (bias k weight sum : Nat) : Text → Option (Nat × Text)
  | [] => none
  | c :: s =>
    match digitValue? c with
    | none => none
    | some d =>
      let t := threshold k bias
      if d < t then some (sum + d * weight, s) else readDigits bias (k + 36) (weight * (36 - t)) (sum + d * weight) s

theorem length_lt_of_readDigits {bias k weight sum n : Nat} {s rest : Text}
    (h : readDigits bias k weight sum s = some (n, rest)) : rest.length < s.length := by
  fun_induction readDigits bias k weight sum s with
  | case1 => simp at h
  | case2 => simp at h
  | case3 k weight sum c s d _ t _ =>
    cases h
    exact Nat.lt_succ_self _
  | case4 k weight sum c s d _ t _ ih => exact Nat.lt_succ_of_lt (ih h)

/-- The code point is a character. -/
def isCharCode (n : Nat) : Bool := decide (n < 0xD800 ∨ (0xDFFF < n ∧ n < 0x110000))

/-- Puts the characters that the digits tell into a label. The last one had code point `n` and stood before `place`. -/
def insertAll (first : Bool) (bias n place : Nat) (label : Text) : Text → Option Text
  | [] => some label
  | c :: s =>
    match h : readDigits bias 36 1 place (c :: s) with
    | none => none
    | some (sum, rest) =>
      have := length_lt_of_readDigits h
      let count := label.length + 1
      let code := n + sum / count
      if isCharCode code then
        insertAll false (adapt first (sum - place) count) code (sum % count + 1)
          (label.insertIdx (sum % count) (Char.ofNat code)) rest
      else none
termination_by s => s.length
decreasing_by exact this

/-- The label beyond ASCII that an ASCII form without its mark stands for. Its last hyphen ends the ASCII characters, if
    there are any. -/
def decodeLabel? (s : Text) : Option Text :=
  match s.reverse.span (· ≠ '-') with
  | (digits, _ :: c :: plain) => insertAll true 72 128 0 (c :: plain).reverse digits.reverse
  | _ => insertAll true 72 128 0 [] s

/-! ### Names -/

/-- The characters that no label holds, besides controls and the blank. -/
def refused : List Char := ['%', '#', '/', ':', '<', '>', '?', '@', '[', '\\', ']', '^', '|', '\x7f']

/-- The longest label that is brought into an ASCII form. -/
def longestLabel : Nat := 1000

/-- The longest ASCII form of a label beyond ASCII, without its mark. -/
def longestForm : Nat := 2000

/-- All characters are ASCII. -/
def isAscii (s : Text) : Bool := s.all (·.toNat < 128)

/-- Marks that take space, and the few others that have a direction. -/
def spacingMarkLines : List String := [
  "903 93B 93E-940 949-94C 94E-94F 982-983 9BE-9C0 9C7-9C8 9CB-9CC 9D7 A03 A3E-A40 A83 ABE-AC0 AC9 ACB-ACC B02-B03",
  "B3E B40 B47-B48 B4B-B4C B57 BBE-BBF BC1-BC2 BC6-BC8 BCA-BCC BD7 C01-C03 C41-C44 C82-C83 CBE-CC4 CC6-CC8 CCA-CCB",
  "CD5-CD6 CF3 D02-D03 D3E-D40 D46-D48 D4A-D4C D57 D82-D83 DCF-DD1 DD8-DDF DF2-DF3 F3E-F3F F7F 102B-102C 1031 1038",
  "103B-103C 1056-1057 1062-1064 1067-106D 1083-1084 1087-108C 108F 109A-109C 1715 1734 17B6 17BE-17C5 17C7-17C8",
  "1923-1926 1929-192B 1930-1931 1933-1938 1A19-1A1A 1A55 1A57 1A61 1A63-1A64 1A6D-1A72 1B04 1B35 1B3B 1B3D-1B41",
  "1B43-1B44 1B82 1BA1 1BA6-1BA7 1BAA 1BE7 1BEA-1BEC 1BEE 1BF2-1BF3 1C24-1C2B 1C34-1C35 1CE1 1CF7 302E-302F",
  "A823-A824 A827 A880-A881 A8B4-A8C3 A952-A953 A983 A9B4-A9B5 A9BA-A9BB A9BE-A9C0 AA2F-AA30 AA33-AA34 AA4D AA7B",
  "AA7D AAEB AAEE-AAEF AAF5 ABE3-ABE4 ABE6-ABE7 ABE9-ABEA ABEC 11000 11002 11082 110B0-110B2 110B7-110B8 1112C",
  "11145-11146 11182 111B3-111B5 111BF-111C0 111CE 1122C-1122E 11232-11233 11235 112E0-112E2 11302-11303",
  "1133E-1133F 11341-11344 11347-11348 1134B-1134D 11357 11362-11363 11435-11437 11440-11441 11445 114B0-114B2",
  "114B9 114BB-114BE 114C1 115AF-115B1 115B8-115BB 115BE 11630-11632 1163B-1163C 1163E 116AC 116AE-116AF 116B6",
  "11720-11721 11726 1182C-1182E 11838 11930-11935 11937-11938 1193D 11940 11942 119D1-119D3 119DC-119DF 119E4",
  "11A07-11A08 11A39 11A57-11A58 11A97 11C2F 11C3E-11C3F 11CA9 11CB1 11CB4 11D8A-11D8E 11D93-11D94 11D96",
  "11EF5-11EF6 11F03 11F34-11F35 11F3E-11F3F 11F41 16F51-16F87 16FF0-16FF1 1D165-1D166 1D16D-1D172"]

/-- Marks that take space, and the few others that have a direction. -/
def spacingMarkSet : CharSet := CharSet.ofLines spacingMarkLines

/-- `c` is a mark. -/
def isMark (c : Char) : Bool := Direction.ofChar c == .mark || (decide (128 ≤ c.toNat) && spacingMarkSet.contains c)

/-- The text is spelled as names are: characters and their composition stay. -/
def isSpelled (s : Text) : Bool := s.all (fun c => spelling? c == some [c]) && Text.composed s == s

/-- A spelled label as it reads. An ASCII form has to stand for a spelled label beyond ASCII. -/
def readLabel? (label : Text) : Option Text :=
  match after? "xn--".toList label with
  | none => some label
  | some form =>
    if longestForm < form.length || !isAscii form then none
    else (decodeLabel? form).filter fun s => !isAscii s && isSpelled s

/-- A label as it reads can be part of a name. -/
def isSound (label : Text) : Bool :=
  !(label.head?.any isMark) && Joiner.areSeen [] label &&
    label.all fun c => decide (32 < c.toNat) && !refused.contains c

/-- The ASCII form of a label. -/
def toForm? (label : Text) : Option Text :=
  if isAscii label then some label else if longestLabel < label.length then none else some (encodeLabel label)

/-- The ASCII form of a name. -/
def toAscii? (name : Text) : Option Text := do
  let spelled ← name.mapM spelling?
  let labels ← ((Text.composed spelled.flatten).splitOn '.').mapM readLabel?
  let directions := labels.map (·.map Direction.ofChar)
  let isTurned := directions.any (·.any Direction.isTurned)
  if labels.all isSound && (!isTurned || directions.all Direction.agree) then
    return ['.'].intercalate (← labels.mapM toForm?)
  else none

end Cloak.Domain
