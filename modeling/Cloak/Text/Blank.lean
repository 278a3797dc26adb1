/-! White space: the characters that separate tokens and that trimming removes. -/

namespace Cloak

/-- `c` is white space, in any script. The separators U+001C to U+001F and zero-width characters are not. -/
def isBlank (c : Char) : Bool :=
  c == ' ' || decide (9 ≤ c.toNat ∧ c.toNat ≤ 13) || c.toNat == 0x85 || c.toNat == 0xA0 || c.toNat == 0x1680 ||
    decide (0x2000 ≤ c.toNat ∧ c.toNat ≤ 0x200A) || c.toNat == 0x2028 || c.toNat == 0x2029 ||
    c.toNat == 0x202F || c.toNat == 0x205F || c.toNat == 0x3000

/-- `c` ends a line. -/
def isLineBreak (c : Char) : Bool := c == '\n' || c == '\r'

theorem isBlank_of_isLineBreak {c : Char} (h : isLineBreak c = true) : isBlank c = true := by
  simp only [isLineBreak, Bool.or_eq_true, beq_iff_eq] at h
  rcases h with rfl | rfl <;> decide

end Cloak
