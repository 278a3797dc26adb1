import Cloak.Text.Composed
import Cloak.Url.Direction

/-! Joiners in domain names: characters without a shape that bind their neighbours or keep them apart. A name holds one
    only where it can be seen. -/

namespace Cloak.Joiner

/-- The character that keeps its neighbours apart. -/
def divider : Char := Char.ofNat 0x200C

/-- The character that binds its neighbours. -/
def binder : Char := Char.ofNat 0x200D

/-- Letters that join with one after them. -/
def joinsAfterLines : List String := [
  "620 626 628 62A-62E 633-63F 641-647 649-64A 66E-66F 679-687 69A-6BF 6C1-6C2 6CC 6CE 6D0-6D1 6FA-6FC 6FF 712-714",
  "71A-71D 71F-727 729 72B 72D-72E 74E-758 75C-76A 76D-770 772 775-777 77A-77F 7CA-7EA 841-845 848 84A-853 855 860",
  "862-865 868 886 889-88D 8A0-8A9 8AF-8B0 8B3-8B8 8BA-8C8 1807 1820-1878 1887-18A8 18AA A840-A872 10AC0-10AC4",
  "10ACD 10AD3-10ADC 10ADE-10AE0 10AEB-10AEE 10B80 10B82 10B86-10B88 10B8A-10B8B 10B8D 10B90 10BAD-10BAE",
  "10D00-10D21 10D23 10F30-10F32 10F34-10F44 10F51-10F53 10F70-10F73 10F76-10F81 10FB0 10FB2-10FB3 10FB8",
  "10FBB-10FBC 10FBE-10FBF 10FC1 10FC4 10FCA-10FCB 1E922-1E943"]

/-- Letters that join with one before them. -/
def joinsBeforeLines : List String := [
  "620 622-63F 641-64A 66E-66F 671-673 679-6D3 6D5 6EE-6EF 6FA-6FC 6FF 710 712-72F 74D-77F 7CA-7EA 840-858 860",
  "862-865 867-86A 870-882 886 889-88E 8A0-8AC 8AE-8C8 1807 1820-1878 1887-18A8 18AA A840-A871 10AC0-10AC5 10AC7",
  "10AC9-10ACA 10ACE-10AD6 10AD8-10AE1 10AE4 10AEB-10AEF 10B80-10B91 10BA9-10BAE 10D01-10D23 10F30-10F44",
  "10F51-10F54 10F70-10F81 10FB0 10FB2-10FB6 10FB8-10FBF 10FC1-10FC4 10FC9-10FCA 1E922-1E943"]

/-- Letters that join with one after them. -/
def joinsAfter : CharSet := CharSet.ofLines joinsAfterLines

/-- Letters that join with one before them. -/
def joinsBefore : CharSet := CharSet.ofLines joinsBeforeLines

/-- The mark takes the vowel from the letter before it, which a joiner after it can show. -/
def isSilencer (c : Char) : Bool := Text.rank c == 9

/-- The next character that is no mark is in `set`. -/
def meets (set : CharSet) (s : Text) : Bool :=
  (s.dropWhile fun c => Direction.ofChar c == .mark).head?.any set.contains

/-- Every joiner of a text can be seen, after the text `before` (in reverse). -/
def areSeen (before : Text) : Text → Bool
  | [] => true
  | c :: s =>
    (if c = divider then before.head?.any isSilencer || (meets joinsAfter before && meets joinsBefore s)
      else if c = binder then before.head?.any isSilencer
      else true) && areSeen (c :: before) s

end Cloak.Joiner
