import Cloak.Text.Basic

/-! Vocabulary words that occur in a source text. -/

namespace Cloak

/-- The keywords that are given an alias unless a configuration says otherwise. -/
def defaultKeywords : List Text :=
  ["return".toList, "for".toList, "int".toList, "if".toList, "while".toList, "void".toList]

/-- The words of the vocabulary that stand anywhere in the text, in vocabulary order. -/
def occurringKeywords (vocabulary : List Text) (s : Text) : List Text :=
  vocabulary.filter fun k => !k.isEmpty && Text.occursIn k s

end Cloak
