import Cloak.Proofs.Harvest.Declarator

/-! Written declarations: type words with white space after each, stars, a name, and a closing character or a list of further
    declarators. Harvesting such a text gives the names that it was written with, those of the list first. Names that begin with a
    type word, end with one or are glued from several make no difference. -/

namespace Cloak

/-! ### Texts with no declaration in them -/

/-- A word made of type words stands in the text, then white space and a star or a character of a name. -/
structure TypePhrase (before word gap : Text) (next : Char) (rest s : Text) : Prop where
  eq : s = before ++ (word ++ (gap ++ next :: rest))
  outside : endsWord false before = false
  chain : IsTypeChain word
  whole : IsWordText word
  apart : gap ≠ []
  blank : ∀ c ∈ gap, isBlank c = true
  goesOn : next = '*' ∨ isIdentChar next = true

/-- A word made of type words stands before something that it may be the type of. -/
def HasTypePhrase (s : Text) : Prop := ∃ before word gap next rest, TypePhrase before word gap next rest s

theorem IsTypeChain.exists_word {chain : Text} (h : IsTypeChain chain) :
    ∃ w more, chain = w ++ more ∧ IsTypeChain w ∧ IsWordText w ∧
      (more = [] ∨ ∃ gap c rest, more = gap ++ c :: rest ∧ gap ≠ [] ∧ (∀ b ∈ gap, isBlank b = true) ∧ isIdentChar c = true) := by
  induction h with
  | @word w hw => exact ⟨w, [], (List.append_nil w).symm, .word hw, isWordText_of_mem_typeWords hw, Or.inl rfl⟩
  | @cons w gap chain hw hgap hchain ih =>
    have hword := isWordText_of_mem_typeWords hw
    by_cases hne : gap = []
    · -- Glued type words are one word.
      obtain ⟨v, more, rfl, hv, hvword, hmore⟩ := ih
      subst hne
      refine ⟨w ++ v, more, by simp only [List.nil_append, List.append_assoc], .cons hw hgap hv, ⟨?_, ?_⟩, hmore⟩
      · exact fun hnil => hword.ne_nil (List.append_eq_nil_iff.mp hnil).1
      · exact List.forall_mem_append.mpr ⟨hword.all, hvword.all⟩
    · obtain ⟨c, rest, rfl, hc⟩ := hchain.exists_cons
      exact ⟨w, gap ++ c :: rest, rfl, .word hw, hword, Or.inr ⟨gap, c, rest, rfl, hne, hgap, hc⟩⟩

theorem IsPointerGap.exists_next {gap name : Text} (h : IsPointerGap gap) (hname : isIdentifier name = true) (s : Text) :
    ∃ lead c rest, gap ++ (name ++ s) = lead ++ c :: rest ∧ lead ≠ [] ∧ (∀ b ∈ lead, isBlank b = true) ∧
      (c = '*' ∨ isIdentChar c = true) := by
  obtain @⟨lead, gap, stars, hne, hlead, -, hgap⟩ := h
  cases stars with
  | zero =>
    obtain ⟨c, name, rfl⟩ := List.exists_cons_of_ne_nil (isWordText_of_isIdentifier hname).ne_nil
    refine ⟨lead ++ gap, c, name ++ s, by simp, by simp [hne], List.forall_mem_append.mpr ⟨hlead, hgap⟩, Or.inr ?_⟩
    exact isIdentChar_of_mem_isIdentifier hname c List.mem_cons_self
  | succ k => exact ⟨lead, '*', _, by simp [List.replicate_succ]; rfl, hne, hlead, Or.inl rfl⟩

theorem Declaration.StandsIn.hasTypePhrase {d : Declaration} {s : Text} (h : d.StandsIn s) : HasTypePhrase s := by
  obtain ⟨before, body, rfl, hend, @⟨chain, t, hchain, @⟨gap, tail, hgap, hname, -, -⟩⟩⟩ := h
  obtain ⟨w, more, rfl, hw, hword, rfl | ⟨gap', c, rest, rfl, hne, hblank, hc⟩⟩ := hchain.exists_word
  · obtain ⟨lead, c, rest, heq, hne, hblank, hc⟩ := hgap.exists_next hname (tail ++ d.closer :: d.rest)
    exact ⟨before, w, lead, c, rest, ⟨by rw [heq, List.append_nil], hend, hw, hword, hne, hblank, hc⟩⟩
  · refine ⟨before, w, gap', c, rest ++ (gap ++ (d.name ++ (tail ++ d.closer :: d.rest))),
      ⟨?_, hend, hw, hword, hne, hblank, Or.inr hc⟩⟩
    simp only [List.append_assoc, List.cons_append]

section
variable {before word gap rest s t front name tail : Text} {next x : Char}

theorem TypePhrase.startsOutside (h : TypePhrase before word gap next rest s) : StartsOutside isWord (gap ++ next :: rest) := by
  obtain ⟨c, gap, rfl⟩ := List.exists_cons_of_ne_nil h.apart
  exact startsOutside_cons.mpr (not_isWord_of_isBlank (h.blank c List.mem_cons_self))

theorem TypePhrase.mem_words (h : TypePhrase before word gap next rest s) : word ∈ words s := by
  rw [h.eq]
  exact mem_words_append h.outside h.whole h.startsOutside

theorem TypePhrase.not_isBlank (h : TypePhrase before word gap next rest s) : isBlank next = false := by
  refine Bool.eq_false_iff.mpr fun hblank => ?_
  rcases h.goesOn with rfl | hnext
  · cases hblank
  · rw [not_isIdentChar_of_isBlank hblank] at hnext
    cases hnext

/-- The character is in no phrase. -/
def IsStop (x : Char) : Prop := isWord x = false ∧ isBlank x = false ∧ x ≠ '*'

instance : DecidablePred IsStop := fun _ => inferInstanceAs (Decidable (_ ∧ _))

theorem TypePhrase.not_mem (h : TypePhrase before word gap next rest s) (hstop : IsStop x) : x ∉ word ++ (gap ++ [next]) := by
  obtain ⟨hword, hblank, hstar⟩ := hstop
  intro hx
  simp only [List.mem_append, List.mem_singleton] at hx
  rcases hx with hx | hx | rfl
  · exact h.whole.not_mem hword hx
  · rw [h.blank x hx] at hblank
    cases hblank
  · rcases h.goesOn with hx | hx
    · exact hstar hx
    · rw [isWord_of_isIdentChar hx] at hword
      cases hword

theorem exists_append_of_not_mem {l r m t : Text} (hx : x ∉ l) (h : l ++ r = m ++ x :: t) : ∃ k, m = l ++ k ∧ r = k ++ x :: t := by
  rcases List.append_eq_append_iff.mp h with ⟨k, hm, hr⟩ | ⟨k, hl, hr⟩
  · exact ⟨k, hm, hr⟩
  · cases k with
    | nil =>
      rw [List.append_nil] at hl
      exact ⟨[], by rw [hl, List.append_nil], hr.symm⟩
    | cons c k =>
      obtain ⟨rfl, -⟩ := List.cons.inj hr
      rw [hl] at hx
      exact absurd (List.mem_append_right m List.mem_cons_self) hx

/-- A phrase lies on one side of a character that no phrase has in it. -/
theorem HasTypePhrase.of_append_cons (hstop : IsStop x) (h : HasTypePhrase (s ++ x :: t)) : HasTypePhrase s ∨ HasTypePhrase t := by
  obtain ⟨before, word, gap, next, rest, h⟩ := h
  have hx := h.not_mem hstop
  rcases List.append_eq_append_iff.mp h.eq with ⟨more, hbefore, hmore⟩ | ⟨more, hs, hmore⟩
  · cases more with
    | nil =>
      obtain ⟨c, word, rfl⟩ := List.exists_cons_of_ne_nil h.whole.ne_nil
      obtain ⟨rfl, -⟩ := List.cons.inj hmore
      exact absurd List.mem_cons_self hx
    | cons c more =>
      obtain ⟨rfl, ht⟩ := List.cons.inj hmore
      have hout := h.outside
      rw [hbefore, endsWord_append, endsWord_cons, hstop.1] at hout
      exact Or.inr ⟨more, word, gap, next, rest, { h with eq := ht, outside := hout }⟩
  · obtain ⟨k, rfl, -⟩ := exists_append_of_not_mem hx (by simpa only [List.append_assoc, List.singleton_append] using hmore)
    refine Or.inl ⟨before, word, gap, next, k, { h with eq := ?_ }⟩
    rw [hs]
    simp only [List.append_assoc, List.singleton_append]

theorem HasTypePhrase.of_append (hfront : ∀ c ∈ front, isWord c = false) (h : HasTypePhrase (front ++ s)) : HasTypePhrase s := by
  induction front with
  | nil => exact h
  | cons c front ih =>
    obtain ⟨hc, hfront⟩ := List.forall_mem_cons.mp hfront
    obtain ⟨before, word, gap, next, rest, h⟩ := h
    refine ih hfront ?_
    cases before with
    | nil =>
      -- The word of the phrase would begin with `c`.
      obtain ⟨d, word, rfl⟩ := List.exists_cons_of_ne_nil h.whole.ne_nil
      obtain ⟨rfl, -⟩ := List.cons.inj h.eq
      exact absurd List.mem_cons_self (h.whole.not_mem hc)
    | cons d before =>
      obtain ⟨rfl, hs⟩ := List.cons.inj h.eq
      have hout := h.outside
      rw [endsWord_cons, hc] at hout
      exact ⟨before, word, gap, next, rest, { h with eq := hs, outside := hout }⟩

/-- The only word of a declarator is its name, and nothing but white space follows it. -/
theorem not_hasTypePhrase_declarator (hfront : ∀ c ∈ front, isWord c = false) (hname : IsWordText name)
    (htail : ∀ c ∈ tail, isBlank c = true) : ¬ HasTypePhrase (front ++ (name ++ tail)) := by
  intro hphrase
  obtain ⟨before, word, gap, next, rest, h⟩ := hphrase.of_append hfront
  rcases List.append_eq_append_iff.mp h.eq with ⟨more, -, hmore⟩ | ⟨more, hsplit, hmore⟩
  · -- The phrase would lie in the white space.
    obtain ⟨c, word, rfl⟩ := List.exists_cons_of_ne_nil h.whole.ne_nil
    have hc : c ∈ tail := by simp [hmore]
    exact h.whole.not_mem (not_isWord_of_isBlank (htail c hc)) List.mem_cons_self
  · -- The phrase begins in the name, so with it, and its word is the name.
    have hbefore : before = [] := by
      by_contra hne
      have hend : endsWord false before = true :=
        endsWord_of_forall hne fun c hc => hname.all c (hsplit ▸ List.mem_append_left more hc)
      rw [h.outside] at hend
      cases hend
    rw [hbefore, List.nil_append] at hsplit
    have houtside : StartsOutside isWord tail := fun c hc => not_isWord_of_isBlank (htail c (List.mem_of_mem_head? hc))
    obtain ⟨-, hrest⟩ := eq_of_append_eq h.whole.all (hsplit ▸ hname.all) h.startsOutside houtside hmore
    have hnext := htail next (by simp [← hrest])
    rw [h.not_isBlank] at hnext
    cases hnext

end

/-! ### Written declarations -/

/-- White space, perhaps none. -/
structure Gap where
  text : Text
  blank : ∀ c ∈ text, isBlank c = true

/-- That many spaces. -/
def Gap.spaces (n : Nat) : Gap := ⟨List.replicate n ' ', fun c hc => by rw [List.eq_of_mem_replicate hc]; rfl⟩

/-- A type word and the white space after it. -/
structure TypeSpecifier where
  word : Text
  gap : Gap
  isType : word ∈ typeWords
  apart : gap.text ≠ []

def TypeSpecifier.text (t : TypeSpecifier) : Text := t.word ++ t.gap.text

/-- A declarator of a list: stars, a name and perhaps an initialiser, in which no word is made of type words. -/
structure ListedDeclarator where
  lead : Gap
  stars : Nat
  gap : Gap
  name : Text
  tail : Gap
  initialiser : Option Text
  isName : isIdentifier name = true
  oneDeclarator : ∀ i ∈ initialiser, ',' ∉ i ∧ ';' ∉ i
  untyped : ∀ i ∈ initialiser, ∀ w ∈ words i, ¬ IsTypeChain w

namespace ListedDeclarator
variable (p : ListedDeclarator)

/-- The initialiser with its sign. -/
def assignment : Text := p.initialiser.elim [] ('=' :: ·)

def text : Text := p.lead.text ++ (List.replicate p.stars '*' ++ (p.gap.text ++ (p.name ++ (p.tail.text ++ p.assignment))))

theorem isListed : IsListed p.name p.text := by
  refine .mk p.lead.blank p.gap.blank p.isName p.tail.blank fun c hc => ?_
  rw [assignment] at hc
  cases h : p.initialiser with
  | none => rw [h] at hc; cases hc
  | some i =>
    rw [h] at hc
    cases hc
    rfl

theorem not_mem_text {c : Char} (hc : c = ',' ∨ c = ';') : c ∉ p.text := by
  have hfixed : isBlank c = false ∧ isIdentChar c = false ∧ c ≠ '*' := by
    rcases hc with rfl | rfl <;> decide
  obtain ⟨hblank, hident, hstar⟩ := hfixed
  have hgap : ∀ g : Gap, c ∉ g.text := by
    intro g hmem
    rw [g.blank c hmem] at hblank
    cases hblank
  have hname : c ∉ p.name := by
    intro hmem
    rw [isIdentChar_of_mem_isIdentifier p.isName c hmem] at hident
    cases hident
  have hassign : c ∉ p.assignment := by
    rw [assignment]
    cases h : p.initialiser with
    | none => simp
    | some i =>
      have hi := p.oneDeclarator i h
      rcases hc with rfl | rfl
      · simp [hi.1]
      · simp [hi.2]
  simp [text, hgap, hname, hassign, hstar]

theorem not_hasTypePhrase : ¬ HasTypePhrase p.text := by
  have hfront : ∀ c ∈ p.lead.text ++ (List.replicate p.stars '*' ++ p.gap.text), isWord c = false :=
    not_isWord_of_mem_starred p.lead.blank p.gap.blank
  have hhead := not_hasTypePhrase_declarator hfront (isWordText_of_isIdentifier p.isName) p.tail.blank
  intro h
  rw [text, assignment] at h
  cases hinit : p.initialiser with
  | none =>
    rw [hinit] at h
    exact hhead (by simpa only [Option.elim_none, List.append_nil, List.append_assoc] using h)
  | some i =>
    have hsplit : HasTypePhrase
        (p.lead.text ++ (List.replicate p.stars '*' ++ p.gap.text) ++ (p.name ++ p.tail.text) ++ '=' :: i) := by
      rw [hinit] at h
      simpa only [Option.elim_some, List.append_assoc] using h
    rcases hsplit.of_append_cons (by decide) with h | ⟨_, word, _, _, _, h⟩
    · exact hhead h
    · exact p.untyped i hinit word h.mem_words h.chain

end ListedDeclarator

/-- How a declaration goes on after its first name. -/
inductive Ending where
  | closed (c : Char) (isCloser : c ∈ ['[', ';', '=', ')'])
  | listed (first : ListedDeclarator) (more : List ListedDeclarator) (semicolon : Bool)

namespace Ending

/-- The declarators of a list. -/
def items : Ending → List ListedDeclarator
  | closed _ _ => []
  | listed first more _ => first :: more

def closer : Ending → Char
  | closed c _ => c
  | listed _ _ _ => ','

/-- What follows the closing character of the first name. -/
def rest : Ending → Text
  | closed _ _ => []
  | listed first more semicolon =>
    [','].intercalate ((first :: more).map ListedDeclarator.text) ++ if semicolon then [';'] else []

theorem closer_mem_closers (e : Ending) : e.closer ∈ closers := by
  have all : ∀ c ∈ ['[', ';', '=', ')'], c ∈ closers := forall_of_all (by decide)
  cases e with
  | closed c hc => exact all c hc
  | listed => exact of_decide_eq_true rfl

theorem not_hasTypePhrase_intercalate (first : ListedDeclarator) (more : List ListedDeclarator) :
    ¬ HasTypePhrase ([','].intercalate ((first :: more).map ListedDeclarator.text)) := by
  induction more generalizing first with
  | nil =>
    rw [List.map_singleton, List.intercalate_singleton]
    exact first.not_hasTypePhrase
  | cons second more ih =>
    rw [List.map_cons, List.map_cons, List.intercalate_cons_cons, List.append_assoc]
    intro h
    rcases h.of_append_cons (by decide) with h | h
    · exact first.not_hasTypePhrase h
    · exact ih second h

theorem not_mem_intercalate (first : ListedDeclarator) (more : List ListedDeclarator) :
    ';' ∉ [','].intercalate ((first :: more).map ListedDeclarator.text) := by
  induction more generalizing first with
  | nil =>
    rw [List.map_singleton, List.intercalate_singleton]
    exact first.not_mem_text (Or.inr rfl)
  | cons second more ih =>
    rw [List.map_cons, List.map_cons, List.intercalate_cons_cons]
    intro h
    rcases List.mem_append.mp h with h | h
    · rcases List.mem_append.mp h with h | h
      · exact first.not_mem_text (Or.inr rfl) h
      · exact absurd h (by decide)
    · exact ih second h

theorem not_hasTypePhrase_nil : ¬ HasTypePhrase [] := by
  rintro ⟨before, word, gap, next, rest, h⟩
  exact absurd h.eq (by simp)

theorem not_hasTypePhrase_rest (e : Ending) : ¬ HasTypePhrase e.rest := by
  cases e with
  | closed => exact not_hasTypePhrase_nil
  | listed first more semicolon =>
    cases semicolon with
    | false =>
      rw [rest, if_neg Bool.false_ne_true, List.append_nil]
      exact not_hasTypePhrase_intercalate first more
    | true =>
      rw [rest, if_pos rfl]
      intro h
      rcases h.of_append_cons (by decide) with h | h
      · exact not_hasTypePhrase_intercalate first more h
      · exact not_hasTypePhrase_nil h

theorem statement_rest (first : ListedDeclarator) (more : List ListedDeclarator) (semicolon : Bool) :
    Text.statement (listed first more semicolon).rest = [','].intercalate ((first :: more).map ListedDeclarator.text) := by
  have hall : ∀ c ∈ [','].intercalate ((first :: more).map ListedDeclarator.text), decide (c ≠ ';') = true := by
    intro c hc
    refine decide_eq_true ?_
    rintro rfl
    exact not_mem_intercalate first more hc
  have hend : StartsOutside (fun c : Char => decide (c ≠ ';')) (if semicolon then [';'] else []) := by
    cases semicolon with
    | false => exact startsOutside_nil _
    | true => exact startsOutside_cons.mpr (by decide)
  rw [Text.statement, rest, List.takeWhile_append_of_pos hall, takeWhile_of_startsOutside hend, List.append_nil]

end Ending

/-- A declaration as it is written. -/
structure DeclarationText where
  types : List TypeSpecifier
  stars : Nat
  gap : Gap
  name : Text
  tail : Gap
  ending : Ending
  typed : types ≠ []
  atMostTwo : stars ≤ 2
  isName : isIdentifier name = true

theorem isTypeChain_append_word (ts : List TypeSpecifier) {w : Text} (hw : w ∈ typeWords) :
    IsTypeChain (ts.flatMap TypeSpecifier.text ++ w) := by
  induction ts with
  | nil => exact .word hw
  | cons t ts ih =>
    rw [List.flatMap_cons, TypeSpecifier.text, List.append_assoc, List.append_assoc]
    exact .cons t.isType t.gap.blank ih

namespace DeclarationText
variable (t : DeclarationText)

def text : Text :=
  t.types.flatMap TypeSpecifier.text ++
    (List.replicate t.stars '*' ++ (t.gap.text ++ (t.name ++ (t.tail.text ++ t.ending.closer :: t.ending.rest))))

/-- The names of the list, then the first name. -/
def names : List Text := t.ending.items.map ListedDeclarator.name ++ [t.name]

/-- The declaration that is found in the text. -/
def declaration : Declaration := ⟨t.name, t.ending.closer, t.ending.rest⟩

theorem begins_text : t.declaration.Begins t.text := by
  obtain hnil | ⟨ts, last, htypes⟩ := List.eq_nil_or_concat t.types
  · exact absurd hnil t.typed
  · have hchain := isTypeChain_append_word ts last.isType
    have hgap := IsPointerGap.mk last.apart last.gap.blank t.atMostTwo t.gap.blank
    have hfollows : t.declaration.FollowsType _ := .mk hgap t.isName t.tail.blank t.ending.closer_mem_closers
    have hbegins := Declaration.Begins.mk hchain hfollows
    rw [text, htypes, List.concat_eq_append, List.flatMap_append, List.flatMap_singleton, TypeSpecifier.text]
    simp only [List.append_assoc] at hbegins ⊢
    exact hbegins

theorem names_declaration : t.declaration.names = t.names := by
  rw [Declaration.names, Declaration.declarators, names, List.filterMap_append]
  congr 1
  rw [declaration]
  cases t.ending with
  | closed c hc =>
    have hcomma : c ≠ ',' := by
      rintro rfl
      exact absurd hc (by decide)
    rw [Ending.closer, if_neg hcomma]
    rfl
  | listed first more semicolon =>
    have hread : Declarator.ofPiece? ∘ ListedDeclarator.text = some ∘ fun p => .plain p.name :=
      funext fun p => ofPiece?_eq_plain_iff.mpr p.isListed
    have hsplit : ([','].intercalate ((first :: more).map ListedDeclarator.text)).splitOn ',' =
        (first :: more).map ListedDeclarator.text :=
      List.splitOn_intercalate ',' (List.forall_mem_map.mpr fun p _ => p.not_mem_text (Or.inl rfl)) (by simp)
    rw [Ending.closer, if_pos rfl, trailingDeclarators_comma, Ending.statement_rest, hsplit, List.filterMap_map, hread,
      List.filterMap_eq_map, List.filterMap_map]
    exact congrFun List.filterMap_eq_map' _

/-- A written declaration gives the names of its list and then its first name, and nothing else. -/
theorem variableNames_text : variableNames t.text = t.names := by
  have hone : declarations t.text = [t.declaration] :=
    declarations_eq_singleton t.begins_text fun e he => t.ending.not_hasTypePhrase_rest he.hasTypePhrase
  rw [variableNames, hone, List.flatMap_singleton, names_declaration]

end DeclarationText

/-- A list whose names and initialisers are close to type words. -/
def sampleText : DeclarationText where
  types := [⟨"unsigned".toList, .spaces 2, by decide, by decide⟩, ⟨"int".toList, .spaces 1, by decide, by decide⟩]
  stars := 1
  gap := .spaces 0
  name := "intconst".toList
  tail := .spaces 1
  ending := .listed
    ⟨.spaces 1, 0, .spaces 0, "longint".toList, .spaces 0, some " print(x) ".toList, rfl, by decide +kernel, by decide +kernel⟩
    [⟨.spaces 0, 3, .spaces 1, "_Boolean".toList, .spaces 0, none, rfl, by simp, by simp⟩] true
  typed := List.cons_ne_nil _ _
  atMostTwo := Nat.le_succ 1
  isName := rfl

theorem variableNames_text_sample :
    sampleText.text = "unsigned  int *intconst , longint= print(x) ,*** _Boolean;".toList ∧
      variableNames sampleText.text = ["longint".toList, "_Boolean".toList, "intconst".toList] :=
  ⟨by decide +kernel, sampleText.variableNames_text⟩

end Cloak
