import Cloak.Proofs.Harvest.Declaration
import Cloak.Proofs.Renaming.Marker

/-! Variables as a grammar: those that a declaration names, and those that a list after a comma names. A declarator of a list is read
    by cutting and trimming; what is left is a name exactly if the piece is white space, stars, white space, the name, white space
    and perhaps an initialiser. -/

namespace Cloak

/-! ### Declarators of a list -/

/-- The piece lists the name: white space, stars, white space, the name, white space, and perhaps an initialiser. -/
inductive IsListed (name : Text) : Text → Prop
  | mk {lead gap tail init : Text} {stars : Nat} (hlead : ∀ c ∈ lead, isBlank c = true) (hgap : ∀ c ∈ gap, isBlank c = true)
    (hname : isIdentifier name = true) (htail : ∀ c ∈ tail, isBlank c = true) (hinit : ∀ c ∈ init.head?, c = '=') :
    IsListed name (lead ++ (List.replicate stars '*' ++ (gap ++ (name ++ (tail ++ init)))))

theorem ofPiece?_eq_plain {piece name : Text} :
    Declarator.ofPiece? piece = some (.plain name) ↔ Declarator.bare piece = name ∧ isIdentifier name = true := by
  have hbare : Declarator.bare (Text.trim piece) = Declarator.bare piece := by
    rw [Declarator.bare, Declarator.bare, Text.trim_takeWhile_trim (by decide)]
  simp only [Declarator.ofPiece?, Declarator.ofPiece, hbare]
  constructor
  · intro h
    split at h
    · cases h
    · rw [Option.some.injEq] at h
      split at h
      · next hid =>
        cases h
        exact ⟨rfl, hid⟩
      · cases h
  · rintro ⟨rfl, hid⟩
    rw [if_neg, if_pos hid]
    intro hempty
    rw [← hbare, List.isEmpty_iff.mp hempty] at hid
    cases hid

theorem isListed_bare {piece : Text} (h : isIdentifier (Declarator.bare piece) = true) : IsListed (Declarator.bare piece) piece := by
  obtain ⟨a, z, hhead, ha, hz⟩ := Text.exists_trim_append (piece.takeWhile (· ≠ '='))
  obtain ⟨b, t, hrest, hb, ht⟩ := Text.exists_trim_append ((Text.trim (piece.takeWhile (· ≠ '='))).dropWhile (· = '*'))
  obtain ⟨stars, hstars⟩ : ∃ n, (Text.trim (piece.takeWhile (· ≠ '='))).takeWhile (· = '*') = List.replicate n '*' :=
    ⟨_, List.eq_replicate_of_mem fun c hc => by simpa using List.mem_takeWhile_imp hc⟩
  rw [← Declarator.bare] at hrest
  have hsplit : piece = a ++ (List.replicate stars '*' ++ (b ++ (Declarator.bare piece ++ ((t ++ z) ++ piece.dropWhile (· ≠ '='))))) := by
    conv_lhs =>
      rw [← List.takeWhile_append_dropWhile (p := (· ≠ '=')) (l := piece), hhead,
        ← List.takeWhile_append_dropWhile (p := (· = '*')) (l := Text.trim (piece.takeWhile (· ≠ '='))), hrest, hstars]
    simp only [List.append_assoc]
  have hinit : ∀ c ∈ (piece.dropWhile (· ≠ '=')).head?, c = '=' := by
    intro c hc
    simpa using startsOutside_dropWhile (fun c : Char => decide (c ≠ '=')) piece c hc
  have hlisted : IsListed (Declarator.bare piece) (a ++ (List.replicate stars '*' ++ _)) :=
    .mk ha hb h (List.forall_mem_append.mpr ⟨ht, hz⟩) hinit
  rwa [← hsplit] at hlisted

section
variable {name lead gap tail init : Text} {stars : Nat}

theorem takeWhile_ne_equals (hlead : ∀ c ∈ lead, isBlank c = true) (hgap : ∀ c ∈ gap, isBlank c = true)
    (hname : isIdentifier name = true) (htail : ∀ c ∈ tail, isBlank c = true) (hinit : ∀ c ∈ init.head?, c = '=') :
    (lead ++ (List.replicate stars '*' ++ (gap ++ (name ++ (tail ++ init))))).takeWhile (· ≠ '=') =
      lead ++ (List.replicate stars '*' ++ (gap ++ name)) ++ tail := by
  have hfront : ∀ c ∈ lead ++ (List.replicate stars '*' ++ (gap ++ name)) ++ tail, decide (c ≠ '=') = true := by
    intro c hc
    refine decide_eq_true ?_
    rintro rfl
    simp only [List.mem_append, List.mem_replicate] at hc
    rcases hc with (hc | ⟨-, hc⟩ | hc | hc) | hc
    · cases hlead '=' hc
    · cases hc
    · cases hgap '=' hc
    · cases isIdentChar_of_mem_isIdentifier hname '=' hc
    · cases htail '=' hc
  have hstop : StartsOutside (fun c : Char => decide (c ≠ '=')) init := fun c hc => by simp [hinit c hc]
  have happend : (lead ++ (List.replicate stars '*' ++ (gap ++ name)) ++ tail ++ init).takeWhile (· ≠ '=') = _ :=
    List.takeWhile_append_of_pos hfront
  rw [takeWhile_of_startsOutside hstop, List.append_nil] at happend
  simpa only [List.append_assoc] using happend

theorem dropWhile_star_append (hgap : ∀ c ∈ gap, isBlank c = true) (hname : isIdentifier name = true) :
    (gap ++ name).dropWhile (· = '*') = gap ++ name := by
  refine dropWhile_of_startsOutside fun c hc => decide_eq_false ?_
  rintro rfl
  cases gap with
  | nil => exact head?_ne_star hname [] (by rwa [List.append_nil])
  | cons d gap =>
    cases hc
    cases hgap '*' List.mem_cons_self

theorem IsListed.bare_eq {piece : Text} (h : IsListed name piece) : Declarator.bare piece = name := by
  obtain @⟨lead, gap, tail, init, stars, hlead, hgap, hname, htail, hinit⟩ := h
  have hsolid := (isWordText_of_isIdentifier hname).isSolid
  rw [Declarator.bare, takeWhile_ne_equals hlead hgap hname htail hinit, Text.trim_append_right htail, Text.trim_append_left hlead]
  cases stars with
  | zero =>
    have hdrop : ([] ++ name).dropWhile (· = '*') = [] ++ name := dropWhile_star_append (by simp) hname
    rw [List.nil_append] at hdrop
    rw [List.replicate_zero, List.nil_append, Text.trim_append_left hgap, Text.trim_of_isSolid hsolid, hdrop,
      Text.trim_of_isSolid hsolid]
  | succ k =>
    -- The first star is where the trimmed piece begins, so the white space after the stars is trimmed only in the end.
    have hout : StartsOutside isBlank (List.replicate (k + 1) '*' ++ gap ++ name) := startsOutside_cons.mpr rfl
    rw [← List.append_assoc, Text.trim_of_ends hout hsolid, List.append_assoc, List.dropWhile_append_of_pos (by simp),
      dropWhile_star_append hgap hname, Text.trim_append_left hgap, Text.trim_of_isSolid hsolid]

end

/-- Reading a piece is the grammar of the declarators of a list. -/
theorem ofPiece?_eq_plain_iff {piece name : Text} :
    Declarator.ofPiece? piece = some (.plain name) ↔ IsListed name piece := by
  rw [ofPiece?_eq_plain]
  constructor
  · rintro ⟨rfl, hname⟩
    exact isListed_bare hname
  · intro h
    refine ⟨h.bare_eq, ?_⟩
    obtain ⟨-, -, hname, -, -⟩ := h
    exact hname

/-! ### The names of a text -/

/-- The declaration gives the name: it is its own, or a comma closes it and a piece up to the next `;` lists the name. -/
def Declaration.Names (d : Declaration) (x : Text) : Prop :=
  x = d.name ∨ d.closer = ',' ∧ ∃ piece ∈ (Text.statement d.rest).splitOn ',', IsListed x piece

theorem trailingDeclarators_comma (s : Text) :
    trailingDeclarators (',' :: s) = ((Text.statement s).splitOn ',').filterMap Declarator.ofPiece? := by
  rw [trailingDeclarators_eq, Text.statement_cons (by decide), List.splitOn, List.splitOnP_cons_eq_if_modifyHead]
  rfl

theorem mem_names_iff {d : Declaration} {x : Text} : x ∈ d.names ↔ d.Names x := by
  have hplain : ∀ {l : List Text}, x ∈ (l.filterMap Declarator.ofPiece?).filterMap Declarator.name? ↔
      ∃ piece ∈ l, IsListed x piece := by
    intro l
    simp only [List.mem_filterMap, ← ofPiece?_eq_plain_iff]
    constructor
    · rintro ⟨p, ⟨piece, hpiece, hread⟩, hname⟩
      cases p with
      | plain name =>
        cases hname
        exact ⟨piece, hpiece, hread⟩
      | irregular => cases hname
    · rintro ⟨piece, hpiece, hread⟩
      exact ⟨_, ⟨piece, hpiece, hread⟩, rfl⟩
  have hlast : x ∈ [Declarator.plain d.name].filterMap Declarator.name? ↔ x = d.name := List.mem_singleton
  rw [Declaration.names, Declaration.declarators, List.filterMap_append, List.mem_append, hlast, Declaration.Names, or_comm]
  split
  · next hcloser =>
    rw [trailingDeclarators_comma, hplain]
    simp [hcloser]
  · next hcloser => simp [hcloser]

/-- The variables of a text are those that the declarations standing in it give. -/
theorem mem_variableNames_iff {s x : Text} : x ∈ variableNames s ↔ ∃ d : Declaration, d.StandsIn s ∧ d.Names x := by
  simp only [variableNames, List.mem_flatMap, mem_declarations_iff, mem_names_iff]

theorem isIdentifier_of_names {d : Declaration} {s x : Text} (hd : d.StandsIn s) (hx : d.Names x) : isIdentifier x = true := by
  rcases hx with rfl | ⟨-, piece, -, ⟨-, -, hname, -, -⟩⟩
  · obtain ⟨_, _, -, -, ⟨-, ⟨-, hname, -, -⟩⟩⟩ := hd
    exact hname
  · exact hname

/-- The word stands in the text, and the next character that is not white space, if there is one, closes a declaration. -/
def EndsDeclarator (w s : Text) : Prop :=
  ∃ a b, s = a ++ (w ++ b) ∧ endsWord false a = false ∧ ∀ c ∈ (Text.trimStart b).head?, c ∈ closers

theorem head?_trimStart_append {gap s : Text} (hgap : ∀ c ∈ gap, isBlank c = true) (hs : ∀ c ∈ s.head?, c ∈ closers) :
    ∀ c ∈ (Text.trimStart (gap ++ s)).head?, c ∈ closers := by
  have hout : StartsOutside isBlank s := fun c hc => Bool.eq_false_iff.mpr fun hblank => not_mem_closers (Or.inl hblank) (hs c hc)
  rwa [Text.trimStart_append hgap, Text.trimStart_of_startsOutside hout]

theorem endsDeclarator_of_names {d : Declaration} {s x : Text} (hd : d.StandsIn s) (hx : d.Names x) : EndsDeclarator x s := by
  obtain ⟨before, body, rfl, -, hbegins⟩ := hd
  obtain ⟨front, tail, hframes⟩ := hbegins.exists_frames
  rcases hx with rfl | ⟨hcloser, piece, hpiece, @⟨lead, gap, tail', init, stars, hlead, hgap, hname, htail, hinit⟩⟩
  · refine ⟨before ++ front, tail ++ d.closer :: d.rest, ?_, ?_, head?_trimStart_append hframes.blank ?_⟩
    · rw [hframes.eq]
      simp only [List.append_assoc]
    · rw [endsWord_append, endsWord_eq _ hframes.front_ne false, hframes.outside]
    · rintro c ⟨⟩
      exact hframes.closer
  · obtain ⟨a, b, hstatement, hb, ha⟩ := exists_append_of_mem_splitOnP hpiece
    have hrest : d.rest = a ++ (lead ++ (List.replicate stars '*' ++ (gap ++ (x ++ (tail' ++ init)))) ++ b) ++
        d.rest.dropWhile (· ≠ ';') := by
      rw [← hstatement, Text.statement, List.takeWhile_append_dropWhile]
    refine ⟨before ++ (front ++ (d.name ++ tail)) ++ ',' :: (a ++ (lead ++ (List.replicate stars '*' ++ gap))),
      tail' ++ (init ++ (b ++ d.rest.dropWhile (· ≠ ';'))), ?_, ?_, head?_trimStart_append htail ?_⟩
    · rw [hframes.eq, hcloser]
      conv_lhs => rw [hrest]
      simp only [List.append_assoc, List.cons_append]
    · -- The list begins after the comma, and what stands before the name in its piece is no part of a word.
      have hcut : endsWord false a = false := by
        refine endsWord_of_getLast? fun c hc => ?_
        rw [beq_iff_eq.mp (ha c hc)]
        decide
      rw [endsWord_append, endsWord_cons, show isWord ',' = false by decide, endsWord_append, hcut]
      exact endsWord_of_forall_neg (not_isWord_of_mem_starred hlead hgap)
    · intro c hc
      rw [List.head?_append, List.head?_append, Option.mem_def, Option.or_eq_some_iff, Option.or_eq_some_iff] at hc
      rcases hc with hc | ⟨-, hc | ⟨-, hc⟩⟩
      · rw [hinit c hc]
        decide
      · rw [beq_iff_eq.mp (hb c hc)]
        decide
      · have hstop := startsOutside_dropWhile (fun c : Char => decide (c ≠ ';')) d.rest c hc
        rw [of_not_not (of_decide_eq_false hstop)]
        decide

end Cloak
