import Cloak.Proofs.Harvest.Symbol

/-! Definitions as a search through a whole text finds them: a line break, as little as possible of the line after it, `#define`,
    all the spaces and tabs that follow, and the rest of the line. The search goes on where a find ends, which is where its
    line ends. So no find takes a line break away from the next line, and the names found are those of the lines one by one,
    the first line left out. -/

namespace Cloak

/-! ### The first definition of a line -/

/-- What begins a definition. -/
def defineMark : Text := "#define".toList

/-- The mark of a definition stands in the line after `lead`, and `rest`, which begins with a space or tab, after the mark. -/
def DefinesAt (lead rest line : Text) : Prop := line = lead ++ (defineMark ++ rest) ∧ ∃ c ∈ rest.head?, isGap c = true

structure FirstDefinition (lead rest line : Text) : Prop where
  defines : DefinesAt lead rest line
  first : ∀ lead' rest', DefinesAt lead' rest' line → lead.length ≤ lead'.length

section
variable {lead lead' rest rest' line s : Text} {c : Char}

theorem not_definesAt_nil : ¬ DefinesAt lead rest [] := by
  have hmark : defineMark ≠ [] := by decide
  rintro ⟨h, -⟩
  simp [hmark] at h

theorem definesAt_nil_iff : DefinesAt [] rest s ↔ after? defineMark s = some rest ∧ ∃ g ∈ rest.head?, isGap g = true := by
  rw [DefinesAt, after?_eq_some_iff, List.nil_append]

/-- A definition that does not begin with the line begins in the rest of it. -/
theorem definesAt_cons_iff (h : ∀ r, ¬ DefinesAt [] r (c :: s)) :
    DefinesAt lead rest (c :: s) ↔ ∃ lead', lead = c :: lead' ∧ DefinesAt lead' rest s := by
  constructor
  · rintro hd
    cases lead with
    | nil => exact absurd hd (h rest)
    | cons a lead =>
      obtain ⟨hline, hgap⟩ := hd
      obtain ⟨rfl, rfl⟩ := List.cons.inj hline
      exact ⟨lead, rfl, rfl, hgap⟩
  · rintro ⟨lead', rfl, rfl, hgap⟩
    exact ⟨rfl, hgap⟩

theorem FirstDefinition.cons (h : ∀ r, ¬ DefinesAt [] r (c :: s)) (hd : FirstDefinition lead rest s) :
    FirstDefinition (c :: lead) rest (c :: s) where
  defines := (definesAt_cons_iff h).mpr ⟨lead, rfl, hd.defines⟩
  first lead' rest' h' := by
    obtain ⟨tail, rfl, htail⟩ := (definesAt_cons_iff h).mp h'
    exact Nat.succ_le_succ (hd.first tail rest' htail)

theorem FirstDefinition.unique (h : FirstDefinition lead rest line) (h' : FirstDefinition lead' rest' line) :
    lead = lead' ∧ rest = rest' := by
  have hlen := Nat.le_antisymm (h.first _ _ h'.defines) (h'.first _ _ h.defines)
  obtain ⟨hlead, hmark⟩ := List.append_inj (h.defines.1.symm.trans h'.defines.1) hlen
  exact ⟨hlead, List.append_cancel_left hmark⟩

/-- What a reading of the line says of its first definition. -/
structure ReadsFirst (line : Text) (read : Option Text) : Prop where
  first : ∀ rest ∈ read, ∃ lead, FirstDefinition lead rest line
  none : read = none → ∀ lead rest, ¬ DefinesAt lead rest line

theorem ReadsFirst.cons (h : ∀ r, ¬ DefinesAt [] r (c :: s)) {read : Option Text} (hread : ReadsFirst s read) :
    ReadsFirst (c :: s) read where
  first rest hrest := by
    obtain ⟨lead, hfirst⟩ := hread.first rest hrest
    exact ⟨c :: lead, hfirst.cons h⟩
  none hnone lead rest hd := by
    obtain ⟨tail, -, htail⟩ := (definesAt_cons_iff h).mp hd
    exact hread.none hnone tail rest htail

theorem readsFirst_afterDefine? (line : Text) : ReadsFirst line (afterDefine? line) := by
  fun_induction afterDefine? line with
  | case1 => exact ⟨fun _ hrest => (Option.not_mem_none _ hrest).elim, fun _ _ _ => not_definesAt_nil⟩
  | case2 c s g rest hafter hgap =>
    refine ⟨fun r hr => ?_, fun hnone => by cases hnone⟩
    cases hr
    exact ⟨[], definesAt_nil_iff.mpr ⟨hafter, g, rfl, hgap⟩, fun _ _ _ => Nat.zero_le _⟩
  | case3 c s g rest hafter hgap ih =>
    refine ih.cons fun r hr => ?_
    obtain ⟨hr, d, hd, hgap'⟩ := definesAt_nil_iff.mp hr
    cases hafter.symm.trans hr
    cases hd
    exact hgap hgap'
  | case4 c s hafter ih =>
    refine ih.cons fun r hr => ?_
    obtain ⟨hr, d, hd, -⟩ := definesAt_nil_iff.mp hr
    cases r with
    | nil => cases hd
    | cons g r => exact hafter g r hr

theorem afterDefine?_eq_some_iff : afterDefine? line = some rest ↔ ∃ lead, FirstDefinition lead rest line := by
  have hreads := readsFirst_afterDefine? line
  constructor
  · exact hreads.first rest
  · rintro ⟨lead, hfirst⟩
    cases hread : afterDefine? line with
    | none => exact absurd hfirst.defines (hreads.none hread lead rest)
    | some r =>
      obtain ⟨lead', hfirst'⟩ := hreads.first r hread
      rw [(hfirst'.unique hfirst).2]

end

/-! ### The name of a line -/

/-- The line defines the name: it is the longest run of name characters after the first definition and its gap, and begins with
    no digit. -/
def LineDefines (line name : Text) : Prop := ∃ lead gap tail, FirstDefinition lead (gap ++ (name ++ tail)) line ∧
  (∀ c ∈ gap, isGap c = true) ∧ isIdentifier name = true ∧ StartsOutside isIdentChar tail

/-- The rest of a line after its first definition and the gap. -/
def definitionBody? (line : Text) : Option Text := (afterDefine? line).map (·.dropWhile isGap)

/-- The name at the beginning of a body: its first token, up to a character that is no part of a name. -/
def nameOfBody? (body : Text) : Option Text :=
  let name := (body.takeWhile (!isGap ·)).takeWhile isIdentChar
  if name.head?.any isIdentStart then some name else none

theorem not_isGap_of_isIdentChar {c : Char} (h : isIdentChar c = true) : isGap c = false := by
  refine Bool.eq_false_iff.mpr fun hgap => ?_
  simp only [isGap, Bool.or_eq_true, beq_iff_eq] at hgap
  rcases hgap with rfl | rfl <;> cases h

theorem nameOfBody?_eq (body : Text) : nameOfBody? body =
    if (body.takeWhile isIdentChar).head?.any isIdentStart then some (body.takeWhile isIdentChar) else none := by
  have hsame : (body.takeWhile (!isGap ·)).takeWhile isIdentChar = body.takeWhile isIdentChar := by
    rw [List.takeWhile_takeWhile]
    refine congrArg (List.takeWhile · body) (funext fun c => ?_)
    by_cases hc : isIdentChar c = true
    · simp [hc, not_isGap_of_isIdentChar hc]
    · simp [hc]
  simp only [nameOfBody?, hsame]

theorem nameOfBody?_eq_some_iff {body name : Text} :
    nameOfBody? body = some name ↔ isIdentifier name = true ∧ ∃ tail, body = name ++ tail ∧ StartsOutside isIdentChar tail := by
  rw [nameOfBody?_eq]
  constructor
  · intro h
    split at h
    · next hstart =>
      cases h
      exact ⟨isIdentifier_takeWhile hstart, _, List.takeWhile_append_dropWhile.symm, startsOutside_dropWhile isIdentChar body⟩
    · cases h
  · rintro ⟨hname, tail, rfl, htail⟩
    obtain ⟨c, hc, hstart⟩ := head?_append_of_isIdentifier hname []
    rw [List.append_nil] at hc
    rw [(takeWhile_isIdentChar_append hname htail).1, hc, Option.any_some, hstart, if_pos rfl]

theorem definedName?_eq_bind (line : Text) : definedName? line = (definitionBody? line).bind nameOfBody? := by
  unfold definedName? definitionBody?
  cases afterDefine? line with
  | none => rfl
  | some rest => exact (nameOfBody?_eq _).symm

theorem definedName?_eq_some_iff {line name : Text} : definedName? line = some name ↔ LineDefines line name := by
  simp only [definedName?_eq_bind, definitionBody?, Option.bind_eq_some_iff, Option.map_eq_some_iff, nameOfBody?_eq_some_iff]
  constructor
  · rintro ⟨_, ⟨rest, hread, rfl⟩, hname, tail, hbody, htail⟩
    obtain ⟨lead, hfirst⟩ := afterDefine?_eq_some_iff.mp hread
    refine ⟨lead, rest.takeWhile isGap, tail, ?_, fun c hc => List.mem_takeWhile_imp hc, hname, htail⟩
    rwa [← hbody, List.takeWhile_append_dropWhile]
  · rintro ⟨lead, gap, tail, hfirst, hgap, hname, htail⟩
    refine ⟨_, ⟨_, afterDefine?_eq_some_iff.mpr ⟨lead, hfirst⟩, rfl⟩, hname, tail, ?_, htail⟩
    rw [List.dropWhile_append_of_pos hgap]
    refine dropWhile_of_startsOutside fun c hc => ?_
    obtain ⟨d, hd, hstart⟩ := head?_append_of_isIdentifier hname tail
    rw [Option.mem_def.mp hc, Option.some.injEq] at hd
    rw [hd]
    exact not_isGap_of_isIdentChar (isIdentChar_of_isIdentStart hstart)

/-! ### Finds in a whole text -/

/-- A definition in a whole text, from the line break before it to some point on its line. -/
structure DefinitionMatch where
  before : Text
  lineBreak : Char
  lead : Text
  gap : Text
  body : Text
  rest : Text
  isBreak : isLineBreak lineBreak = true
  leadInLine : ∀ c ∈ lead, isLineBreak c = false
  apart : gap ≠ []
  gapped : ∀ c ∈ gap, isGap c = true
  bodyInLine : ∀ c ∈ body, isLineBreak c = false

namespace DefinitionMatch

/-- What stands from the line break on, without it. -/
def found (m : DefinitionMatch) : Text := m.lead ++ (defineMark ++ (m.gap ++ m.body))

def text (m : DefinitionMatch) : Text := m.before ++ m.lineBreak :: (m.found ++ m.rest)

/-- The search takes `m` rather than `n`, if both stand in the text: the one that begins first, then the one that leaves out less
    of the line, then the one with more spaces and tabs, then the one with more of the line. -/
def Precedes (m n : DefinitionMatch) : Prop :=
  m.before.length < n.before.length ∨ m.before.length = n.before.length ∧
    (m.lead.length < n.lead.length ∨ m.lead.length = n.lead.length ∧
      (n.gap.length < m.gap.length ∨ n.gap.length = m.gap.length ∧ n.body.length ≤ m.body.length))

structure IsFirstIn (m : DefinitionMatch) (s : Text) : Prop where
  stands : m.text = s
  first : ∀ n : DefinitionMatch, n.text = s → m.Precedes n

theorem IsFirstIn.unique {m n : DefinitionMatch} {s : Text} (hm : m.IsFirstIn s) (hn : n.IsFirstIn s) :
    m.body = n.body ∧ m.rest = n.rest := by
  have hmn := hm.first n hn.stands
  have hnm := hn.first m hm.stands
  have hlen : m.before.length = n.before.length ∧ m.lead.length = n.lead.length ∧ m.gap.length = n.gap.length ∧
      m.body.length = n.body.length := by
    unfold Precedes at hmn hnm
    omega
  obtain ⟨hbefore, hlead, hgap, hbody⟩ := hlen
  have htext := hm.stands.trans hn.stands.symm
  simp only [text, found, List.append_assoc] at htext
  obtain ⟨-, htext⟩ := List.append_inj htext hbefore
  obtain ⟨-, htext⟩ := List.append_inj (List.cons.inj htext).2 hlead
  obtain ⟨-, htext⟩ := List.append_inj (List.append_cancel_left htext) hgap
  exact List.append_inj htext hbody

/-- The same find in a text with more before it. -/
def shift (m : DefinitionMatch) (front : Text) : DefinitionMatch := { m with before := front ++ m.before }

theorem text_shift (m : DefinitionMatch) (front : Text) : (m.shift front).text = front ++ m.text :=
  List.append_assoc front m.before _

theorem shift_precedes_shift {m n : DefinitionMatch} (h : m.Precedes n) (front : Text) :
    (m.shift front).Precedes (n.shift front) := by
  simp only [Precedes, shift, List.length_append] at h ⊢
  omega

theorem exists_shift {n : DefinitionMatch} {front s : Text} (h : n.text = front ++ s) (hlen : front.length ≤ n.before.length) :
    ∃ m : DefinitionMatch, n = m.shift front ∧ m.text = s := by
  obtain ⟨more, hmore, hs⟩ : ∃ more, n.before = front ++ more ∧ s = more ++ n.lineBreak :: (n.found ++ n.rest) := by
    rcases List.append_eq_append_iff.mp h with ⟨more, hfront, hs⟩ | ⟨more, hbefore, hs⟩
    · have hnil : more = [] := by
        rw [hfront, List.length_append] at hlen
        exact List.eq_nil_of_length_eq_zero (by omega)
      subst hnil
      exact ⟨[], by rw [hfront, List.append_nil, List.append_nil], hs.symm⟩
    · exact ⟨more, hbefore, hs⟩
  refine ⟨{ n with before := more }, ?_, hs.symm⟩
  cases n
  cases hmore
  rfl

/-! ### Finds and lines -/

theorem not_isLineBreak_of_mem_found (m : DefinitionMatch) : ∀ c ∈ m.found, isLineBreak c = false := by
  have hmark : ∀ c ∈ defineMark, isLineBreak c = false := forall_of_all (by decide)
  have hgap : ∀ c ∈ m.gap, isLineBreak c = false := by
    intro c hc
    have hc := m.gapped c hc
    simp only [isGap, Bool.or_eq_true, beq_iff_eq] at hc
    rcases hc with rfl | rfl <;> rfl
  have hrest : ∀ c ∈ m.gap ++ m.body, isLineBreak c = false := List.forall_mem_append.mpr ⟨hgap, m.bodyInLine⟩
  exact List.forall_mem_append.mpr ⟨m.leadInLine, List.forall_mem_append.mpr ⟨hmark, hrest⟩⟩

/-- No find begins inside a line. -/
theorem length_le_before {m : DefinitionMatch} {l s : Text} (hl : ∀ c ∈ l, isLineBreak c = false) (h : m.text = l ++ s) :
    l.length ≤ m.before.length := by
  rcases List.append_eq_append_iff.mp h with ⟨more, rfl, hmore⟩ | ⟨more, hbefore, -⟩
  · cases more with
    | nil => rw [List.append_nil]
    | cons c more =>
      obtain ⟨rfl, -⟩ := List.cons.inj hmore
      have hc := hl m.lineBreak (List.mem_append_right m.before List.mem_cons_self)
      rw [m.isBreak] at hc
      cases hc
  · rw [hbefore, List.length_append]
    exact Nat.le_add_right _ _

/-- A find that begins at the break before a line lies on that line. -/
theorem exists_definesAt {m : DefinitionMatch} {b : Char} {l s : Text} (hs : ∀ c ∈ s.head?, isLineBreak c = true)
    (h : m.text = b :: (l ++ s)) (hbefore : m.before = []) : ∃ more, DefinesAt m.lead (m.gap ++ (m.body ++ more)) l := by
  rw [text, hbefore, List.nil_append] at h
  have hline : ∃ more, l = m.found ++ more := by
    rcases List.append_eq_append_iff.mp (List.cons.inj h).2 with ⟨more, hl, -⟩ | ⟨more, hfound, hrest⟩
    · exact ⟨more, hl⟩
    · cases more with
      | nil => exact ⟨[], by rw [hfound, List.append_nil, List.append_nil]⟩
      | cons c more =>
        -- The find would take the line break after its line.
        have hc := m.not_isLineBreak_of_mem_found c (hfound ▸ List.mem_append_right l List.mem_cons_self)
        rw [hs c (by rw [hrest]; rfl)] at hc
        cases hc
  obtain ⟨more, rfl⟩ := hline
  obtain ⟨g, gap, hgap⟩ := List.exists_cons_of_ne_nil m.apart
  refine ⟨more, by simp only [found, List.append_assoc], g, by rw [hgap]; rfl, m.gapped g ?_⟩
  rw [hgap]
  exact List.mem_cons_self

/-- Taking all spaces and tabs and then all of the line, nothing that begins at the same place goes before it. -/
theorem takeWhile_precedes {r gap body more : Text} (hgap : ∀ c ∈ gap, isGap c = true) (h : r = gap ++ (body ++ more)) :
    gap.length < (r.takeWhile isGap).length ∨
      gap.length = (r.takeWhile isGap).length ∧ body.length ≤ (r.dropWhile isGap).length := by
  have htake : r.takeWhile isGap = gap ++ (body ++ more).takeWhile isGap := by
    rw [h, List.takeWhile_append_of_pos hgap]
  have hparts := congrArg List.length (List.takeWhile_append_dropWhile (p := isGap) (l := r))
  have hwhole := congrArg List.length h
  simp only [htake, List.length_append] at hparts hwhole ⊢
  omega

/-- The first definition of a line is what the search takes from the break before the line. -/
theorem exists_isFirstIn {b : Char} {l s r : Text} (hb : isLineBreak b = true) (hl : ∀ c ∈ l, isLineBreak c = false)
    (hs : ∀ c ∈ s.head?, isLineBreak c = true) (h : afterDefine? l = some r) :
    ∃ m : DefinitionMatch, m.IsFirstIn (b :: (l ++ s)) ∧ m.body = r.dropWhile isGap ∧ m.rest = s := by
  obtain ⟨lead, hfirst⟩ := afterDefine?_eq_some_iff.mp h
  obtain ⟨hline, g, hg, hgap⟩ := hfirst.defines
  have hlead : lead <+: l := hline ▸ List.prefix_append lead _
  have hrest : r <:+ l := by
    rw [hline, ← List.append_assoc]
    exact List.suffix_append _ r
  have hne : r.takeWhile isGap ≠ [] := by
    obtain ⟨t, rfl⟩ := List.head?_eq_some_iff.mp hg
    rw [List.takeWhile_cons_of_pos hgap]
    exact List.cons_ne_nil _ _
  refine ⟨⟨[], b, lead, r.takeWhile isGap, r.dropWhile isGap, s, hb, fun c hc => hl c (hlead.subset hc), hne,
    fun c hc => List.mem_takeWhile_imp hc, fun c hc => hl c (((List.dropWhile_suffix _).trans hrest).subset hc)⟩,
    ⟨?_, fun n hn => ?_⟩, rfl, rfl⟩
  · rw [text, found, List.takeWhile_append_dropWhile, ← hline]
    rfl
  · by_cases hbefore : n.before = []
    · obtain ⟨more, hdefines⟩ := exists_definesAt hs hn hbefore
      have hlen : 0 = n.before.length := by rw [hbefore, List.length_nil]
      rcases Nat.lt_or_eq_of_le (hfirst.first _ _ hdefines) with hlt | heq
      · exact Or.inr ⟨hlen, Or.inl hlt⟩
      · obtain ⟨-, hmark⟩ := List.append_inj (hline.symm.trans hdefines.1) heq
        exact Or.inr ⟨hlen, Or.inr ⟨heq, takeWhile_precedes n.gapped (List.append_cancel_left hmark)⟩⟩
    · exact Or.inl (List.length_pos_of_ne_nil hbefore)

end DefinitionMatch

/-! ### The search -/

/-- The bodies that a search through the text finds, one after the other: it goes on behind each find. -/
inductive DefinitionScan : Text → List Text → Prop
  | none {s : Text} (h : ∀ m : DefinitionMatch, m.text ≠ s) : DefinitionScan s []
  | found {m : DefinitionMatch} {s : Text} {bodies : List Text} (h : m.IsFirstIn s) (hrest : DefinitionScan m.rest bodies) :
    DefinitionScan s (m.body :: bodies)

namespace DefinitionScan
variable {s front : Text} {bodies bodies' : List Text}

theorem unique (h : DefinitionScan s bodies) (h' : DefinitionScan s bodies') : bodies = bodies' := by
  induction h generalizing bodies' with
  | none hnone =>
    cases h' with
    | none => rfl
    | found hfirst => exact absurd hfirst.stands (hnone _)
  | found hfirst _ ih =>
    cases h' with
    | none hnone => exact absurd hfirst.stands (hnone _)
    | found hfirst' hrest' =>
      obtain ⟨hbody, hrest⟩ := hfirst.unique hfirst'
      rw [hbody, ih (hrest ▸ hrest')]

/-- A part in which no find begins can be left out at the front. -/
theorem append_left (h : ∀ m : DefinitionMatch, m.text = front ++ s → front.length ≤ m.before.length)
    (hscan : DefinitionScan s bodies) : DefinitionScan (front ++ s) bodies := by
  cases hscan with
  | none hnone =>
    refine .none fun n hn => ?_
    obtain ⟨m, -, hm⟩ := DefinitionMatch.exists_shift hn (h n hn)
    exact hnone m hm
  | @found m _ bodies hfirst hrest =>
    refine .found (m := m.shift front) ⟨by rw [m.text_shift, hfirst.stands], fun n hn => ?_⟩ hrest
    obtain ⟨n, rfl, hn'⟩ := DefinitionMatch.exists_shift hn (h n hn)
    exact DefinitionMatch.shift_precedes_shift (hfirst.first n hn') front

end DefinitionScan

/-- One line: its first definition is found, or the search goes on at the next line break. -/
theorem definitionScan_line {b : Char} {l s : Text} {bodies : List Text} (hb : isLineBreak b = true)
    (hl : ∀ c ∈ l, isLineBreak c = false) (hs : ∀ c ∈ s.head?, isLineBreak c = true) (h : DefinitionScan s bodies) :
    DefinitionScan (b :: (l ++ s)) ((definitionBody? l).toList ++ bodies) := by
  cases hread : afterDefine? l with
  | some r =>
    obtain ⟨m, hfirst, hbody, hrest⟩ := DefinitionMatch.exists_isFirstIn hb hl hs hread
    have hscan := DefinitionScan.found hfirst (hrest.symm ▸ h)
    rw [hbody] at hscan
    rw [definitionBody?, hread]
    exact hscan
  | none =>
    rw [definitionBody?, hread, ← List.cons_append]
    refine DefinitionScan.append_left (fun m hm => ?_) h
    cases hbefore : m.before with
    | nil =>
      obtain ⟨more, hdefines⟩ := DefinitionMatch.exists_definesAt hs hm hbefore
      exact absurd hdefines ((readsFirst_afterDefine? l).none hread _ _)
    | cons c before =>
      obtain ⟨n, hn, htext⟩ : ∃ n : DefinitionMatch, m = n.shift [b] ∧ n.text = l ++ s := by
        refine DefinitionMatch.exists_shift hm ?_
        rw [hbefore]
        exact Nat.succ_le_succ (Nat.zero_le _)
      have hlen := DefinitionMatch.length_le_before hl htext
      rw [← hbefore, hn]
      exact Nat.succ_le_succ hlen

/-- The bodies of the lines of a text, the first line left out. -/
def definitionBodies (s : Text) : List Text := ((s.splitOnP isLineBreak).drop 1).filterMap definitionBody?

theorem definitionScan_cons {b : Char} (hb : isLineBreak b = true) (s : Text) :
    DefinitionScan (b :: s) ((s.splitOnP isLineBreak).filterMap definitionBody?) := by
  have hempty : DefinitionScan [] [] := by
    refine .none fun m hm => ?_
    simp [DefinitionMatch.text] at hm
  induction s using piece_induction isLineBreak generalizing b with
  | piece l hl =>
    have hscan := definitionScan_line hb hl (s := []) (fun c hc => by cases hc) hempty
    rw [List.append_nil, List.append_nil] at hscan
    rw [List.splitOnP_eq_singleton hl, List.filterMap_eq_flatMap_toList, List.flatMap_singleton]
    exact hscan
  | cut l c s hl hc ih =>
    rw [List.splitOnP_append_cons_of_forall_mem hl c hc, List.filterMap_eq_flatMap_toList, List.flatMap_cons,
      ← List.filterMap_eq_flatMap_toList]
    refine definitionScan_line hb hl (fun d hd => ?_) (ih hc)
    cases hd
    exact hc

/-- A search through the whole text finds what the lines define one by one. -/
theorem definitionScan_iff {s : Text} {bodies : List Text} : DefinitionScan s bodies ↔ bodies = definitionBodies s := by
  have hscan : DefinitionScan s (definitionBodies s) := by
    rw [definitionBodies]
    cases s using piece_induction isLineBreak with
    | piece l hl =>
      rw [List.splitOnP_eq_singleton hl]
      refine .none fun m hm => ?_
      have hlen := DefinitionMatch.length_le_before (s := []) hl (by rw [hm, List.append_nil])
      rw [← hm, DefinitionMatch.text, List.length_append, List.length_cons] at hlen
      omega
    | cut l c s hl hc _ =>
      rw [List.splitOnP_append_cons_of_forall_mem hl c hc]
      exact DefinitionScan.append_left (fun m hm => DefinitionMatch.length_le_before hl hm) (definitionScan_cons hc s)
  constructor
  · exact fun h => h.unique hscan
  · rintro rfl
    exact hscan

/-! ### Names -/

theorem definedNames_eq_filterMap (s : Text) : definedNames s = (definitionBodies s).filterMap nameOfBody? := by
  rw [definedNames, definitionBodies, List.filterMap_filterMap]
  exact congrArg (List.filterMap · _) (funext definedName?_eq_bind)

theorem definedNames_append_cons {c : Char} (hc : isLineBreak c = true) (a b : Text) :
    definedNames (a ++ c :: b) = definedNames a ++ definedNames (c :: b) := by
  have hcut : (c :: b).splitOnP isLineBreak = [] :: b.splitOnP isLineBreak := by
    rw [List.splitOnP_cons_eq_if_modifyHead, if_pos hc]
  obtain ⟨first, more, ha⟩ := List.exists_cons_of_ne_nil (List.splitOnP_ne_nil isLineBreak a)
  rw [definedNames, definedNames, definedNames, List.splitOnP_append_cons a b hc, hcut, ha, ← List.filterMap_append]
  rfl

/-- The names that a text defines are those at the beginning of the bodies that a search through the whole text finds, and they
    are the names of its lines one by one, at most one for each line and none for the first. So a text can be cut at a line
    break. -/
theorem definedNames_linewise (source : Text) :
    (∃ bodies, (∀ found, DefinitionScan source found ↔ found = bodies) ∧ definedNames source = bodies.filterMap nameOfBody?) ∧
    (definedNames source = ((source.splitOnP isLineBreak).drop 1).flatMap fun line => (definedName? line).toList) ∧
    (∀ line name, definedName? line = some name ↔ LineDefines line name) ∧
    ∀ a b, definedNames (a ++ '\n' :: b) = definedNames a ++ definedNames ('\n' :: b) := by
  refine ⟨⟨definitionBodies source, fun found => definitionScan_iff, definedNames_eq_filterMap source⟩, ?_,
    fun line name => definedName?_eq_some_iff, definedNames_append_cons rfl⟩
  exact List.filterMap_eq_flatMap_toList _ _

example : definedNames "#define A\r\n x#defineB #define\tC(y) #define D\n#define 1E\r#define F".toList =
    ["C".toList, "F".toList] := by decide +kernel

end Cloak
