import Cloak.Proofs.Harvest.TypeChain

/-! Declarations as a grammar: a chain of type words, white space with at most two stars in it, a name, white space and a closing
    character. Nothing before the end of a declaration closes one, so all readings that end at the same place agree on the name.
    Hence the search, which takes the longest chain first and jumps over a chain that leaves no declarator, finds exactly the
    declarations that stand in the text. -/

namespace Cloak

/-! ### The part after the type words -/

theorem mem_starred_cases {lead gap : Text} {stars : Nat} (hlead : ∀ c ∈ lead, isBlank c = true) (hgap : ∀ c ∈ gap, isBlank c = true)
    {c : Char} (hc : c ∈ lead ++ (List.replicate stars '*' ++ gap)) : isBlank c = true ∨ c = '*' := by
  rcases List.mem_append.mp hc with hc | hc
  · exact Or.inl (hlead c hc)
  · rcases List.mem_append.mp hc with hc | hc
    · exact Or.inr (List.eq_of_mem_replicate hc)
    · exact Or.inl (hgap c hc)

theorem not_isWord_of_mem_starred {lead gap : Text} {stars : Nat} (hlead : ∀ c ∈ lead, isBlank c = true)
    (hgap : ∀ c ∈ gap, isBlank c = true) : ∀ c ∈ lead ++ (List.replicate stars '*' ++ gap), isWord c = false := by
  intro c hc
  rcases mem_starred_cases hlead hgap hc with hc | rfl
  · exact not_isWord_of_isBlank hc
  · rfl

/-- White space, then at most two stars and again white space. -/
inductive IsPointerGap : Text → Prop
  | mk {lead gap : Text} {stars : Nat} (hne : lead ≠ []) (hlead : ∀ c ∈ lead, isBlank c = true) (hstars : stars ≤ 2)
    (hgap : ∀ c ∈ gap, isBlank c = true) : IsPointerGap (lead ++ (List.replicate stars '*' ++ gap))

theorem exists_stars_append (n : Nat) (s : Text) : ∃ k ≤ n, s = List.replicate k '*' ++ dropStars n s := by
  fun_induction dropStars n s with
  | case1 n s ih =>
    obtain ⟨k, hk, hs⟩ := ih
    exact ⟨k + 1, Nat.succ_le_succ hk, by rw [List.replicate_succ, List.cons_append, ← hs]⟩
  | case2 n s => exact ⟨0, Nat.zero_le n, rfl⟩

theorem dropStars_of_head? {n : Nat} {s : Text} (h : s.head? ≠ some '*') : dropStars n s = s := by
  fun_cases dropStars n s with
  | case1 => exact absurd rfl h
  | case2 => rfl

theorem dropStars_replicate_append {n k : Nat} (hk : k ≤ n) {s : Text} (hs : s.head? ≠ some '*') :
    dropStars n (List.replicate k '*' ++ s) = s := by
  induction k generalizing n with
  | zero => exact dropStars_of_head? hs
  | succ k ih =>
    obtain ⟨m, rfl⟩ : ∃ m, n = m + 1 := ⟨n - 1, by omega⟩
    exact ih (Nat.le_of_succ_le_succ hk)

namespace IsPointerGap
variable {gap s : Text}

theorem skip (h : IsPointerGap gap) (hblank : StartsOutside isBlank s) (hstar : s.head? ≠ some '*') :
    Text.trimStart (dropStars 2 (Text.trimStart (gap ++ s))) = s := by
  obtain @⟨lead, gap, stars, -, hlead, hstars, hgap⟩ := h
  have hmore : (gap ++ s).head? ≠ some '*' := by
    cases gap with
    | nil => exact hstar
    | cons c gap =>
      rintro ⟨⟩
      cases hgap '*' List.mem_cons_self
  have hdrop : dropStars 2 (Text.trimStart (lead ++ (List.replicate stars '*' ++ gap) ++ s)) =
      if stars = 0 then s else gap ++ s := by
    rw [List.append_assoc, List.append_assoc, Text.trimStart_append hlead]
    cases stars with
    | zero =>
      rw [List.replicate_zero, List.nil_append, Text.trimStart_append hgap, Text.trimStart_of_startsOutside hblank]
      exact dropStars_of_head? hstar
    | succ k =>
      have hout : StartsOutside isBlank (List.replicate (k + 1) '*' ++ (gap ++ s)) := startsOutside_cons.mpr (by decide)
      rw [Text.trimStart_of_startsOutside hout]
      exact dropStars_replicate_append hstars hmore
  rw [hdrop]
  split
  · exact Text.trimStart_of_startsOutside hblank
  · rw [Text.trimStart_append hgap, Text.trimStart_of_startsOutside hblank]

theorem head?_any (h : IsPointerGap gap) (s : Text) : (gap ++ s).head?.any isBlank = true := by
  obtain ⟨hne, hlead, -, -⟩ := h
  obtain ⟨c, lead, rfl⟩ := List.exists_cons_of_ne_nil hne
  exact hlead c List.mem_cons_self

theorem mem_cases (h : IsPointerGap gap) {c : Char} (hc : c ∈ gap) : isBlank c = true ∨ c = '*' := by
  obtain ⟨-, hlead, -, hgap⟩ := h
  exact mem_starred_cases hlead hgap hc

theorem not_isWord (h : IsPointerGap gap) : ∀ c ∈ gap, isWord c = false := by
  obtain ⟨-, hlead, -, hgap⟩ := h
  exact not_isWord_of_mem_starred hlead hgap

end IsPointerGap

/-- Names of declarations and what closes them apart, nothing in a declaration is a closing character. -/
theorem not_mem_closers {c : Char} (h : isBlank c = true ∨ isWord c = true ∨ c = '*') : c ∉ closers := by
  have all : ∀ c ∈ closers, isBlank c = false ∧ isWord c = false ∧ c ≠ '*' := forall_of_all (by decide)
  intro hc
  obtain ⟨hblank, hword, hstar⟩ := all c hc
  rcases h with h | h | h
  · rw [hblank] at h; cases h
  · rw [hword] at h; cases h
  · exact hstar h

theorem not_isWord_of_mem_closers {c : Char} (h : c ∈ closers) : isWord c = false :=
  Bool.eq_false_iff.mpr fun hc => not_mem_closers (Or.inr (Or.inl hc)) h

/-- The text is what follows the type words of the declaration. -/
inductive Declaration.FollowsType (d : Declaration) : Text → Prop
  | mk {gap tail : Text} (hgap : IsPointerGap gap) (hname : isIdentifier d.name = true) (htail : ∀ c ∈ tail, isBlank c = true)
    (hcloser : d.closer ∈ closers) : d.FollowsType (gap ++ (d.name ++ (tail ++ d.closer :: d.rest)))

theorem takeWhile_isIdentChar_append {name s : Text} (hname : isIdentifier name = true) (hs : StartsOutside isIdentChar s) :
    (name ++ s).takeWhile isIdentChar = name ∧ (name ++ s).dropWhile isIdentChar = s := by
  have hall := isIdentChar_of_mem_isIdentifier hname
  rw [List.takeWhile_append_of_pos hall, List.dropWhile_append_of_pos hall, takeWhile_of_startsOutside hs, List.append_nil]
  exact ⟨rfl, dropWhile_of_startsOutside hs⟩

theorem head?_ne_star {name : Text} (h : isIdentifier name = true) (s : Text) : (name ++ s).head? ≠ some '*' := by
  obtain ⟨c, hc, hstart⟩ := head?_append_of_isIdentifier h s
  rw [hc]
  rintro ⟨⟩
  cases hstart

theorem Declaration.followsType_of_declarator? {s : Text} {d : Declaration} (h : declarator? s = some d) : d.FollowsType s := by
  simp only [declarator?] at h
  split at h
  · next hstart =>
    obtain ⟨hblank, hname⟩ := Bool.and_eq_true_iff.mp hstart
    split at h
    · next c rest hc =>
      split at h
      · next hcloser =>
        cases h
        obtain ⟨lead, hs, hlead⟩ := Text.exists_blanks_append s
        obtain ⟨k, hk, hstars⟩ := exists_stars_append 2 (Text.trimStart s)
        obtain ⟨gap, hbody, hgap⟩ := Text.exists_blanks_append (dropStars 2 (Text.trimStart s))
        obtain ⟨tail, htail, hblanks⟩ := Text.exists_blanks_append
          ((Text.trimStart (dropStars 2 (Text.trimStart s))).dropWhile isIdentChar)
        have hne : lead ≠ [] := by
          rintro rfl
          have hout := startsOutside_dropWhile isBlank s
          rw [List.nil_append] at hs
          rw [← Text.trimStart, ← hs] at hout
          cases s with
          | nil => cases hblank
          | cons c s => exact absurd hblank (by simp [startsOutside_cons.mp hout])
        rw [hc] at htail
        have hsplit : s = lead ++ (List.replicate k '*' ++ gap) ++
            ((Text.trimStart (dropStars 2 (Text.trimStart s))).takeWhile isIdentChar ++ (tail ++ c :: rest)) := by
          rw [← htail, List.takeWhile_append_dropWhile, List.append_assoc, List.append_assoc, ← hbody, ← hstars, ← hs]
        have hfollows := Declaration.FollowsType.mk (d := ⟨_, c, rest⟩) (.mk hne hlead hk hgap) (isIdentifier_takeWhile hname)
          hblanks hcloser
        rwa [← hsplit] at hfollows
      · cases h
    · cases h
  · cases h

theorem Declaration.FollowsType.declarator?_eq {s : Text} {d : Declaration} (h : d.FollowsType s) : declarator? s = some d := by
  obtain @⟨gap, tail, hgap, hname, htail, hcloser⟩ := h
  have hstart : d.name.head?.any isIdentStart = true := by
    obtain ⟨c, hc, hstart⟩ := head?_append_of_isIdentifier hname []
    rw [List.append_nil] at hc
    rw [hc, Option.any_some, hstart]
  have hident : StartsOutside isIdentChar (tail ++ d.closer :: d.rest) := by
    refine StartsOutside.append (fun c hc => not_isIdentChar_of_isBlank (htail c (List.mem_of_mem_head? hc))) ?_
    refine startsOutside_cons.mpr (Bool.eq_false_iff.mpr fun hc => ?_)
    exact not_mem_closers (Or.inr (Or.inl (isWord_of_isIdentChar hc))) hcloser
  have hclose : Text.trimStart (tail ++ d.closer :: d.rest) = d.closer :: d.rest := by
    rw [Text.trimStart_append htail]
    refine Text.trimStart_of_startsOutside (startsOutside_cons.mpr (Bool.eq_false_iff.mpr fun hc => ?_))
    exact not_mem_closers (Or.inl hc) hcloser
  obtain ⟨htake, hdrop⟩ := takeWhile_isIdentChar_append hname hident
  have hhead := hgap.head?_any (d.name ++ (tail ++ d.closer :: d.rest))
  have hbody := hgap.skip ((isWordText_of_isIdentifier hname).isSolid.startsOutside (tail ++ d.closer :: d.rest))
    (head?_ne_star hname _)
  simp only [declarator?, hbody, htake, hdrop, hclose, hhead, hstart, Bool.and_self, if_true, if_pos hcloser]

/-- Reading a declarator is the grammar of what follows the type words. -/
theorem declarator?_eq_some_iff {s : Text} {d : Declaration} : declarator? s = some d ↔ d.FollowsType s :=
  ⟨Declaration.followsType_of_declarator?, Declaration.FollowsType.declarator?_eq⟩

/-! ### Declarations at the beginning of a text -/

/-- The text begins with the declaration. -/
inductive Declaration.Begins (d : Declaration) : Text → Prop
  | mk {chain s : Text} (hchain : IsTypeChain chain) (h : d.FollowsType s) : d.Begins (chain ++ s)

/-- The text reads `front`, which ends outside words, then the name, white space, the closing character and the rest. No closing
    character comes before that one. -/
structure Declaration.Frames (d : Declaration) (front tail s : Text) : Prop where
  eq : s = front ++ (d.name ++ tail) ++ d.closer :: d.rest
  front_ne : front ≠ []
  outside : endsWord false front = false
  name : IsWordText d.name
  blank : ∀ c ∈ tail, isBlank c = true
  closer : d.closer ∈ closers
  early : ∀ c ∈ front, c ∉ closers

namespace Declaration
variable {d e : Declaration} {front tail s before : Text}

theorem Begins.exists_frames (h : d.Begins s) : ∃ front tail, d.Frames front tail s := by
  obtain @⟨chain, _, hchain, @⟨gap, tail, hgap, hname, htail, hcloser⟩⟩ := h
  have hne : gap ≠ [] := by
    rintro rfl
    cases hgap.head?_any []
  refine ⟨chain ++ gap, tail, ?_, ?_, ?_, isWordText_of_isIdentifier hname, htail, hcloser, ?_⟩
  · simp only [List.append_assoc]
  · exact fun hnil => hne (List.append_eq_nil_iff.mp hnil).2
  · rw [endsWord_append, endsWord_eq _ hne false]
    exact endsWord_of_forall_neg hgap.not_isWord
  · intro c hc
    rcases List.mem_append.mp hc with hc | hc
    · rcases hchain.mem_cases hc with hc | hc
      · exact not_mem_closers (Or.inl hc)
      · exact not_mem_closers (Or.inr (Or.inl hc))
    · rcases hgap.mem_cases hc with hc | hc
      · exact not_mem_closers (Or.inl hc)
      · exact not_mem_closers (Or.inr (Or.inr hc))

theorem Frames.not_mem_closers (h : d.Frames front tail s) : ∀ c ∈ front ++ (d.name ++ tail), c ∉ closers := by
  intro c hc
  rcases List.mem_append.mp hc with hc | hc
  · exact h.early c hc
  · rcases List.mem_append.mp hc with hc | hc
    · exact Cloak.not_mem_closers (Or.inr (Or.inl (h.name.all c hc)))
    · exact Cloak.not_mem_closers (Or.inl (h.blank c hc))

theorem Frames.prepend (h : d.Frames front tail s) (hbefore : ∀ c ∈ before, c ∉ closers) :
    d.Frames (before ++ front) tail (before ++ s) where
  eq := by rw [h.eq]; simp only [List.append_assoc]
  front_ne hnil := h.front_ne (List.append_eq_nil_iff.mp hnil).2
  outside := by rw [endsWord_append, endsWord_eq _ h.front_ne false, h.outside]
  name := h.name
  blank := h.blank
  closer := h.closer
  early c hc := by
    rcases List.mem_append.mp hc with hc | hc
    · exact hbefore c hc
    · exact h.early c hc

theorem Frames.getLast?_words (h : d.Frames front tail s) : (words (front ++ (d.name ++ tail))).getLast? = some d.name :=
  getLast?_words_append h.outside h.name fun c hc => not_isWord_of_isBlank (h.blank c hc)

end Declaration

theorem eq_of_append_cons_eq {α : Type} {p : α → Prop} {l m r t : List α} {a b : α} (hl : ∀ x ∈ l, ¬ p x) (hm : ∀ x ∈ m, ¬ p x)
    (ha : p a) (hb : p b) (h : l ++ a :: r = m ++ b :: t) : l = m ∧ a = b ∧ r = t := by
  induction l generalizing m with
  | nil =>
    cases m with
    | nil => exact ⟨rfl, List.cons.inj h⟩
    | cons c m => exact absurd ((List.cons.inj h).1 ▸ ha) (hm c List.mem_cons_self)
  | cons c l ih =>
    cases m with
    | nil => exact absurd ((List.cons.inj h).1 ▸ hb) (hl c List.mem_cons_self)
    | cons e m =>
      obtain ⟨rfl, heq⟩ := List.cons.inj h
      obtain ⟨rfl, hab⟩ := ih (fun x hx => hl x (List.mem_cons_of_mem c hx)) (fun x hx => hm x (List.mem_cons_of_mem c hx)) heq
      exact ⟨rfl, hab⟩

namespace Declaration
variable {d e : Declaration} {front front' tail tail' s before : Text}

/-- Two readings of a text up to its first closing character are one: the name is the last word before it. -/
theorem Frames.unique (hd : d.Frames front tail s) (he : e.Frames front' tail' s) : d = e := by
  obtain ⟨hfront, hcloser, hrest⟩ := eq_of_append_cons_eq (p := (· ∈ closers)) hd.not_mem_closers he.not_mem_closers hd.closer
    he.closer (hd.eq.symm.trans he.eq)
  have hname := hd.getLast?_words
  rw [hfront, he.getLast?_words, Option.some.injEq] at hname
  cases d
  cases e
  cases hname
  cases hcloser
  cases hrest
  rfl

end Declaration

theorem declarationAt?_eq_some_iff {s : Text} {d : Declaration} : declarationAt? s = some d ↔ d.Begins s := by
  have sound : ∀ {e}, declarationAt? s = some e → e.Begins s := by
    intro e he
    obtain ⟨r, hr, hread⟩ := List.exists_of_findSome?_eq_some he
    obtain ⟨chain, hchain, rfl⟩ := mem_typeWordEnds_iff.mp (List.mem_reverse.mp hr)
    exact .mk hchain (declarator?_eq_some_iff.mp hread)
  refine ⟨sound, fun h => ?_⟩
  -- Some chain leaves a declarator; the longest that does may be another, but it ends at the same closing character.
  cases hfound : declarationAt? s with
  | none =>
    obtain @⟨chain, r, hchain, hfollows⟩ := h
    have hmem : r ∈ (typeWordEnds (chain ++ r)).reverse :=
      List.mem_reverse.mpr (mem_typeWordEnds_iff.mpr ⟨chain, hchain, rfl⟩)
    have hnone := List.findSome?_eq_none_iff.mp hfound r hmem
    rw [declarator?_eq_some_iff.mpr hfollows] at hnone
    cases hnone
  | some e =>
    obtain ⟨_, _, he⟩ := (sound hfound).exists_frames
    obtain ⟨_, _, hd⟩ := h.exists_frames
    rw [he.unique hd]

/-! ### The search -/

/-- The declaration stands in the text, not inside a word; `inWord` says whether a word character stands before the text. -/
def Declaration.StandsAfter (inWord : Bool) (d : Declaration) (s : Text) : Prop :=
  ∃ before body, s = before ++ body ∧ endsWord inWord before = false ∧ d.Begins body

/-- The declaration stands in the text. -/
def Declaration.StandsIn (d : Declaration) (s : Text) : Prop := d.StandsAfter false s

namespace Declaration
variable {d e : Declaration} {inWord : Bool} {c : Char} {s r chain : Text}

theorem Begins.exists_cons (h : d.Begins s) : ∃ c t, s = c :: t ∧ isIdentChar c = true := by
  obtain ⟨hchain, -⟩ := h
  obtain ⟨c, t, rfl, hc⟩ := hchain.exists_cons
  exact ⟨c, _, rfl, hc⟩

theorem not_standsAfter_nil : ¬ d.StandsAfter inWord [] := by
  rintro ⟨before, body, hsplit, -, hbegins⟩
  obtain ⟨c, t, rfl, -⟩ := hbegins.exists_cons
  exact absurd hsplit.symm (by simp)

theorem standsAfter_cons_iff (h : inWord = false → ¬ d.Begins (c :: s)) :
    d.StandsAfter inWord (c :: s) ↔ d.StandsAfter (isWord c) s := by
  constructor
  · rintro ⟨before, body, hsplit, hend, hbegins⟩
    cases before with
    | nil =>
      rw [List.nil_append] at hsplit
      exact absurd (hsplit ▸ hbegins) (h hend)
    | cons a before =>
      obtain ⟨rfl, rfl⟩ := List.cons.inj hsplit
      exact ⟨before, body, rfl, hend, hbegins⟩
  · rintro ⟨before, body, rfl, hend, hbegins⟩
    exact ⟨c :: before, body, rfl, hend, hbegins⟩

/-- A chain that begins no declaration can be jumped over: none begins inside it. -/
theorem standsAfter_chain_iff (hchain : IsTypeChain chain) (h : ∀ e : Declaration, ¬ e.Begins (chain ++ r)) :
    d.StandsAfter false (chain ++ r) ↔ d.StandsAfter true r := by
  constructor
  · rintro ⟨before, body, hsplit, hend, hbegins⟩
    rcases List.append_eq_append_iff.mp hsplit with ⟨more, rfl, rfl⟩ | ⟨more, hmore, -⟩
    · rw [endsWord_append, hchain.endsWord] at hend
      exact ⟨more, body, rfl, hend, hbegins⟩
    · by_cases hne : before = []
      · rw [hne, List.nil_append] at hsplit
        exact absurd (hsplit ▸ hbegins) (h d)
      · obtain @⟨other, t, hother, hfollows⟩ := hbegins
        have hwhole := Begins.mk (hchain.replace_end hmore hne hend hother) hfollows
        rw [List.append_assoc, ← hsplit] at hwhole
        exact absurd hwhole (h d)
  · rintro ⟨before, body, rfl, hend, hbegins⟩
    refine ⟨chain ++ before, body, (List.append_assoc chain before body).symm, ?_, hbegins⟩
    rw [endsWord_append, hchain.endsWord, hend]

/-- A declaration at the beginning hides no other: what overlaps it ends with it and names the same. -/
theorem standsAfter_begins_iff (h : e.Begins s) : d.StandsAfter false s ↔ d = e ∨ d.StandsAfter false e.rest := by
  obtain ⟨front, tail, hframes⟩ := h.exists_frames
  have hcloser := not_isWord_of_mem_closers hframes.closer
  constructor
  · rintro ⟨before, body, hsplit, hend, hbegins⟩
    rcases List.append_eq_append_iff.mp (hframes.eq.symm.trans hsplit) with ⟨more, hbefore, hmore⟩ | ⟨more, hfront, -⟩
    · cases more with
      | nil =>
        -- The second declaration would begin with the closing character of the first.
        obtain ⟨c, t, hbody, hc⟩ := hbegins.exists_cons
        rw [List.nil_append, hbody, List.cons.injEq] at hmore
        rw [hmore.1, isWord_of_isIdentChar hc] at hcloser
        cases hcloser
      | cons c more =>
        obtain ⟨rfl, hrest⟩ := List.cons.inj hmore
        rw [hbefore, endsWord_append, endsWord_cons, hcloser] at hend
        exact Or.inr ⟨more, body, hrest, hend, hbegins⟩
    · obtain ⟨front', tail', hframes'⟩ := hbegins.exists_frames
      have hearly : ∀ c ∈ before, c ∉ closers := fun c hc =>
        hframes.not_mem_closers c (hfront ▸ List.mem_append_left more hc)
      have hprepend := hframes'.prepend hearly
      rw [← hsplit] at hprepend
      exact Or.inl (hprepend.unique hframes)
  · rintro (rfl | ⟨before, body, hrest, hend, hbegins⟩)
    · exact ⟨[], s, rfl, rfl, h⟩
    · refine ⟨front ++ (e.name ++ tail) ++ e.closer :: before, body, ?_, ?_, hbegins⟩
      · rw [List.append_assoc, List.cons_append, ← hrest, ← hframes.eq]
      · rw [endsWord_append, endsWord_cons, hcloser, hend]

end Declaration

section
variable {inWord : Bool} {c : Char} {s r : Text} {d : Declaration}

theorem declarationAfter?_eq_some_iff : declarationAfter? inWord s = some d ↔ inWord = false ∧ d.Begins s := by
  cases inWord with
  | true => simp [declarationAfter?]
  | false =>
    rw [← declarationAt?_eq_some_iff]
    exact (and_iff_right rfl).symm

theorem not_begins_of_declarationAfter? (h : declarationAfter? inWord s = none) (hword : inWord = false) : ¬ d.Begins s := by
  intro hbegins
  rw [declarationAfter?_eq_some_iff.mpr ⟨hword, hbegins⟩] at h
  cases h

theorem standsAfter_chainEnd?_iff (h : declarationAfter? inWord s = none) (hr : chainEnd? inWord s = some r) :
    d.StandsAfter inWord s ↔ d.StandsAfter true r := by
  cases inWord with
  | true => cases hr
  | false =>
    obtain ⟨chain, hchain, rfl⟩ := mem_typeWordEnds_iff.mp (List.mem_of_getLast? hr)
    exact Declaration.standsAfter_chain_iff hchain fun e => not_begins_of_declarationAfter? h rfl

end

theorem mem_declarationsFrom_iff {found : List Declaration} {inWord : Bool} {s : Text} {d : Declaration} :
    d ∈ declarationsFrom found inWord s ↔ d ∈ found ∨ d.StandsAfter inWord s := by
  fun_induction declarationsFrom found inWord s with
  | case1 found inWord => simp [Declaration.not_standsAfter_nil]
  | case2 found inWord c s e he _ ih =>
    obtain ⟨rfl, hbegins⟩ := declarationAfter?_eq_some_iff.mp he
    rw [ih, Declaration.standsAfter_begins_iff hbegins, List.mem_cons, or_left_comm, or_assoc]
  | case3 found inWord c s he r hr _ ih => rw [ih, standsAfter_chainEnd?_iff he hr]
  | case4 found inWord c s he hr ih => rw [ih, Declaration.standsAfter_cons_iff (not_begins_of_declarationAfter? he)]

/-- The search finds exactly the declarations that stand in the text. -/
theorem mem_declarations_iff {s : Text} {d : Declaration} : d ∈ declarations s ↔ d.StandsIn s := by
  rw [declarations, mem_declarationsFrom_iff, or_iff_right List.not_mem_nil]
  rfl

theorem declarationsFrom_of_none {found : List Declaration} {inWord : Bool} {s : Text}
    (h : ∀ d : Declaration, ¬ d.StandsAfter inWord s) : declarationsFrom found inWord s = found.reverse := by
  fun_induction declarationsFrom found inWord s with
  | case1 => rfl
  | case2 found inWord c s e he _ ih =>
    obtain ⟨rfl, hbegins⟩ := declarationAfter?_eq_some_iff.mp he
    exact absurd ⟨[], c :: s, rfl, rfl, hbegins⟩ (h e)
  | case3 found inWord c s he r hr _ ih => exact ih fun d => (standsAfter_chainEnd?_iff he hr).not.mp (h d)
  | case4 found inWord c s he hr ih =>
    exact ih fun d => (Declaration.standsAfter_cons_iff (not_begins_of_declarationAfter? he)).not.mp (h d)

theorem declarations_eq_singleton {s : Text} {d : Declaration} (h : d.Begins s) (hrest : ∀ e : Declaration, ¬ e.StandsIn d.rest) :
    declarations s = [d] := by
  obtain ⟨c, t, rfl, -⟩ := h.exists_cons
  have hfirst := declarationAfter?_eq_some_iff.mpr ⟨rfl, h⟩
  rw [declarations, declarationsFrom]
  split
  · next e he =>
    rw [hfirst, Option.some.injEq] at he
    subst he
    exact declarationsFrom_of_none hrest
  · next he => rw [hfirst] at he; cases he

end Cloak
