import Cloak.Listing
import Cloak.Proofs.Harvest.Declaration

/-! Written listings: lines of the form `/* origin:number:flags */ extern types *name (tail`, and other lines among them. Reading
    such a listing gives the signatures that it was written with. An origin may hold colons, digits and stars: only the end of
    the comment tells where it stops, and it holds no such end. -/

namespace Cloak

/-! ### After the origin -/

/-- The text is what follows an origin: a line number, flags, the end of the comment, and the declaration. -/
inductive FollowsOrigin (declaration : Text) : Text → Prop
  | mk {number flags gap rest : Text} (hne : number ≠ []) (hnumber : ∀ c ∈ number, isDecimal c = true)
    (hflags : ∀ c ∈ flags, c.isUpper = true) (hgap : ∀ c ∈ gap, isBlank c = true) (hrest : Text.trim rest = declaration)
    (hsome : declaration ≠ []) : FollowsOrigin declaration (':' :: (number ++ ':' :: (flags ++ (gap ++ '*' :: '/' :: rest))))

theorem not_isUpper_of_isBlank {c : Char} (h : isBlank c = true) : c.isUpper = false := by
  refine Bool.eq_false_iff.mpr fun hupper => ?_
  have hident : isIdentChar c = true := by
    change (c.isUpper || c.isLower || c.isDigit || c == '_') = true
    rw [hupper]
    rfl
  rw [not_isIdentChar_of_isBlank h] at hident
  cases hident

theorem not_isDecimal_colon : isDecimal ':' = false := by decide

theorem isBlank_of_mem_space : ∀ c ∈ [' '], isBlank c = true := List.forall_mem_singleton.mpr rfl

theorem followsOrigin_of_declaration? {s d : Text} (h : Listing.declaration? s = some d) : FollowsOrigin d s := by
  unfold Listing.declaration? at h
  split at h
  · next s =>
    split at h
    · next flags hnumber hflags =>
      split at h
      · next rest hrest =>
        simp only at h
        split at h
        · cases h
        · next hsome =>
          cases h
          obtain ⟨gap, hgap, hblank⟩ := Text.exists_blanks_append (flags.dropWhile Char.isUpper)
          have hsplit : s = s.takeWhile isDecimal ++ ':' :: (flags.takeWhile Char.isUpper ++ (gap ++ '*' :: '/' :: rest)) := by
            rw [← hrest, ← hgap, List.takeWhile_append_dropWhile, ← hflags, List.takeWhile_append_dropWhile]
          rw [hsplit]
          refine .mk (fun hnil => ?_) (fun c hc => List.mem_takeWhile_imp hc) (fun c hc => List.mem_takeWhile_imp hc) hblank rfl
            fun hnil => hsome (List.isEmpty_iff.mpr hnil)
          rw [hnil] at hnumber
          cases hnumber
      · cases h
    · cases h
  · cases h

theorem FollowsOrigin.declaration?_eq {s d : Text} (h : FollowsOrigin d s) : Listing.declaration? s = some d := by
  obtain @⟨number, flags, gap, rest, hne, hnumber, hflags, hgap, hrest, hsome⟩ := h
  have hcolon : StartsOutside isDecimal (':' :: (flags ++ (gap ++ '*' :: '/' :: rest))) :=
    startsOutside_cons.mpr not_isDecimal_colon
  have hupper : StartsOutside Char.isUpper (gap ++ '*' :: '/' :: rest) :=
    .append (fun c hc => not_isUpper_of_isBlank (hgap c (List.mem_of_mem_head? hc))) (startsOutside_cons.mpr rfl)
  have hstar : StartsOutside isBlank ('*' :: '/' :: rest) := startsOutside_cons.mpr rfl
  have hempty : (number.isEmpty) = false := by simpa using hne
  simp only [Listing.declaration?, List.takeWhile_append_of_pos hnumber, List.dropWhile_append_of_pos hnumber,
    takeWhile_of_startsOutside hcolon, dropWhile_of_startsOutside hcolon, List.append_nil, hempty,
    List.dropWhile_append_of_pos hflags, dropWhile_of_startsOutside hupper, Text.trimStart_append hgap,
    Text.trimStart_of_startsOutside hstar, hrest]
  simp [hsome]

theorem declaration?_eq_some_iff {s d : Text} : Listing.declaration? s = some d ↔ FollowsOrigin d s :=
  ⟨followsOrigin_of_declaration?, FollowsOrigin.declaration?_eq⟩

/-! ### The end of the origin -/

/-- What ends an origin: the line number, the flags and a blank, all between colons and the end of the comment. -/
structure Location where
  number : Text
  flags : Text
  numbered : number ≠ []
  isNumber : ∀ c ∈ number, isDecimal c = true
  isFlags : ∀ c ∈ flags, c.isUpper = true

def Location.text (p : Location) : Text := ':' :: (p.number ++ ':' :: (p.flags ++ [' ']))

/-- The end of a comment. -/
def commentEnd : Text := ['*', '/']

theorem eq_of_append_commentEnd {a b r t : Text} (ha : '*' ∉ a) (hb : ¬ commentEnd <:+: b)
    (h : a ++ (commentEnd ++ r) = b ++ (commentEnd ++ t)) : a = b := by
  rcases List.append_eq_append_iff.mp h with ⟨w, rfl, hw⟩ | ⟨w, rfl, hw⟩
  · -- The comment of `b` would end before that of `a`, or a star would come between.
    rcases w with _ | ⟨c, _ | ⟨d, w⟩⟩
    · exact (List.append_nil a).symm
    · simp [commentEnd] at hw
    · simp only [commentEnd, List.cons_append, List.cons.injEq] at hw
      obtain ⟨rfl, rfl, -⟩ := hw
      exact absurd ⟨a, w, by simp [commentEnd]⟩ hb
  · cases w with
    | nil => exact List.append_nil b
    | cons c w =>
      obtain ⟨rfl, -⟩ := List.cons.inj hw
      exact absurd (List.mem_append_right b List.mem_cons_self) ha

theorem not_mem_of_forall {q : Char → Bool} {t : Text} (ht : ∀ c ∈ t, q c = true) {x : Char} (hx : q x = false) : x ∉ t := by
  intro hmem
  rw [ht x hmem] at hx
  cases hx

section
variable {number flags gap : Text} (hnumber : ∀ c ∈ number, isDecimal c = true) (hflags : ∀ c ∈ flags, c.isUpper = true)
  (hgap : ∀ c ∈ gap, isBlank c = true)
include hnumber hflags hgap

theorem star_not_mem_location : '*' ∉ ':' :: (number ++ ':' :: (flags ++ gap)) := by
  have hn : '*' ∉ number := not_mem_of_forall hnumber (by decide)
  have hf : '*' ∉ flags := not_mem_of_forall hflags rfl
  have hg : '*' ∉ gap := not_mem_of_forall hgap rfl
  simp [hn, hf, hg]

theorem count_colon_location : (':' :: (number ++ ':' :: (flags ++ gap))).count ':' = 2 := by
  have hn : number.count ':' = 0 := List.count_eq_zero.mpr (not_mem_of_forall hnumber not_isDecimal_colon)
  have hf : flags.count ':' = 0 := List.count_eq_zero.mpr (not_mem_of_forall hflags rfl)
  have hg : gap.count ':' = 0 := List.count_eq_zero.mpr (not_mem_of_forall hgap rfl)
  rw [List.count_cons_self, List.count_append, List.count_cons_self, List.count_append, hn, hf, hg]

end

namespace Location
variable (p : Location)

theorem star_not_mem : '*' ∉ p.text := star_not_mem_location p.isNumber p.isFlags isBlank_of_mem_space

theorem count_colon : p.text.count ':' = 2 := count_colon_location p.isNumber p.isFlags isBlank_of_mem_space

theorem followsOrigin {rest d : Text} (hrest : Text.trim rest = d) (hd : d ≠ []) :
    FollowsOrigin d (p.text ++ (commentEnd ++ rest)) := by
  have h := FollowsOrigin.mk p.numbered p.isNumber p.isFlags isBlank_of_mem_space hrest hd
  simpa only [text, commentEnd, List.cons_append, List.append_assoc, List.nil_append] using h

/-- No part of an origin is read together with the line number: the comment ends only after the flags, and before that end the
    number stands between the last two colons. -/
theorem not_followsOrigin {v rest d : Text} (hne : v ≠ []) (hv : ¬ commentEnd <:+: v) :
    ¬ FollowsOrigin d (v ++ (p.text ++ (commentEnd ++ rest))) := by
  intro h
  generalize hs : v ++ (p.text ++ (commentEnd ++ rest)) = s at h
  obtain @⟨number, flags, gap, rest', -, hnumber, hflags, hgap, -, -⟩ := h
  have hopen : ¬ commentEnd <:+: v ++ p.text := by
    intro hin
    rcases infix_of_infix_append_cons (by decide) hin with hin | hin
    · exact hv hin
    · exact p.star_not_mem (List.mem_cons_of_mem _ (hin.subset List.mem_cons_self))
  have hsame : ':' :: (number ++ ':' :: (flags ++ gap)) = v ++ p.text := by
    refine eq_of_append_commentEnd (star_not_mem_location hnumber hflags hgap) hopen ?_ (r := rest') (t := rest)
    simpa only [commentEnd, List.append_assoc, List.cons_append, List.nil_append] using hs.symm
  have hcount := count_colon_location hnumber hflags hgap
  obtain ⟨c, v, rfl⟩ := List.exists_cons_of_ne_nil hne
  have hc : ':' = c := (List.cons.inj hsame).1
  rw [hsame, ← hc, List.count_append, List.count_cons_self, p.count_colon] at hcount
  omega

end Location

/-- The origin is divided from the rest at the first place where the rest can follow an origin. -/
theorem divide?_append {origin s d : Text} (hne : origin ≠ []) (hs : FollowsOrigin d s)
    (hearly : ∀ v, v ≠ [] → v <:+ origin → ∀ d', ¬ FollowsOrigin d' (v ++ s)) (read : Text) :
    Listing.divide? read (origin ++ s) = some (read.reverse ++ origin, d) := by
  induction origin generalizing read with
  | nil => exact absurd rfl hne
  | cons c origin ih =>
    rw [List.cons_append, Listing.divide?]
    cases origin with
    | nil => rw [List.nil_append, declaration?_eq_some_iff.mpr hs, List.reverse_cons]
    | cons e origin =>
      have hnone : Listing.declaration? (e :: origin ++ s) = none := by
        refine Option.eq_none_iff_forall_ne_some.mpr fun d' hd' => ?_
        exact hearly _ (List.cons_ne_nil e origin) (List.suffix_cons c _) d' (declaration?_eq_some_iff.mp hd')
      rw [hnone]
      have hrest := ih (List.cons_ne_nil e origin)
        (fun v hv hsuffix => hearly v hv (hsuffix.trans (List.suffix_cons c _))) (c :: read)
      rw [hrest, List.reverse_cons, List.append_assoc]
      rfl

theorem entry?_append {origin s d : Text} (hstarts : ∃ c ∈ origin.head?, isBlank c = false) (hs : FollowsOrigin d s)
    (hearly : ∀ v, v ≠ [] → v <:+ origin → ∀ d', ¬ FollowsOrigin d' (v ++ s)) :
    Listing.entry? (' ' :: (origin ++ s)) = some (origin, d) := by
  obtain ⟨c, hc, hblank⟩ := hstarts
  obtain ⟨t, rfl⟩ := List.head?_eq_some_iff.mp hc
  have htrim : Text.trimStart (' ' :: (c :: t ++ s)) = c :: t ++ s :=
    (Text.trimStart_append isBlank_of_mem_space _).trans
      (Text.trimStart_of_startsOutside (startsOutside_cons.mpr hblank))
  rw [Listing.entry?, htrim, divide?_append (List.cons_ne_nil c t) hs hearly, Option.some_or]
  rfl

/-! ### The name in a heading -/

namespace Signature

theorem headingFrom_append_of_not_isBlank {t : Text} (ht : ∀ c ∈ t, isBlank c = false) (inside : Bool) (read s : Text) :
    headingFrom inside read (t ++ s) = headingFrom inside (t.reverse ++ read) s := by
  induction t generalizing read with
  | nil => rfl
  | cons c t ih =>
    obtain ⟨hc, ht⟩ := List.forall_mem_cons.mp ht
    have hline : (c != '\n') = true := by
      rw [bne_iff_ne]
      rintro rfl
      cases hc
    rw [List.cons_append, headingFrom, hc, Bool.and_false, Bool.false_and, Bool.false_and, Bool.false_and,
      if_neg Bool.false_ne_true, if_neg Bool.false_ne_true, hline, Bool.and_true, ih ht, List.reverse_cons, List.append_assoc]
    rfl

theorem headingFrom_opener (s : Text) : headingFrom false [] (opener ++ ' ' :: s) = headingFrom true [] s := by
  have hsolid : ∀ c ∈ opener, isBlank c = false := forall_of_all (by decide)
  have hprefix : opener.reverse.isPrefixOf opener.reverse = true := by decide
  rw [headingFrom_append_of_not_isBlank hsolid, List.append_nil, headingFrom, hprefix]
  rfl

/-- A heading ends at the parameters, which nothing before them opens. -/
theorem headingFrom_inside {heading : Text} (hopen : '(' ∉ heading) (hline : '\n' ∉ heading) (read tail : Text) :
    headingFrom true read (heading ++ ' ' :: '(' :: tail) = some (read.reverse ++ heading) := by
  induction heading generalizing read with
  | nil => rw [List.append_nil]; rfl
  | cons c heading ih =>
    rw [List.mem_cons, not_or] at hopen hline
    have hnext : ((heading ++ ' ' :: '(' :: tail).head? == some '(') = false := by
      cases heading with
      | nil => rfl
      | cons d heading => simpa using Ne.symm (List.ne_of_not_mem_cons hopen.2)
    have hbreak : (c == '\n') = false := beq_eq_false_iff_ne.mpr (Ne.symm hline.1)
    rw [List.cons_append, headingFrom, hnext, hbreak, bne, hbreak, Bool.and_false, if_neg Bool.false_ne_true, Bool.not_true,
      Bool.or_false, Bool.and_false, Bool.false_and, if_neg Bool.false_ne_true]
    rw [Bool.not_false, Bool.and_true, ih hopen.2 hline.2, List.reverse_cons, List.append_assoc]
    rfl

/-- The last token of a text that ends with something solid after white space. -/
theorem getLast?_tokens {s t : Text} (hs : ∀ c ∈ s.getLast?, isBlank c = true) (ht : IsSolid t) :
    (tokens (s ++ t)).getLast? = some t := by
  have hlast : tokens t = [t] := by
    rw [tokens, List.splitOnP_eq_singleton ht.not_blank, List.filter_cons_of_pos (by simp [ht.ne_nil]), List.filter_nil]
  obtain rfl | ⟨s, c, rfl⟩ := List.eq_nil_or_concat s
  · rw [List.nil_append, hlast]
    rfl
  · have hc := hs c (by simp)
    have hcut : tokens (s ++ c :: t) = tokens s ++ tokens t := by
      rw [tokens, List.splitOnP_append_cons s t hc, List.filter_append]
      rfl
    rw [List.concat_eq_append, List.append_assoc, List.singleton_append, hcut, hlast, List.getLast?_concat]

end Signature

/-! ### Written entries -/

/-- A token of the type and the white space after it. -/
structure TypeToken where
  word : Text
  gap : Text
  solid : ∀ c ∈ word, isBlank c = false
  closed : '(' ∉ word
  apart : gap ≠ []
  blank : ∀ c ∈ gap, isBlank c = true
  oneLine : '\n' ∉ gap

def TypeToken.text (t : TypeToken) : Text := t.word ++ t.gap

/-- A line of a listing that lists a function, as it is written. -/
structure ListingEntry where
  origin : Text
  location : Location
  types : List TypeToken
  stars : Nat
  name : Text
  tail : Text
  originStarts : ∃ c ∈ origin.head?, isBlank c = false
  originInLine : '\n' ∉ origin
  originOpen : ¬ commentEnd <:+: origin
  isName : isIdentifier name = true
  tailInLine : '\n' ∉ tail
  tailEnds : tail.getLast?.any isBlank = false

namespace ListingEntry
variable (e : ListingEntry)

/-- What stands between `extern` and the parameters. -/
def heading : Text := e.types.flatMap TypeToken.text ++ (List.replicate e.stars '*' ++ e.name)

def declaration : Text := Signature.opener ++ ' ' :: (e.heading ++ ' ' :: '(' :: e.tail)

def text : Text := '/' :: '*' :: ' ' :: (e.origin ++ (e.location.text ++ (commentEnd ++ ' ' :: e.declaration)))

def signature : Signature := ⟨e.declaration, Path.ofText e.origin⟩

theorem not_mem_heading {x : Char} (hgap : x = '(' ∨ x = '\n') : x ∉ e.heading := by
  have hfixed : isIdentChar x = false ∧ x ≠ '*' := by
    rcases hgap with rfl | rfl <;> decide
  have htoken : ∀ t : TypeToken, x ∉ t.text := by
    intro t hmem
    rcases List.mem_append.mp hmem with hmem | hmem
    · rcases hgap with rfl | rfl
      · exact t.closed hmem
      · cases t.solid _ hmem
    · rcases hgap with rfl | rfl
      · cases t.blank _ hmem
      · exact t.oneLine hmem
  have hname : x ∉ e.name := by
    intro hmem
    rw [isIdentChar_of_mem_isIdentifier e.isName x hmem] at hfixed
    cases hfixed.1
  simp [heading, htoken, hname, hfixed.2]

theorem isSolid_starred : IsSolid (List.replicate e.stars '*' ++ e.name) := by
  have hname := (isWordText_of_isIdentifier e.isName).isSolid
  refine ⟨fun hnil => hname.ne_nil (List.append_eq_nil_iff.mp hnil).2, fun c hc => ?_⟩
  rcases List.mem_append.mp hc with hc | hc
  · rw [List.eq_of_mem_replicate hc]
    rfl
  · exact hname.not_blank c hc

theorem isBlank_getLast?_types (ts : List TypeToken) : ∀ c ∈ (ts.flatMap TypeToken.text).getLast?, isBlank c = true := by
  intro c hc
  obtain rfl | ⟨ts, t, rfl⟩ := List.eq_nil_or_concat ts
  · cases hc
  · rw [List.concat_eq_append, List.flatMap_append, List.flatMap_singleton, TypeToken.text, ← List.append_assoc,
      List.getLast?_append_of_ne_nil _ t.apart] at hc
    exact t.blank c (List.mem_of_getLast? hc)

/-- The name is read from the declaration. -/
theorem functionName?_declaration : Signature.functionName? e.declaration = some e.name := by
  have hheading : Signature.heading? e.declaration = some e.heading := by
    rw [Signature.heading?, declaration, Signature.headingFrom_opener,
      Signature.headingFrom_inside (e.not_mem_heading (Or.inl rfl)) (e.not_mem_heading (Or.inr rfl))]
    rfl
  have htoken := Signature.getLast?_tokens (isBlank_getLast?_types e.types) e.isSolid_starred
  have hname : (List.replicate e.stars '*' ++ e.name).dropWhile (· = '*') = e.name := by
    rw [List.dropWhile_append_of_pos fun c hc => decide_eq_true (List.eq_of_mem_replicate hc)]
    refine dropWhile_of_startsOutside fun c hc => decide_eq_false ?_
    rintro rfl
    exact head?_ne_star e.isName [] (by rwa [List.append_nil])
  have hne : e.name.isEmpty = false := by simpa using (isWordText_of_isIdentifier e.isName).ne_nil
  simp only [Signature.functionName?, hheading, Option.bind_eq_bind, Option.bind_some, heading, htoken, hname, hne]
  rfl

/-- A text that begins with `s`, opens parameters and ends with the tail has no white space at its end. -/
theorem exists_concat (s : Text) : ∃ t c, s ++ '(' :: e.tail = t ++ [c] ∧ isBlank c = false := by
  obtain hnil | ⟨tail, c, htail⟩ := List.eq_nil_or_concat e.tail
  · exact ⟨s, '(', by rw [hnil], rfl⟩
  · refine ⟨s ++ '(' :: tail, c, ?_, ?_⟩
    · rw [htail, List.concat_eq_append, List.append_assoc]
      rfl
    · have hends := e.tailEnds
      rwa [htail, List.concat_eq_append, List.getLast?_concat, Option.any_some] at hends

theorem trim_of_parameters {s : Text} (hs : StartsOutside isBlank (s ++ '(' :: e.tail)) :
    Text.trim (s ++ '(' :: e.tail) = s ++ '(' :: e.tail := by
  obtain ⟨t, c, heq, hc⟩ := e.exists_concat s
  rw [heq] at hs ⊢
  exact Text.trim_of_ends hs ⟨List.cons_ne_nil c [], List.forall_mem_singleton.mpr hc⟩

theorem trim_declaration : Text.trim e.declaration = e.declaration := by
  have h := e.trim_of_parameters (s := Signature.opener ++ ' ' :: (e.heading ++ [' '])) (startsOutside_cons.mpr rfl)
  simpa only [declaration, List.append_assoc, List.cons_append, List.nil_append] using h

theorem trim_text : Text.trim e.text = e.text := by
  have h := e.trim_of_parameters (s := '/' :: '*' :: ' ' :: (e.origin ++ (e.location.text ++ (commentEnd ++
    ' ' :: (Signature.opener ++ ' ' :: (e.heading ++ [' ']))))))  (startsOutside_cons.mpr rfl)
  simpa only [text, declaration, List.append_assoc, List.cons_append, List.nil_append] using h

theorem signature?_text : Listing.signature? e.text = some e.signature := by
  have hafter : after? "/*".toList e.text =
      some (' ' :: (e.origin ++ (e.location.text ++ (commentEnd ++ ' ' :: e.declaration)))) := after?_eq_some_iff.mpr rfl
  have hrest : Text.trim (' ' :: e.declaration) = e.declaration :=
    (Text.trim_append_left isBlank_of_mem_space e.declaration).trans e.trim_declaration
  have hfollows := e.location.followsOrigin hrest (List.cons_ne_nil 'e' _)
  have hentry := entry?_append e.originStarts hfollows fun v hv hsuffix d =>
    e.location.not_followsOrigin hv fun hin => e.originOpen (hin.trans hsuffix.isInfix)
  simp only [Listing.signature?, hafter, hentry, Option.bind_eq_bind, Option.bind_some]
  rfl

theorem newline_not_mem_text : '\n' ∉ e.text := by
  have hnumber : '\n' ∉ e.location.number := not_mem_of_forall e.location.isNumber (by decide)
  have hflags : '\n' ∉ e.location.flags := not_mem_of_forall e.location.isFlags rfl
  have hopener : '\n' ∉ Signature.opener := by decide
  simp [text, declaration, commentEnd, Location.text, e.originInLine, hnumber, hflags, hopener, e.not_mem_heading (Or.inr rfl),
    e.tailInLine]

end ListingEntry

/-! ### Written listings -/

/-- A line of a listing: an entry, or anything that is no comment at its beginning. -/
inductive ListingLine where
  | entry (e : ListingEntry)
  | remark (text : Text) (inLine : '\n' ∉ text) (plain : ¬ ['/', '*'] <+: Text.trim text)

namespace ListingLine

def text : ListingLine → Text
  | entry e => e.text
  | remark text _ _ => text

def listed? : ListingLine → Option ListingEntry
  | entry e => some e
  | remark _ _ _ => none

theorem newline_not_mem_text (l : ListingLine) : '\n' ∉ l.text := by
  cases l with
  | entry e => exact e.newline_not_mem_text
  | remark text inLine _ => exact inLine

theorem signature?_trim_text (l : ListingLine) :
    Listing.signature? (Text.trim l.text) = l.listed?.map ListingEntry.signature := by
  cases l with
  | entry e =>
    rw [text, e.trim_text, e.signature?_text]
    rfl
  | remark t _ plain =>
    have hafter : after? "/*".toList (Text.trim t) = none := by
      refine Option.eq_none_iff_forall_ne_some.mpr fun rest hrest => plain ⟨rest, ?_⟩
      exact (after?_eq_some_iff.mp hrest).symm
    simp only [Listing.signature?, text, hafter]
    rfl

end ListingLine

/-- The lines of a listing, one after the other. -/
def listingText (ls : List ListingLine) : Text := ['\n'].intercalate (ls.map ListingLine.text)

theorem signatures_eq_map (ls : List ListingLine) :
    Listing.signatures (listingText ls) = (ls.filterMap ListingLine.listed?).map ListingEntry.signature := by
  by_cases hne : ls = []
  · subst hne
    rfl
  · have hlines : (listingText ls).splitOn '\n' = ls.map ListingLine.text :=
      List.splitOn_intercalate '\n' (List.forall_mem_map.mpr fun l _ => l.newline_not_mem_text) (mt List.map_eq_nil_iff.mp hne)
    rw [Listing.signatures, hlines, List.filterMap_map, List.map_filterMap]
    exact congrArg (List.filterMap · ls) (funext ListingLine.signature?_trim_text)

/-- Reading a written listing gives one signature for each entry, in order, with the origin and declaration that were written, and
    the name of each signature is the one that was written. -/
theorem signatures_listingText (ls : List ListingLine) :
    Listing.signatures (listingText ls) = (ls.filterMap ListingLine.listed?).map ListingEntry.signature ∧
      (Listing.signatures (listingText ls)).map Signature.name? = (ls.filterMap ListingLine.listed?).map (some ·.name) := by
  refine ⟨signatures_eq_map ls, ?_⟩
  rw [signatures_eq_map, List.map_map]
  exact List.map_congr_left fun e _ => e.functionName?_declaration

/-- A token with one blank after it. -/
def TypeToken.spaced (word : Text) (solid : ∀ c ∈ word, isBlank c = false) (closed : '(' ∉ word) : TypeToken :=
  ⟨word, [' '], solid, closed, List.cons_ne_nil _ _, isBlank_of_mem_space, by decide⟩

/-- An entry whose origin looks like a line number with flags and a star, and whose tail has a comment. -/
def sampleEntry : ListingEntry where
  origin := "a:12:NC *b.c".toList
  location := ⟨"7".toList, "OF".toList, by decide +kernel, forall_of_all (by decide +kernel), forall_of_all (by decide +kernel)⟩
  types := [.spaced "unsigned".toList (forall_of_all (by decide +kernel)) (by decide +kernel),
    .spaced "char*".toList (forall_of_all (by decide +kernel)) (by decide +kernel)]
  stars := 2
  name := "get".toList
  tail := "int x); /* b.c:8:NC */".toList
  originStarts := ⟨'a', rfl, rfl⟩
  originInLine := by decide +kernel
  originOpen := by decide +kernel
  isName := by decide +kernel
  tailInLine := by decide +kernel
  tailEnds := by decide +kernel

/-- Lines of another kind around an entry. -/
def sampleListing : List ListingLine :=
  [.remark "note: /* x:1:NC */".toList (by decide +kernel) (by decide +kernel), .entry sampleEntry,
    .remark [] (by decide) (by decide)]

theorem signatures_listingText_sample :
    listingText sampleListing = ("note: /* x:1:NC */\n" ++
      "/* a:12:NC *b.c:7:OF */ extern unsigned char* **get (int x); /* b.c:8:NC */\n").toList ∧
    Listing.signatures (listingText sampleListing) =
      [⟨"extern unsigned char* **get (int x); /* b.c:8:NC */".toList, Path.ofText "a:12:NC *b.c".toList⟩] ∧
    (Listing.signatures (listingText sampleListing)).map Signature.name? = [some "get".toList] := by
  obtain ⟨hread, hnames⟩ := signatures_listingText sampleListing
  exact ⟨by decide +kernel, hread.trans (by decide +kernel), hnames⟩

end Cloak
