import Cloak.Json.Document
import Cloak.Json.Value
import Mathlib.Data.List.Basic

/-! Reading what was written. An escaped character is read back as itself whatever its class; a text takes the machine from
    one state to another, and what two texts do one after the other they do joined. A document is read as a value in any
    place where a value is expected, so objects may nest. -/

namespace Cloak.Json

/-! ### Strings -/

theorem hexValue?_digitChar {n : Nat} (h : n < 16) : hexValue? (Nat.digitChar n) = some n := by
  have all : ∀ n < 16, hexValue? (Nat.digitChar n) = some n := by decide
  exact all n h

theorem code?_control {n : Nat} (h : n < 0x20) :
    code? '0' '0' (Nat.digitChar (n / 16)) (Nat.digitChar (n % 16)) = some n := by
  have hzero : hexValue? '0' = some 0 := by decide
  have hhigh : hexValue? (Nat.digitChar (n / 16)) = some (n / 16) := hexValue?_digitChar (by omega)
  have hlow : hexValue? (Nat.digitChar (n % 16)) = some (n % 16) := hexValue?_digitChar (by omega)
  simp only [code?, hzero, hhigh, hlow, Option.bind_eq_bind, Option.bind_some, Option.pure_def, Option.some.injEq]
  omega

theorem Unit16.ofCode_control {c : Char} (h : c.toNat < 0x20) : Unit16.ofCode c.toNat = .char c := by
  have hno : ¬ (0xD800 ≤ c.toNat ∧ c.toNat < 0xE000) := by omega
  rw [Unit16.ofCode, if_neg hno, Char.ofNat_toNat]

theorem readString_escape (read : List Unit16) (c : Char) (s : Text) :
    readString read (Document.escape c ++ s) = readString (.char c :: read) s := by
  unfold Document.escape
  split
  · next h => subst h; rfl
  split
  · next h => subst h; rfl
  split
  · next h => subst h; rfl
  split
  · next h => subst h; rfl
  split
  · next h => subst h; rfl
  split
  · next h => subst h; rfl
  split
  · next h => subst h; rfl
  split
  · next h => simp [readString, code?_control h, Unit16.ofCode_control h]
  · next _ hslash _ _ _ _ _ hcontrol => simp [readString, hslash, hcontrol]

theorem readString_flatMap_escape (read : List Unit16) (s rest : Text) :
    readString read (s.flatMap Document.escape ++ '"' :: rest) = some (read.reverse ++ s.map .char, rest) := by
  induction s generalizing read with
  | nil => simp [readString]
  | cons c s ih =>
    rw [List.flatMap_cons, List.append_assoc, readString_escape, ih]
    simp

theorem joinHalves_map_char (read s : Text) : joinHalves read (s.map .char) = some (read.reverse ++ s) := by
  induction s generalizing read with
  | nil => simp [joinHalves]
  | cons c s ih => simp [joinHalves, ih]

/-- A quoted string is read as its text. -/
theorem readToken_quote (s rest : Text) :
    readToken '"' (s.flatMap Document.escape ++ '"' :: rest) = some (.string (some s), rest) := by
  have hjoin := joinHalves_map_char [] s
  simp only [List.reverse_nil, List.nil_append] at hjoin
  simp [readToken, readString_flatMap_escape, hjoin]

/-! ### The machine over texts -/

theorem lexFrom_cons {c : Char} {s rest : Text} {t : Token} (hc : isSpace c = false) (h : readToken c s = some (t, rest))
    (read : List Token) : lexFrom read (c :: s) = lexFrom (t :: read) rest := by
  rw [lexFrom, hc]
  simp only [Bool.false_eq_true, if_false]
  split
  · next hnone => rw [h] at hnone; cases hnone
  · next u r hsome =>
    rw [h] at hsome
    cases hsome
    rfl

/-- The text takes the machine from `m` to `m'`, whatever follows it. -/
def Machine.Takes (s : Text) (m m' : Machine) : Prop :=
  ∃ ts : List Token, (∀ read rest, lexFrom read (s ++ rest) = lexFrom (ts.reverse ++ read) rest) ∧
    ts.foldlM Machine.step m = some m'

namespace Machine
variable {s t : Text} {m m' m'' : Machine}

theorem Takes.append (h : Takes s m m') (h' : Takes t m' m'') : Takes (s ++ t) m m'' := by
  obtain ⟨ts, hlex, hstep⟩ := h
  obtain ⟨us, hlex', hstep'⟩ := h'
  refine ⟨ts ++ us, fun read rest => ?_, ?_⟩
  · rw [List.append_assoc, hlex, hlex', List.reverse_append, List.append_assoc]
  · simp only [List.foldlM_append, hstep, Option.bind_eq_bind, Option.bind_some, hstep']

theorem Takes.token {c : Char} {k : Token} (hc : isSpace c = false)
    (hread : ∀ rest, readToken c (s ++ rest) = some (k, rest)) (h : step m k = some m') : Takes (c :: s) m m' := by
  refine ⟨[k], fun read rest => ?_, by simp [h]⟩
  exact lexFrom_cons hc (hread rest) read

theorem takes_quote (k : Text) (h : step m (.string (some k)) = some m') : Takes (Document.quote k) m m' := by
  refine Takes.token rfl (fun rest => ?_) h
  rw [← readToken_quote]
  simp

theorem takes_openObject (frames : List Frame) :
    Takes ['\x7b'] ⟨.value, frames⟩ ⟨.firstKey, .object [] :: frames⟩ :=
  Takes.token (k := .openObject) rfl (fun _ => rfl) rfl

theorem takes_colon (frames : List Frame) : Takes [':'] ⟨.colon, frames⟩ ⟨.value, frames⟩ :=
  Takes.token (k := .colon) rfl (fun _ => rfl) rfl

theorem takes_comma (v : Value) (key : Option Text) (before : List (Option Text × Value)) (frames : List Frame) :
    Takes [','] ⟨.done v, .member before key :: frames⟩ ⟨.key, .object ((key, v) :: before) :: frames⟩ :=
  Takes.token (k := .comma) rfl (fun _ => rfl) rfl

theorem takes_closeMember (v : Value) (key : Option Text) (before : List (Option Text × Value)) (frames : List Frame) :
    Takes ['\x7d'] ⟨.done v, .member before key :: frames⟩ ⟨.done (.object ((key, v) :: before).reverse), frames⟩ :=
  Takes.token (k := .closeObject) rfl (fun _ => rfl) rfl

theorem takes_closeEmpty (frames : List Frame) :
    Takes ['\x7d'] ⟨.firstKey, .object [] :: frames⟩ ⟨.done (.object []), frames⟩ :=
  Takes.token (k := .closeObject) rfl (fun _ => rfl) rfl

/-- A key is taken in both places where one may stand. -/
theorem takes_key {stage : Stage} (hstage : stage = .key ∨ stage = .firstKey) (k : Text)
    (before : List (Option Text × Value)) (frames : List Frame) :
    Takes (Document.quote k ++ [':']) ⟨stage, .object before :: frames⟩ ⟨.value, .member before (some k) :: frames⟩ := by
  refine (takes_quote k ?_).append (takes_colon _)
  rcases hstage with rfl | rfl
  · rfl
  · cases before <;> rfl

end Machine

/-! ### Documents -/

/-- Wherever a value is expected, the document is read as `v`. -/
def Document.ReadsAs (d : Document) (v : Value) : Prop :=
  ∀ frames, Machine.Takes d.compact ⟨.value, frames⟩ ⟨.done v, frames⟩

namespace Document

theorem readsAs_text (s : Text) : ReadsAs (.text s) (.string (some s)) := fun _ => Machine.takes_quote s rfl

/-- The document under each key is read as the value under that key. -/
def MembersReadAs (members : List (Text × Document)) (values : List (Text × Value)) : Prop :=
  List.Forall₂ (fun m v => m.1 = v.1 ∧ m.2.ReadsAs v.2) members values

/-- Members of an object as they are read: every key has a text. -/
def keyed (values : List (Text × Value)) : List (Option Text × Value) := values.map fun v => (some v.1, v.2)

/-- Members that begin after `before` are read up to the closing brace. -/
theorem takes_members {members : List (Text × Document)} {values : List (Text × Value)}
    (h : MembersReadAs members values) (hne : members ≠ []) {stage : Stage} (hstage : stage = .key ∨ stage = .firstKey)
    (before : List (Option Text × Value)) (frames : List Frame) :
    Machine.Takes (compactMembers members ++ ['\x7d']) ⟨stage, .object before :: frames⟩
      ⟨.done (.object (before.reverse ++ keyed values)), frames⟩ := by
  induction h generalizing stage before with
  | nil => exact absurd rfl hne
  | @cons m v members values hmv hrest ih =>
    obtain ⟨key, d⟩ := m
    obtain ⟨k, v⟩ := v
    obtain ⟨rfl, hd⟩ := hmv
    have hvalue := (Machine.takes_key hstage key before frames).append (hd _)
    cases hrest with
    | nil =>
      have hclose := hvalue.append (Machine.takes_closeMember v (some key) before frames)
      simpa [compactMembers, keyed] using hclose
    | @cons m' v' members values hmv' hrest =>
      have hcomma := hvalue.append (Machine.takes_comma v (some key) before frames)
      have hall := hcomma.append (ih (List.cons_ne_nil m' members) (Or.inl rfl) ((some key, v) :: before))
      simpa [compactMembers, keyed] using hall

theorem readsAs_object {members : List (Text × Document)} {values : List (Text × Value)}
    (h : MembersReadAs members values) : ReadsAs (.object members) (.object (keyed values)) := by
  intro frames
  by_cases hne : members = []
  · subst hne
    cases h
    exact (Machine.takes_openObject frames).append (Machine.takes_closeEmpty frames)
  · have hmembers := takes_members h hne (Or.inr rfl) [] frames
    simpa [compact] using (Machine.takes_openObject frames).append hmembers

/-- The text of a document, read as a whole. -/
theorem ReadsAs.read? {d : Document} {v : Value} (h : d.ReadsAs v) : Value.read? d.compact = some v := by
  obtain ⟨ts, hlex, hstep⟩ := h []
  have htokens : lex d.compact = some ts := by
    have := hlex [] []
    rw [List.append_nil, List.append_nil] at this
    rw [lex, this, lexFrom, List.reverse_reverse]
  simp [Value.read?, htokens, Value.ofTokens?, hstep, Machine.result?]

end Document
end Cloak.Json
