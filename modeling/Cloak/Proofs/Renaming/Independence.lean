import Cloak.Proofs.Compaction.Spelling
import Cloak.Proofs.Renaming.Blueprint
import Cloak.Proofs.Symbol.Provenance

/-! What the source of words decides in an obfuscation: the spelling of names and nothing else. Where no name stands in the
    source or in the name of a function, two runs fill tables of the same symbols, replace as often in each category, and
    write one skeleton under two code books. -/

namespace Cloak

/-! ### Code books in which no name is mistaken -/

section
variable {source : Text} {signatures : List Signature}

/-- Functions that are identifiers with a letter that no name has. -/
def Recognizable (signatures : List Signature) : Prop :=
  ∀ s ∈ signatures, ∀ f ∈ s.name?, isIdentifier f = true ∧ ∃ c ∈ f, isHexDigit c = false

/-- No name of the code book stands in the source or in the name of a function. -/
def Mappings.Absent (m : Mappings) (source : Text) (signatures : List Signature) : Prop :=
  ∀ name ∈ m.names, ¬ name <:+: source ∧ ∀ s ∈ signatures, ∀ f ∈ s.name?, ¬ name <:+: f

instance (signatures : List Signature) : Decidable (Recognizable signatures) :=
  decidable_of_iff (∀ s ∈ signatures, ∀ f ∈ s.name?, isIdentifier f = true ∧ f.any (!isHexDigit ·) = true)
    (by simp only [Recognizable, List.any_eq_true, Bool.not_eq_true'])

instance (m : Mappings) (source : Text) (signatures : List Signature) : Decidable (m.Absent source signatures) :=
  inferInstanceAs
    (Decidable (∀ name ∈ m.names, ¬ name <:+: source ∧ ∀ s ∈ signatures, ∀ f ∈ s.name?, ¬ name <:+: f))

theorem Mappings.Regular.unmistakable {m : Mappings} (hm : m.Regular source signatures) (hf : Recognizable signatures)
    (habsent : m.Absent source signatures) : m.Unmistakable := by
  refine ⟨hm.form, fun c x hx => ?_, fun name hn c x hx => ?_, fun c hc f hx => ?_, fun hx => ?_⟩
  · cases hm.provenance hx with
    | varName h => exact isWordText_of_isIdentifier h.identifier
    | macroName h => exact isWordText_of_isIdentifier h.identifier
    | keyword h => exact (mem_defaultKeywords_cases h).1
    | localFunction hs h => exact isWordText_of_isIdentifier (hf _ hs x h).1
    | libraryFunction hs h => exact isWordText_of_isIdentifier (hf _ hs x h).1
    | entryPoint => exact ⟨by decide, forall_of_all (by decide)⟩
  · obtain ⟨hsource, hfunction⟩ := habsent name hn
    have hshort := not_infix_of_length_lt (hm.form name hn) (x := x)
    cases hm.provenance hx with
    | varName h => exact fun hin => hsource (hin.trans h.stands)
    | macroName h => exact fun hin => hsource (hin.trans h.stands)
    | keyword h => exact hshort (mem_defaultKeywords_cases h).2.1
    | localFunction hs h => exact hfunction _ hs x h
    | libraryFunction hs h => exact hfunction _ hs x h
    | entryPoint => exact hshort (by decide)
  · cases hm.provenance hx with
    | localFunction hs h => exact (hf _ hs f h).2
    | libraryFunction hs h => exact (hf _ hs f h).2
    | entryPoint => exact ⟨'m', by decide, by decide⟩
    | _ => rcases hc with hc | hc <;> cases hc
  · cases hm.provenance hx with
    | keyword h => exact (mem_defaultKeywords_cases h).2.2 rfl

end

/-! ### Rendering from the blueprint -/

namespace Skeleton

/-- The skeleton as an engine lays it out. -/
def layout (e : Engine) (k : Skeleton) : Skeleton := if e.compactWhitespace then compact k else k

theorem length_spell {m n : Mappings} {k : Skeleton} (hm : Named m k) (hn : Named n k) :
    (spell m k).length = (spell n k).length := by
  induction k with
  | nil => rfl
  | cons t k ih =>
    rw [spell_cons, spell_cons, List.length_append, List.length_append, ih hm.tail hn.tail, Nat.add_right_cancel_iff]
    cases t with
    | char c => rfl
    | ref category symbol =>
      obtain ⟨name, hfind, hform⟩ := hm category symbol List.mem_cons_self
      obtain ⟨name', hfind', hform'⟩ := hn category symbol List.mem_cons_self
      rw [Token.spell, Token.spell, hfind, hfind', Option.getD_some, Option.getD_some, (isOpaqueName_iff.mp hform).1,
        (isOpaqueName_iff.mp hform').1]

end Skeleton

theorem render_eq_blueprint {m : Mappings} (hm : m.Unmistakable) (e : Engine) (source : Text) :
    (e.render m source).text = ((blueprint m.symbols source).skeleton.layout e).spell m ∧
      (e.render m source).replaced = (blueprint m.symbols source).replaced ∧
      ∀ category symbol, Token.ref category symbol ∈ (blueprint m.symbols source).skeleton.layout e →
        symbol ∈ m.symbols category := by
  obtain ⟨htext, hreplaced, hformed⟩ := substitute_eq_blueprint hm source
  cases hc : e.compactWhitespace with
  | false =>
    refine ⟨?_, hreplaced, ?_⟩
    · simp only [Engine.render, Skeleton.layout, hc, Bool.false_eq_true, if_false, htext]
    · simp only [Skeleton.layout, hc, Bool.false_eq_true, if_false]
      exact hformed.refs
  | true =>
    refine ⟨?_, hreplaced, ?_⟩
    · simp only [Engine.render, Skeleton.layout, hc, if_true, htext]
      exact Skeleton.compact_spell (hformed.named hm)
    · simp only [Skeleton.layout, hc, if_true]
      exact fun category symbol h => hformed.refs category symbol (Skeleton.mem_of_ref_mem_compact h)

/-! ### Two runs -/

section
variable {σ τ : Type} [WordSource σ] [WordSource τ] {source : Text} {signatures : List Signature} {path : Path}

/-- A run in which no name can be mistaken has tables of the demanded symbols and writes their blueprint. -/
theorem unmistakable_of_obfuscate {e : Engine} (he : e.keywords = defaultKeywords) (hf : Recognizable signatures) {g : σ}
    {o : Obfuscated} {r : Registry σ} (h : e.obfuscate source signatures path (Registry.ofSource g) = some (o, r))
    (habsent : o.mappings.Absent source signatures) :
    o.mappings.Unmistakable ∧ o = e.render o.mappings source ∧
      ∀ c, o.mappings.symbols c =
        if c = .localFunction then (symbolsOf c (demands defaultKeywords source signatures path)).filter (· ≠ entryPoint)
        else symbolsOf c (demands defaultKeywords source signatures path) := by
  obtain ⟨hm, ho⟩ := regular_of_obfuscate he h
  refine ⟨hm.unmistakable hf habsent, ho, ?_⟩
  obtain ⟨names, hd, rfl⟩ := obfuscate_eq_some h
  rw [he] at hd ⊢
  exact symbols_codebook (length_of_drawNames hd)

/-- Two runs differ in the spelling of names only. -/
theorem obfuscate_eq_up_to_spelling {compactWhitespace : Bool} (hf : Recognizable signatures) {g : σ} {o : Obfuscated}
    {r : Registry σ} (h : ({ compactWhitespace } : Engine).obfuscate source signatures path (Registry.ofSource g) = some (o, r))
    (habsent : o.mappings.Absent source signatures) {g' : τ} {o' : Obfuscated} {r' : Registry τ}
    (h' : ({ compactWhitespace } : Engine).obfuscate source signatures path (Registry.ofSource g') = some (o', r'))
    (habsent' : o'.mappings.Absent source signatures) :
    (∀ c, (o.mappings.table c).symbols = (o'.mappings.table c).symbols) ∧ o.replaced = o'.replaced ∧
      o.text.length = o'.text.length ∧
      ∃ k : Skeleton, (∀ c x, Token.ref c x ∈ k → x ∈ (o.mappings.table c).symbols) ∧
        o.text = k.spell o.mappings ∧ o'.text = k.spell o'.mappings := by
  obtain ⟨hm, ho, hsymbols⟩ := unmistakable_of_obfuscate rfl hf h habsent
  obtain ⟨hm', ho', hsymbols'⟩ := unmistakable_of_obfuscate rfl hf h' habsent'
  have hsame : o.mappings.symbols = o'.mappings.symbols := funext fun c => (hsymbols c).trans (hsymbols' c).symm
  obtain ⟨htext, hreplaced, hrefs⟩ := render_eq_blueprint hm { compactWhitespace } source
  obtain ⟨htext', hreplaced', hrefs'⟩ := render_eq_blueprint hm' { compactWhitespace } source
  rw [← ho] at htext hreplaced
  rw [← ho', ← hsame] at htext' hreplaced'
  rw [← hsame] at hrefs'
  refine ⟨congrFun hsame, hreplaced.trans hreplaced'.symm, ?_, _, hrefs, htext, htext'⟩
  rw [htext, htext']
  exact Skeleton.length_spell (Skeleton.named_of_refs hm hrefs) (Skeleton.named_of_refs hm' (hsame ▸ hrefs'))

end

/-- A source with strings, a local and a library function. -/
def sampleSource : Text := "int sum (int y)\n\x7b\n  puts (\"y\");\n  return sum (y) + y;\n\x7d\n".toList

def sampleSignatures : List Signature :=
  [⟨"extern int sum (int);".toList, ⟨[97]⟩⟩, ⟨"extern int puts (char*);".toList, ⟨[108]⟩⟩]

/-- A run of the sample in which no name stands in the source or in a function. -/
def IsSampleRun (words : Nat → UInt32) (o : Obfuscated) : Prop :=
  (∃ r : Registry WordStream,
    ({} : Engine).obfuscate sampleSource sampleSignatures ⟨[97]⟩ (Registry.ofSource ⟨words⟩) = some (o, r)) ∧
    o.mappings.Absent sampleSource sampleSignatures

theorem exists_isSampleRun (words : Nat → UInt32)
    (h : (({} : Engine).obfuscate sampleSource sampleSignatures ⟨[97]⟩ (Registry.ofSource (⟨words⟩ : WordStream))).any
      (fun p => decide (p.1.mappings.Absent sampleSource sampleSignatures)) = true) : ∃ o, IsSampleRun words o := by
  obtain ⟨⟨o, r⟩, hrun, habsent⟩ := (Option.any_eq_true _ _).mp h
  exact ⟨o, ⟨r, hrun⟩, of_decide_eq_true habsent⟩

theorem obfuscate_eq_up_to_spelling_sample :
    ∃ o o', IsSampleRun (fun n => 0xa0 + n.toUInt32) o ∧ IsSampleRun (fun n => 0xd0 + 256 * n.toUInt32) o' ∧
      (∀ c, (o.mappings.table c).symbols = (o'.mappings.table c).symbols) ∧ o.replaced = o'.replaced ∧
      o.text.length = o'.text.length ∧
      ∃ k : Skeleton, (∀ c x, Token.ref c x ∈ k → x ∈ (o.mappings.table c).symbols) ∧
        o.text = k.spell o.mappings ∧ o'.text = k.spell o'.mappings := by
  have hf : Recognizable sampleSignatures := by decide +kernel
  obtain ⟨o, ⟨r, h⟩, habsent⟩ := exists_isSampleRun (fun n => 0xa0 + n.toUInt32) (by decide +kernel)
  obtain ⟨o', ⟨r', h'⟩, habsent'⟩ := exists_isSampleRun (fun n => 0xd0 + 256 * n.toUInt32) (by decide +kernel)
  exact ⟨o, o', ⟨⟨r, h⟩, habsent⟩, ⟨⟨r', h'⟩, habsent'⟩, obfuscate_eq_up_to_spelling hf h habsent h' habsent'⟩

end Cloak
