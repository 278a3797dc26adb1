import Cloak.Command.Options
import Cloak.Proofs.Path.SeededName
import Cloak.Run

/-! The name of an output file, from the command line on. A configuration is checked after the command line is laid on top of the
    file, so whatever the two say, its seeds are numbers of five digits and there is at least one. -/

namespace Cloak

/-! ### Seeds of a checked configuration -/

theorem SeedRange.contains_iff {r : SeedRange} {seed : Nat} : r.contains seed = true ↔ r.min ≤ seed ∧ seed ≤ r.max := decide_eq_true_iff

theorem Config.range_of_validate {c : Config} (h : c.validate = .ok ()) :
    10000 ≤ c.seed.range.min ∧ c.seed.range.min ≤ c.seed.range.max ∧ c.seed.range.max ≤ 99999 := by
  unfold validate at h
  split at h
  · cases h
  split at h
  · cases h
  next hdigits =>
  split at h
  · cases h
  next horder =>
  rw [Bool.not_eq_true', Bool.not_eq_false, Bool.and_eq_true, SeedRange.contains_iff, SeedRange.contains_iff] at hdigits
  exact ⟨hdigits.1.1, Nat.le_of_not_lt horder, hdigits.2.2⟩

theorem Config.validate_of_checked {c d : Config} (h : c.checked = .ok d) : d.validate = .ok () := by
  unfold checked at h
  split at h
  · next hvalid =>
    cases h
    exact hvalid
  · cases h

/-- The seed comes from the body of an answer, or a random number picks it. -/
def Seed.IsOffered (range : SeedRange) (seed : Nat) : Prop :=
  (∃ body, parse range body = .ok seed) ∨ ∃ random, pick? range random = some seed

theorem Seed.contains_of_isOffered {range : SeedRange} {seed : Nat} (h : IsOffered range seed) : range.contains seed = true := by
  rcases h with ⟨body, h⟩ | ⟨random, h⟩
  · unfold parse at h
    split at h
    · cases h
    split at h
    · next hin =>
      cases h
      exact hin
    · cases h
  · unfold pick? at h
    split at h
    · next horder =>
      cases h
      have : random % (range.max - range.min + 1) < range.max - range.min + 1 := Nat.mod_lt _ (Nat.succ_pos _)
      rw [SeedRange.contains_iff]
      omega
    · cases h

namespace Command

theorem Options.checked_of_resolve {o : Options} {file : Option (Except FileFault Bytes)} {config : Config}
    (h : o.resolve file = .ok config) : ∃ c, (o.overlay c).checked = .ok config := by
  rcases file with _ | fault | contents
  · exact ⟨{}, h⟩
  · cases h
  · obtain ⟨c, -, hchecked⟩ := exists_of_bind_eq_ok (x := Config.ofFile contents) h
    exact ⟨c, hchecked⟩

/-- Whatever the command line and the configuration file say, if they are accepted there is a seed, every seed has five digits,
    and the output of a file whose name is UTF-8 has that name with the digits of the seed in it, in the same directory. -/
theorem resolve_names_output {o : Options} {file : Option (Except FileFault Bytes)} {config : Config}
    (h : o.resolve file = .ok config) :
    10000 ≤ config.seed.range.min ∧ config.seed.range.min ≤ config.seed.range.max ∧ config.seed.range.max ≤ 99999 ∧
    (∀ random, (Seed.pick? config.seed.range random).isSome = true) ∧
    ∀ seed, Seed.IsOffered config.seed.range seed → ∀ input name, input.fileName? = some name → (Utf8.decode? name).isSome = true →
      ∃ output digits seeded directory, outputPath input seed = .ok output ∧ output.fileName? = some seeded ∧
        digits.length = 5 ∧ SpellsDecimal digits seed ∧ Path.Seeded digits name seeded ∧
        input.components = directory ++ [.normal name] ∧ output.components = directory ++ [.normal seeded] := by
  obtain ⟨c, hchecked⟩ := Options.checked_of_resolve h
  obtain ⟨hmin, horder, hmax⟩ := Config.range_of_validate (Config.validate_of_checked hchecked)
  refine ⟨hmin, horder, hmax, fun random => by rw [Seed.pick?, if_pos horder]; rfl, ?_⟩
  intro seed hseed input name hname hutf8
  have hin := SeedRange.contains_iff.mp (Seed.contains_of_isOffered hseed)
  obtain ⟨output, seeded, directory, houtput, hlast, hseeded, hdirectory⟩ :=
    Path.output?_of_isUtf8 hname (Utf8.isSome_decode?_iff.mp hutf8) seed
  refine ⟨output, Utf8.encode (Text.decimal seed), seeded, directory, ?_, hlast, ?_, spellsDecimal_encode seed, hseeded, hdirectory⟩
  · rw [outputPath, houtput]
  · exact length_encode_decimal (by omega) (by omega)

/-- A file sets the least seed, and the file name has two dots. -/
theorem resolve_names_output_sample :
    ∃ config output, ({ compiler := some "cc".toList } : Options).resolve
        (some (.ok (bytesOf "\x7b\"seed\":\x7b\"min\":12345\x7d\x7d"))) = .ok config ∧
      Seed.parse config.seed.range " 54321\n".toList = .ok 54321 ∧ outputPath ⟨bytesOf "d/a.b.c"⟩ 54321 = .ok output ∧
      ∃ digits seeded, output.fileName? = some seeded ∧ digits.length = 5 ∧ SpellsDecimal digits 54321 ∧
        Path.Seeded digits (bytesOf "a.b.c") seeded := by
  have hresolve : (({ compiler := some "cc".toList } : Options).resolve
      (some (.ok (bytesOf "\x7b\"seed\":\x7b\"min\":12345\x7d\x7d")))).toOption.any
        (fun c => decide (c.seed.range = ⟨12345, 99999⟩)) = true := by decide +kernel
  revert hresolve
  rcases hconfig : Options.resolve _ _ with e | config
  · intro hresolve
    cases hresolve
  intro hrange
  have hseed : Seed.parse config.seed.range " 54321\n".toList = .ok 54321 := by
    rw [of_decide_eq_true hrange]
    rfl
  obtain ⟨-, -, -, -, hnames⟩ := resolve_names_output hconfig
  obtain ⟨output, digits, seeded, -, houtput, hlast, hlength, hdigits, hseeded, -⟩ :=
    hnames 54321 (.inl ⟨_, hseed⟩) ⟨bytesOf "d/a.b.c"⟩ (bytesOf "a.b.c") (by decide +kernel) (by decide +kernel)
  exact ⟨config, output, rfl, hseed, houtput, digits, seeded, hlast, hlength, hdigits, hseeded⟩

end Command
end Cloak
