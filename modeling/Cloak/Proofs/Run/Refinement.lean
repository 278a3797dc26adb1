import Cloak.Proofs.Run.Plan

/-! A run against the obfuscation of a text. With collaborators that answer as was laid down, a rehearsed run fails as its plan does,
    with nothing changed, or ends as the write of its output does. -/

namespace Cloak.Rehearsal

section
variable {σ : Type} [WordSource σ]

theorem answering_collaborators (source : Except Error Text) (signatures : Except Error (List Signature)) (seed : Except Error Nat)
    (l : Limits) (disk : Disk) (input : Path) (files : FileTree) :
    Answering (collaborators source signatures seed l disk) l disk input files source signatures seed where
  strips := settles_pure source
  lists := settles_pure signatures
  seeds := settles_pure seed
  writes := writes_write l disk Error.file
  logs := keepsFiles_log

theorem run_follows_plan (source : Except Error Text) (signatures : Except Error (List Signature)) (seed : Except Error Nat)
    (l : Limits) (disk : Disk) (engine : Engine) (names : Registry σ) (input : Path) (files : FileTree) :
    Follows (run (collaborators source signatures seed l disk) engine names input) files (store l disk)
      (plan source signatures seed engine names input) :=
  (answering_collaborators source signatures seed l disk input files).run_follows engine names

/-- A rehearsed run fails with the first failing step of its plan, and then leaves the files as they were. If none fails, the run
    ends as the write of the output does: the one name under which something else can stand than before is that of the output
    path, where the text of the obfuscation can be read if the run succeeds. The report carries the numbers of that
    obfuscation. -/
theorem run_refines_obfuscate (source : Except Error Text) (signatures : Except Error (List Signature))
    (seed : Except Error Nat) (engine : Engine) (names : Registry σ) (input : Path) (l : Limits) (disk : Disk)
    (world : Rehearsal) :
    let planned := plan source signatures seed engine names input
    let (result, after) := (run (collaborators source signatures seed l disk) engine names input).run world
    (∀ e, planned = .error e → result = .error e ∧ after.files = world.files) ∧
      ∀ report text, planned = .ok (report, text) →
        (result, after.files) = store l disk (report, text) world.files ∧
        Stored l world.files report text result after.files ∧
        ∃ stripped listed obfuscated rest, source = .ok stripped ∧ signatures = .ok listed ∧ seed = .ok report.seed ∧
          engine.obfuscate stripped listed input names = some (obfuscated, rest) ∧
          outputPath input report.seed = .ok report.output ∧ text = obfuscated.text ∧
          report.input = input ∧ report.mappings = obfuscated.mappings ∧ report.replaced = obfuscated.replaced ∧
          ∀ c, report.symbols c = (obfuscated.mappings.table c).size := by
  obtain ⟨after, hrun, hfiles⟩ := run_follows_plan source signatures seed l disk engine names input world.files world rfl
  simp only [hrun]
  constructor
  · intro e hplan
    rw [hplan] at hfiles ⊢
    exact ⟨rfl, hfiles⟩
  · intro report text hplan
    rw [hplan] at hfiles ⊢
    obtain ⟨stripped, listed, obfuscated, rest, hsource, hsignatures, hseed, hobfuscate, hpath, htext, hinput, hmappings,
      hreplaced⟩ := plan_eq_ok hplan
    refine ⟨Prod.ext rfl hfiles, ?_, stripped, listed, obfuscated, rest, hsource, hsignatures, hseed, hobfuscate, hpath, htext,
      hinput, hmappings, hreplaced, fun c => ?_⟩
    · rw [hfiles]
      exact stored_store hpath l disk world.files text
    · rw [Report.symbols, hmappings]

end

theorem Stored.read_of_toBool {l : Limits} {files files' : FileTree} {report : Report} {text : Text} {result : Except Error Report}
    (h : Stored l files report text result files') (hok : result.toBool = true) :
    result = .ok report ∧ files'.read l report.output = .ok (Utf8.encode text) := by
  cases h with
  | refused fault => cases hok
  | stopped fault => cases hok
  | done _ _ hread => exact ⟨rfl, hread⟩

/-- A world with one file in a directory. -/
def sampleWorld : Rehearsal := { files := ⟨[(["d".toUTF8.toList, "a.c".toUTF8.toList], some "int x;//".toUTF8.toList)]⟩ }

/-- A registry whose words all begin with a letter. -/
def sampleNames : Registry WordStream := .ofSource ⟨fun n => 0xa0 + n.toUInt32⟩

/-- A run that writes the file beside its input. -/
theorem run_refines_obfuscate_sample :
    ∃ report after obfuscated rest,
      (run (collaborators (.ok "int x;".toList) (.ok []) (.ok 12345)) {} sampleNames (Path.ofText "d/a.c".toList)).run
        sampleWorld = (.ok report, after) ∧
      report.output = Path.ofText "d/a12345.c".toList ∧
      ({} : Engine).obfuscate "int x;".toList [] (Path.ofText "d/a.c".toList) sampleNames = some (obfuscated, rest) ∧
      after.files.read {} report.output = .ok (Utf8.encode obfuscated.text) := by
  have hplan : (plan (.ok "int x;".toList) (.ok []) (.ok 12345) {} sampleNames
      (Path.ofText "d/a.c".toList)).toOption.any (fun p => decide (p.1.output = Path.ofText "d/a12345.c".toList) &&
        (store {} .ample p sampleWorld.files).1.toBool) = true := by
    decide +kernel
  obtain ⟨-, hsuccess⟩ := run_refines_obfuscate (.ok "int x;".toList) (.ok []) (.ok 12345) {} sampleNames
    (Path.ofText "d/a.c".toList) {} .ample sampleWorld
  revert hplan hsuccess
  cases plan (.ok "int x;".toList) (.ok []) (.ok 12345) {} sampleNames (Path.ofText "d/a.c".toList) with
  | error e => exact fun h => nomatch h
  | ok planned =>
    intro hplan hsuccess
    obtain ⟨report, text⟩ := planned
    obtain ⟨houtput, hok⟩ := Bool.and_eq_true_iff.mp hplan
    obtain ⟨hstore, hstored, stripped, listed, obfuscated, rest, htext, hlisted, -, hobfuscate, -, rfl, -⟩ :=
      hsuccess report text rfl
    cases htext
    cases hlisted
    obtain ⟨hresult, hread⟩ := hstored.read_of_toBool ((congrArg (·.1.toBool) hstore).trans hok)
    exact ⟨report, _, obfuscated, rest, Prod.ext hresult rfl, of_decide_eq_true houtput, hobfuscate, hread⟩

end Cloak.Rehearsal
