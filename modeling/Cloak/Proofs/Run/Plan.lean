import Cloak.Proofs.Name.Drawing
import Cloak.Proofs.Path.Output
import Cloak.Rehearsal

/-! A run against its plan. The run harvests, asks for the signatures, classifies and renders in steps of its own, with something
    logged between them; `plan` obfuscates the text at once and leaves only the write to be done. Every step before the write
    leaves the files as they are, whatever the collaborators answer, so a rehearsed run fails as its plan does or ends as the
    write does. -/

namespace Cloak.Rehearsal

variable {ε α β : Type} {files files₁ files₂ : FileTree}

/-- From these files, the computation has this outcome and leaves the files `files'`. -/
def Ends (x : ExceptT ε (StateM Rehearsal) α) (files : FileTree) (outcome : Except ε α) (files' : FileTree) : Prop :=
  ∀ w : Rehearsal, w.files = files → ∃ w' : Rehearsal, x.run w = (outcome, w') ∧ w'.files = files'

/-- The step has this outcome, and the files stay as they are. -/
def Settles (x : ExceptT ε (StateM Rehearsal) α) (files : FileTree) (outcome : Except ε α) : Prop := Ends x files outcome files

/-- One step and then another, each with its outcome and the files after it. If the first fails, that is all. -/
def chain (first : Except ε α × FileTree) (next : α → FileTree → Except ε β × FileTree) : Except ε β × FileTree :=
  match first with
  | (.error e, files) => (.error e, files)
  | (.ok a, files) => next a files

/-- From these files, the computation fails as the plan does, with the files as they are, or ends as its last step does. -/
def Follows (x : ExceptT ε (StateM Rehearsal) α) (files : FileTree) (last : β → FileTree → Except ε α × FileTree)
    (plan : Except ε β) : Prop :=
  Ends x files (chain (plan, files) last).1 (chain (plan, files) last).2

section
variable {γ : Type} {x : ExceptT ε (StateM Rehearsal) α} {f : α → ExceptT ε (StateM Rehearsal) β}
  {last : γ → FileTree → Except ε β × FileTree}

theorem Ends.bind {a : α} {outcome : Except ε β} (hx : Ends x files (.ok a) files₁) (hf : Ends (f a) files₁ outcome files₂) :
    Ends (x >>= f) files outcome files₂ := by
  intro w hw
  obtain ⟨w₁, hrun, hfiles⟩ := hx w hw
  obtain ⟨w₂, hrest, hdone⟩ := hf w₁ hfiles
  refine ⟨w₂, ?_, hdone⟩
  show (fun p : Except ε α × Rehearsal => (ExceptT.bindCont f p.1 : StateM Rehearsal _) p.2) (x.run w) = _
  rw [hrun]
  exact hrest

theorem Ends.bind_error {e : ε} (hx : Ends x files (.error e) files₁) : Ends (x >>= f) files (.error e) files₁ := by
  intro w hw
  obtain ⟨w₁, hrun, hfiles⟩ := hx w hw
  refine ⟨w₁, ?_, hfiles⟩
  show (fun p : Except ε α × Rehearsal => (ExceptT.bindCont f p.1 : StateM Rehearsal _) p.2) (x.run w) = _
  rw [hrun]
  rfl

theorem Ends.chain {first : Except ε α × FileTree} {next : α → FileTree → Except ε β × FileTree} (hx : Ends x files first.1 first.2)
    (hf : ∀ a, Ends (f a) first.2 (next a first.2).1 (next a first.2).2) :
    Ends (x >>= f) files (Rehearsal.chain first next).1 (Rehearsal.chain first next).2 := by
  obtain ⟨outcome, files₁⟩ := first
  cases outcome with
  | error e => exact hx.bind_error
  | ok a => exact hx.bind (hf a)

theorem Follows.bind {outcome : Except ε α} {plan : α → Except ε γ} (hx : Settles x files outcome)
    (hf : ∀ a, outcome = .ok a → Follows (f a) files last (plan a)) : Follows (x >>= f) files last (outcome >>= plan) := by
  cases outcome with
  | error e => exact Ends.bind_error hx
  | ok a => exact Ends.bind hx (hf a rfl)

/-- A step that has to succeed and says nothing is no part of the plan. -/
theorem Follows.skip {x : ExceptT ε (StateM Rehearsal) Unit} {f : Unit → ExceptT ε (StateM Rehearsal) β}
    {plan : Except ε γ} (hx : Settles x files (.ok ())) (hf : Follows (f ()) files last plan) : Follows (x >>= f) files last plan :=
  Ends.bind hx hf

end

theorem settles_pure (outcome : Except ε α) : Settles (ExceptT.mk (pure outcome)) files outcome :=
  fun w hw => ⟨w, rfl, hw⟩

theorem ends_lift {x : StateM Rehearsal α} {a : α} (h : ∀ w, w.files = files → ∃ w', x w = (a, w') ∧ w'.files = files₁) :
    Ends (ε := ε) (liftM x) files (.ok a) files₁ := by
  intro w hw
  obtain ⟨w', hrun, hfiles⟩ := h w hw
  refine ⟨w', ?_, hfiles⟩
  show (fun p : α × Rehearsal => ((.ok p.1 : Except ε α), p.2)) (x w) = _
  rw [hrun]

section
variable {log : Event → StateM Rehearsal Unit}

/-- Logging an event leaves the files as they are. -/
def KeepsFiles (log : Event → StateM Rehearsal Unit) : Prop := ∀ e w, (log e w).2.files = w.files

theorem KeepsFiles.settles (h : KeepsFiles log) (e : Event) : Settles (ε := ε) (liftM (log e)) files (.ok ()) :=
  ends_lift fun w hw => ⟨_, rfl, (h e w).trans hw⟩

theorem KeepsFiles.loop (h : KeepsFiles log) (event : α → Event) (l : List α) (w : Rehearsal) :
    ((forIn l PUnit.unit fun a _ => do
      log (event a)
      pure (ForInStep.yield PUnit.unit) : StateM Rehearsal PUnit) w).2.files = w.files := by
  induction l generalizing w with
  | nil => rfl
  | cons a l ih =>
    rw [List.forIn_cons]
    exact (ih (log (event a) w).2).trans (h (event a) w)

theorem KeepsFiles.settles_forIn (h : KeepsFiles log) (event : α → Event) (l : List α) :
    Settles (ε := ε) (forIn l PUnit.unit fun a _ => do
      liftM (log (event a))
      pure (ForInStep.yield PUnit.unit)) files (.ok ()) := by
  induction l with
  | nil => exact fun w hw => ⟨w, rfl, hw⟩
  | cons a l ih =>
    rw [List.forIn_cons, bind_assoc]
    exact Ends.bind (h.settles (event a)) ih

theorem KeepsFiles.settles_logHarvest (h : KeepsFiles log) (source : Text) (mappings : Mappings) :
    Settles (ε := ε) (liftM (logHarvest log source mappings)) files (.ok ()) := by
  refine ends_lift fun w hw => ⟨_, rfl, ?_⟩
  exact (h _ _).trans ((h _ _).trans ((h _ _).trans ((h.loop _ _ w).trans hw)))

theorem keepsFiles_log : KeepsFiles Rehearsal.log := fun _ _ => rfl

end

/-! ### Drawing names -/

section
variable {σ : Type}

/-- The names drawn, unless they run out. -/
def drawn (act : Naming σ α) (r : Registry σ) : Except Error (α × Registry σ) :=
  match act.run r with
  | some result => .ok result
  | none => .error .noFreshName

theorem settles_issue (act : Naming σ α) (r : Registry σ) : Settles (issue act r) files (drawn act r) := by
  intro w hw
  unfold issue drawn
  cases act.run r with
  | none => exact ⟨w, rfl, hw⟩
  | some result => exact ⟨w, rfl, hw⟩

theorem ends_liftExcept (outcome : Except Error α) : Settles (run.liftExcept outcome) files outcome := by
  intro w hw
  cases outcome with
  | error e => exact ⟨w, rfl, hw⟩
  | ok a => exact ⟨w, rfl, hw⟩

theorem drawn_eq_ok {act : Naming σ α} {r : Registry σ} {result : α × Registry σ} (h : drawn act r = .ok result) :
    act.run r = some result := by
  unfold drawn at h
  split at h
  · next hrun =>
    cases h
    exact hrun
  · cases h

variable [WordSource σ]

/-- Once the names of a text are drawn, the obfuscation goes on as the classification of its functions does. -/
theorem drawn_obfuscate_bind {engine : Engine} {text : Text} {names rest : Registry σ} {mappings : Mappings}
    (h : drawn (harvest engine.keywords text) names = .ok (mappings, rest)) (listed : List Signature) (input : Path)
    (next : Obfuscated × Registry σ → Except Error β) :
    drawn (engine.obfuscate text listed input) names >>= next = drawn (classify listed input) rest >>= fun p =>
      next (engine.render { mappings with localFunctions := p.1.locals, libraryFunctions := p.1.library } text, p.2) := by
  have hrun : (engine.obfuscate text listed input).run names = ((classify listed input).run rest).bind fun p =>
      some (engine.render { mappings with localFunctions := p.1.locals, libraryFunctions := p.1.library } text, p.2) := by
    show ((harvest engine.keywords text).run names).bind _ = _
    rw [drawn_eq_ok h]
    rfl
  unfold drawn
  rw [hrun]
  cases (classify listed input).run rest <;> rfl

end

/-! ### Writing -/

/-- Writing ends as it does in the tree, and changes the files likewise. -/
def Writes (l : Limits) (disk : Disk) (put : Path → Bytes → ExceptT ε (StateM Rehearsal) Unit) (fail : FileFault → ε) : Prop :=
  ∀ p contents files, Ends (put p contents) files ((files.write l disk p contents).1.mapError fail)
    (files.write l disk p contents).2

theorem writes_write (l : Limits) (disk : Disk) (fail : FileFault → ε) :
    Writes l disk (fun p contents => ExceptT.mk do return (← write l disk p contents).mapError fail) fail := by
  rintro p contents files w rfl
  exact ⟨_, rfl, rfl⟩

/-! ### The plan -/

section
variable {σ : Type} [WordSource σ]

/-- What a run is to do before it writes: the steps that can fail, in their order, then its report and the text to be written. -/
def plan (source : Except Error Text) (signatures : Except Error (List Signature)) (seed : Except Error Nat)
    (engine : Engine) (names : Registry σ) (input : Path) : Except Error (Report × Text) := do
  let text ← source
  let _ ← drawn (harvest engine.keywords text) names
  let listed ← signatures
  let (obfuscated, _) ← drawn (engine.obfuscate text listed input) names
  let seed ← seed
  let output ← outputPath input seed
  return ({ input, output, seed, replaced := obfuscated.replaced, mappings := obfuscated.mappings }, obfuscated.text)

/-- The last step of a run: the text goes to the output file. -/
def store (l : Limits) (disk : Disk) (planned : Report × Text) (files : FileTree) : Except Error Report × FileTree :=
  let (outcome, files) := files.write l disk planned.1.output (Utf8.encode planned.2)
  ((outcome.map fun _ => planned.1).mapError Error.file, files)

/-- What the last step of a run comes to: the output is not opened, its write stops, where a disk that takes everything has it done,
    or the text stands there. But for the output, the files are as before. -/
inductive Stored (l : Limits) (files : FileTree) (report : Report) (text : Text) : Except Error Report → FileTree → Prop where
  | refused (fault : FileFault) : Stored l files report text (.error (.file fault)) files
  | stopped {g : FileTree.Target} {n : Nat} {files' whole : FileTree} (fault : FileFault) :
      files.target l report.output = .ok g → n < (Utf8.encode text).length →
      files.Replaces g.name ((Utf8.encode text).take n) files' → store l .ample (report, text) files = (.ok report, whole) →
      files.Replaces g.name (Utf8.encode text) whole → Stored l files report text (.error (.file fault)) files'
  | done {g : FileTree.Target} {files' : FileTree} : files.target l report.output = .ok g →
      files.Replaces g.name (Utf8.encode text) files' → files'.read l report.output = .ok (Utf8.encode text) →
      Stored l files report text (.ok report) files'

/-- Collaborators that have these answers about the file at `input`, that log without touching a file, and that write what they
    are given as far as the disk lets them. -/
structure Answering (k : Collaborators (StateM Rehearsal)) (l : Limits) (disk : Disk) (input : Path) (files : FileTree)
    (source : Except Error Text) (signatures : Except Error (List Signature)) (seed : Except Error Nat) : Prop where
  strips : Settles (k.stripComments input) files source
  lists : Settles (k.listSignatures input) files signatures
  seeds : Settles k.fetchSeed files seed
  writes : Writes l disk k.write Error.file
  logs : KeepsFiles k.log

variable {k : Collaborators (StateM Rehearsal)} {l : Limits} {disk : Disk} {input : Path} {source : Except Error Text}
  {signatures : Except Error (List Signature)} {seed : Except Error Nat}

/-- Writing is the one step that changes files, and nothing after it fails. -/
theorem Answering.follows_write (h : Answering k l disk input files source signatures seed) (report : Report) (text : Text)
    (e : Event) :
    Follows (do k.write report.output (Utf8.encode text); liftM (k.log e); return report) files (store l disk)
      (.ok (report, text)) := by
  have hwrite := h.writes report.output (Utf8.encode text) files
  simp only [Follows, chain, store]
  cases houtcome : (files.write l disk report.output (Utf8.encode text)).1 with
  | error fault =>
    rw [houtcome] at hwrite
    exact Ends.bind_error hwrite
  | ok u =>
    rw [houtcome] at hwrite
    exact Ends.bind hwrite (Ends.bind (h.logs.settles e) (settles_pure (.ok report)))

theorem Answering.run_follows (h : Answering k l disk input files source signatures seed) (engine : Engine) (names : Registry σ) :
    Follows (run k engine names input) files (store l disk) (plan source signatures seed engine names input) := by
  unfold run plan
  refine .skip (h.logs.settles _) ?_
  refine .bind h.strips fun text _ => ?_
  refine .bind (settles_issue _ _) fun (mappings, rest) hharvest => ?_
  refine .skip (h.logs.settles_logHarvest _ _) ?_
  refine .skip (h.logs.settles _) ?_
  refine .bind h.lists fun listed _ => ?_
  rw [drawn_obfuscate_bind hharvest]
  refine .bind (settles_issue _ _) fun (functions, _) _ => ?_
  refine .skip (h.logs.settles _) ?_
  refine .skip (h.logs.settles_forIn _ _) ?_
  refine .bind h.seeds fun n _ => ?_
  refine .bind (ends_liftExcept _) fun output _ => ?_
  exact h.follows_write _ _ _

variable {engine : Engine} {names : Registry σ}

/-- What a plan that comes to its end has gone through. -/
theorem plan_eq_ok {report : Report} {text : Text} (h : plan source signatures seed engine names input = .ok (report, text)) :
    ∃ stripped listed obfuscated rest, source = .ok stripped ∧ signatures = .ok listed ∧ seed = .ok report.seed ∧
      engine.obfuscate stripped listed input names = some (obfuscated, rest) ∧ outputPath input report.seed = .ok report.output ∧
      text = obfuscated.text ∧ report.input = input ∧ report.mappings = obfuscated.mappings ∧
      report.replaced = obfuscated.replaced := by
  obtain ⟨stripped, hsource, h⟩ := exists_of_bind_eq_ok h
  obtain ⟨-, -, h⟩ := exists_of_bind_eq_ok h
  obtain ⟨listed, hsignatures, h⟩ := exists_of_bind_eq_ok h
  obtain ⟨⟨obfuscated, rest⟩, hdrawn, h⟩ := exists_of_bind_eq_ok h
  obtain ⟨n, hseed, h⟩ := exists_of_bind_eq_ok h
  obtain ⟨output, hpath, h⟩ := exists_of_bind_eq_ok h
  cases h
  exact ⟨stripped, listed, obfuscated, rest, hsource, hsignatures, hseed, drawn_eq_ok hdrawn, hpath, rfl, rfl, rfl, rfl⟩

theorem output?_of_outputPath {output : Path} {n : Nat} (h : outputPath input n = .ok output) :
    input.output? n = some output := by
  unfold outputPath at h
  split at h
  · next hpath =>
    cases h
    exact hpath
  · cases h

/-- An output is no device. -/
theorem stored_store {n : Nat} {report : Report} (h : outputPath input n = .ok report.output) (l : Limits) (disk : Disk)
    (files : FileTree) (text : Text) :
    Stored l files report text (store l disk (report, text) files).1 (store l disk (report, text) files).2 := by
  have hwritten := files.written_write l disk report.output (Utf8.encode text)
  simp only [store]
  generalize files.write l disk report.output (Utf8.encode text) = written at hwritten
  obtain ⟨outcome, files'⟩ := written
  cases hwritten with
  | refused fault => exact .refused fault
  | swallowed hg hdevice =>
    rw [FileTree.device?_of_output? (output?_of_outputPath h) hg] at hdevice
    cases hdevice
  | stopped fault hg hn hreplaces hample hwhole =>
    refine .stopped fault hg hn hreplaces ?_ hwhole
    simp only [store, hample]
    rfl
  | done hg hreplaces hread => exact .done hg hreplaces hread

end
end Cloak.Rehearsal
