import Cloak.Command.Program
import Cloak.Proofs.Run.Plan

/-! What the command leaves behind when it fails. All it does before the output is written leaves the files as they are. The report
    comes after the run, and a write can stop once its file is opened, so three failures find a file that is new or changed: the
    output breaks off, the output is there and the report is not, or the report breaks off. -/

namespace Cloak.Rehearsal

variable {ε α β : Type} {files : FileTree}

/-- The step leaves the files as they are, and its outcome depends on nothing but them. -/
def IsSettled (x : ExceptT ε (StateM Rehearsal) α) (files : FileTree) : Prop := ∃ outcome, Settles x files outcome

theorem IsSettled.bind {x : ExceptT ε (StateM Rehearsal) α} {f : α → ExceptT ε (StateM Rehearsal) β} (hx : IsSettled x files)
    (hf : ∀ a, IsSettled (f a) files) : IsSettled (x >>= f) files := by
  obtain ⟨outcome, hx⟩ := hx
  cases outcome with
  | error e => exact ⟨.error e, Ends.bind_error hx⟩
  | ok a =>
    obtain ⟨outcome, ha⟩ := hf a
    exact ⟨outcome, Ends.bind hx ha⟩

end Cloak.Rehearsal

namespace Cloak.Command

open Rehearsal

section
variable (a : Answers) (verbose : Bool) {files : FileTree}

end

/-! ### The end of the command -/

section
variable (a : Answers) (verbose : Bool) {files : FileTree}

end

/-! ### What is left behind -/

section
variable {a : Answers} {o : Options} {world : Rehearsal} {input : Path} {report : Report} {text : Text} {files : FileTree}

/-- How the command ends with what came of its options. -/
def ending : Except Failure Path → Outcome
  | .error failure => .failed failure
  | .ok output => .done output

end

end Cloak.Command
