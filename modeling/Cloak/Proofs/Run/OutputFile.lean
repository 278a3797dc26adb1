import Cloak.Proofs.Path.Recovery
import Cloak.Proofs.Run.Plan

/-! The output file of a run. It has a name of its own in the directory of the input, and the input leads elsewhere in every file
    tree, so the run leaves it as it was, even where the write of the output stops. No two inputs share an output. -/

namespace Cloak

/-! ### The input file -/

namespace FileTree
variable {t u : FileTree} {l : Limits} {p : Path}

theorem read_congr {g : Target} (ht : t.target l p = .ok g) (hu : u.target l p = .ok g) (h : u.entry? g.name = t.entry? g.name) :
    u.read l p = t.read l p := by
  simp only [read, lookUp, ht, hu, bind, Except.bind, h]

theorem exists_target_of_read {contents : Bytes} (h : t.read l p = .ok contents) : ∃ g, t.target l p = .ok g := by
  obtain ⟨e, hentry, -⟩ := exists_of_bind_eq_ok h
  obtain ⟨g, hg, -⟩ := exists_of_bind_eq_ok hentry
  exact ⟨g, hg⟩

theorem name_cases_of_target {g : Target} (h : t.target l p = .ok g) :
    (∃ name, p.fileName? = some name ∧ g.name = g.directory ++ [name]) ∨ t.isDirectory g.name = true := by
  have hlast := last_eq_of_target h
  cases hg : g.last with
  | none =>
    refine Or.inr ?_
    rw [Target.name, hg, Option.toList_none, List.append_nil]
    exact isDirectory_of_target h
  | some last =>
    obtain ⟨hend, hnormal⟩ := Option.filter_eq_some_iff.mp (hlast.symm.trans hg)
    obtain ⟨front, hfront⟩ := List.getLast?_eq_some_iff.mp hend
    have hempty : ∀ s : Segment, s.isEmpty = true → s.isVoid = true := fun s hs => by simp [Segment.isVoid, hs]
    refine Or.inl ⟨last, Path.fileName?_eq_some_iff.mpr ?_, by rw [Target.name, hg, Option.toList_some]⟩
    rw [Path.components, ← Path.filter_dropEndWhile hempty, hfront, Path.map_componentOf_concat front hnormal,
      ← List.append_assoc, List.getLast?_concat]

/-- A file that leads elsewhere reads as before. -/
theorem Replaces.read_of_ne {t' : FileTree} {name : List Segment} {contents : Bytes} {g : Target} (h : t.Replaces name contents t')
    (hg : t.target l p = .ok g) (hne : g.name ≠ name) : t'.read l p = t.read l p :=
  read_congr hg (target_congr h.isDirectory_eq hg) (h.entry_of_ne hne)

/-- An input leads to another last name than its output, or to a directory. -/
theorem name_ne_of_output? {input output : Path} {seed : Nat} {g i : Target} (houtput : input.output? seed = some output)
    (hg : t.target l output = .ok g) (hi : t.target l input = .ok i) (hfile : t.entry? g.name ≠ some .directory) :
    i.name ≠ g.name := by
  obtain ⟨directory, name, seeded, hname, hseeded, hsegments, -, -⟩ := Path.exists_of_output? houtput
  have hlast : g.last = some seeded := last_of_target hsegments (Path.isNormal_of_digit (Path.exists_digit_of_seededName? hseeded)) hg
  intro heq
  rcases name_cases_of_target hi with ⟨name', hname', hiname⟩ | hdir
  · cases hname.symm.trans hname'
    rw [hiname, Target.name, hlast, Option.toList_some] at heq
    have hsame : name = seeded := by simpa using (List.append_inj' heq rfl).2
    exact Path.seededName?_ne hseeded hsame.symm
  · exact hfile (entry?_eq_directory_iff.mpr (heq ▸ hdir))

/-- The input of a run reads as before, however the write of its output ends. -/
theorem read_of_write_output {input output : Path} {seed : Nat} {old : Bytes} (houtput : input.output? seed = some output)
    (hread : t.read l input = .ok old) (disk : Disk) (contents : Bytes) :
    (t.write l disk output contents).2.read l input = .ok old := by
  obtain ⟨i, hi⟩ := exists_target_of_read hread
  have hreplaced : ∀ {g : Target} {bytes : Bytes} {t' : FileTree}, t.target l output = .ok g → t.Replaces g.name bytes t' →
      t'.read l input = .ok old := fun hg h =>
    (h.read_of_ne hi (name_ne_of_output? houtput hg hi h.notDirectory)).trans hread
  have hwritten := t.written_write l disk output contents
  generalize t.write l disk output contents = written at hwritten
  obtain ⟨outcome, t'⟩ := written
  cases hwritten with
  | refused fault => exact hread
  | swallowed hg hdevice => exact hread
  | stopped fault hg hn h => exact hreplaced hg h
  | done hg h => exact hreplaced hg h

end FileTree

/-- An output path names another file in the directory of the input, so that writing it leaves the input alone, whether the write is
    done or not. There is one unless the input does not end with a normal component or its stem is not UTF-8. Outputs of files with
    UTF-8 names, made with seeds of five digits, are the same only for one input and one seed. -/
theorem outputPath_never_clashes :
    (∀ input seed output, outputPath input seed = .ok output → ∃ directory name seeded,
        input.components = directory ++ [.normal name] ∧ output.components = directory ++ [.normal seeded] ∧ seeded ≠ name ∧
        ∀ (t : FileTree) (l : Limits) (disk : Disk) (contents old : Bytes),
          t.read l input = .ok old → (t.write l disk output contents).2.read l input = .ok old) ∧
      (∀ input seed, (∃ e, outputPath input seed = .error e) ↔
        (∀ name, input.components.getLast? ≠ some (.normal name)) ∨
          ∃ name stem extension, input.components.getLast? = some (.normal name) ∧ Path.Divides name stem extension ∧
            Utf8.decode? stem = none) ∧
      ∀ (p q : Path) (directory directory' : List Component) (name name' : Segment) (seed seed' : Nat),
        p.components = directory ++ [.normal name] → q.components = directory' ++ [.normal name'] →
        (Utf8.decode? name).isSome = true → (Utf8.decode? name').isSome = true →
        10000 ≤ seed ∧ seed ≤ 99999 → 10000 ≤ seed' ∧ seed' ≤ 99999 →
        ∃ o o', outputPath p seed = .ok o ∧ outputPath q seed' = .ok o' ∧
          (o.components = o'.components → directory = directory' ∧ name = name' ∧ seed = seed') := by
  refine ⟨fun input seed output h => ?_, fun input seed => ?_, ?_⟩
  · have houtput := Rehearsal.output?_of_outputPath h
    obtain ⟨directory, name, seeded, -, hseeded, -, hinput, hcomponents⟩ := Path.exists_of_output? houtput
    exact ⟨directory, name, seeded, hinput, hcomponents, Path.seededName?_ne hseeded, fun t l disk contents old hread =>
      FileTree.read_of_write_output houtput hread disk contents⟩
  · rw [← Path.output?_eq_none_iff input seed, outputPath]
    cases input.output? seed <;> simp
  · intro p q directory directory' name name' seed seed' hp hq hname hname' hseed hseed'
    rw [Utf8.isSome_decode?_iff] at hname hname'
    obtain ⟨o, -, -, ho, -⟩ := Path.output?_of_isUtf8 (Path.fileName?_of_components hp) hname seed
    obtain ⟨o', -, -, ho', -⟩ := Path.output?_of_isUtf8 (Path.fileName?_of_components hq) hname' seed'
    refine ⟨o, o', by rw [outputPath, ho], by rw [outputPath, ho'], fun h => ?_⟩
    exact Path.eq_of_output_components_eq hp hq hname hname' hseed hseed' ho ho' h

/-- A file `a.b` in a directory. -/
def lonelyTree : FileTree := ⟨[([bytesOf "d", bytesOf "a.b"], some (bytesOf "x"))]⟩

/-- The file is read as before once its output stands beside it, a path that ends with `..` has no output, and a digit at the end of
    a stem is not taken for one of the seed. -/
theorem outputPath_never_clashes_sample :
    (∃ output t, outputPath ⟨bytesOf "d/a.b"⟩ 12345 = .ok output ∧ lonelyTree.write {} .ample output (bytesOf "y") = (.ok (), t) ∧
        t.read {} ⟨bytesOf "d/a.b"⟩ = .ok (bytesOf "x")) ∧
      (∃ e, outputPath ⟨bytesOf "d/.."⟩ 12345 = .error e) ∧
      ∃ o o', outputPath ⟨bytesOf "d/a1.b"⟩ 23456 = .ok o ∧ outputPath ⟨bytesOf "d/a.b"⟩ 12345 = .ok o' ∧
        o.components ≠ o'.components := by
  obtain ⟨hfresh, hfails, htells⟩ := outputPath_never_clashes
  refine ⟨?_, (hfails _ _).mpr (Or.inl fun name => ?_), ?_⟩
  · have houtput : (⟨bytesOf "d/a.b"⟩ : Path).output? 12345 = some ⟨bytesOf "d/a12345.b"⟩ := by decide +kernel
    have hpath : outputPath ⟨bytesOf "d/a.b"⟩ 12345 = .ok ⟨bytesOf "d/a12345.b"⟩ := by rw [outputPath, houtput]
    have hread : lonelyTree.read {} ⟨bytesOf "d/a.b"⟩ = .ok (bytesOf "x") := by decide +kernel
    have hwrite : (lonelyTree.write {} .ample ⟨bytesOf "d/a12345.b"⟩ (bytesOf "y")).1 = .ok () := by decide +kernel
    obtain ⟨-, -, -, -, -, -, hkeeps⟩ := hfresh _ _ _ hpath
    have hkept := hkeeps lonelyTree {} .ample (bytesOf "y") (bytesOf "x") hread
    rcases hwritten : lonelyTree.write {} .ample ⟨bytesOf "d/a12345.b"⟩ (bytesOf "y") with ⟨outcome, t⟩
    rw [hwritten] at hwrite hkept
    exact ⟨_, t, hpath, hwrite ▸ hwritten, hkept⟩
  · have hlast : (⟨bytesOf "d/.."⟩ : Path).components.getLast? = some .up := by decide +kernel
    rw [hlast]
    simp
  · have hcomponents : (⟨bytesOf "d/a1.b"⟩ : Path).components = [.normal (bytesOf "d")] ++ [.normal (bytesOf "a1.b")] := by
      decide +kernel
    have hcomponents' : (⟨bytesOf "d/a.b"⟩ : Path).components = [.normal (bytesOf "d")] ++ [.normal (bytesOf "a.b")] := by
      decide +kernel
    obtain ⟨o, o', ho, ho', hsame⟩ := htells _ _ _ _ _ _ 23456 12345 hcomponents hcomponents' (by decide +kernel)
      (by decide +kernel) (by decide) (by decide)
    exact ⟨o, o', ho, ho', fun heq => absurd (hsame heq).2.2 (by decide)⟩

end Cloak
