import Cloak.Proofs.Name.Drawing

/-! The history of a registry. A registry is asked for a new name, whether it has issued a name, and how many it has issued. All
    its answers follow from the names it has given out: a candidate that was thrown away leaves no trace, and neither does the
    digit that a letter took the place of. -/

namespace Cloak

theorem letters_of_isOpaqueName {name : Text} (h : isOpaqueName name = true) :
    name.length = 8 ∧ (∀ c ∈ name, ('0' ≤ c ∧ c ≤ '9') ∨ ('a' ≤ c ∧ c ≤ 'f')) ∧ ∃ c ∈ name.head?, 'a' ≤ c ∧ c ≤ 'f' := by
  obtain ⟨hlength, hhex, c, hc, hdigit⟩ := isOpaqueName_iff.mp h
  refine ⟨hlength, fun c hc => isHexDigit_iff.mp (hhex c hc), c, hc, ?_⟩
  exact letter_of_isHexDigit (hhex c (List.mem_of_mem_head? hc)) hdigit

namespace Registry

/-! ### Uses -/

/-- A use of a registry, with the answer. -/
inductive Use where
  | generate (name : Text)
  | contains (name : Text) (answer : Bool)
  | size (count : Nat)

def Use.name? : Use → Option Text
  | generate name => some name
  | contains _ _ => none
  | size _ => none

/-- The names given out in the course of uses, one for each search. -/
def givenOut (uses : List Use) : List Text := uses.filterMap Use.name?

/-- What a use may answer once `names` have been given out. -/
def Use.Fits (names : List Text) : Use → Prop
  | generate name => name ∉ names ∧ name.length = 8 ∧ (∀ c ∈ name, ('0' ≤ c ∧ c ≤ '9') ∨ ('a' ≤ c ∧ c ≤ 'f')) ∧
      ∃ c ∈ name.head?, 'a' ≤ c ∧ c ≤ 'f'
  | contains x answer => answer = true ↔ x ∈ names
  | size count => count = names.length

section
variable {σ : Type}

/-- Uses, one after the other, lead from a registry to a registry. Every search for a name returns, after however many words and
    candidates. -/
inductive Serves [WordSource σ] : Registry σ → List Use → Registry σ → Prop where
  | nil (r : Registry σ) : Serves r [] r
  | generate {r q r' : Registry σ} {limit tries : Nat} {name : Text} {uses : List Use} :
      r.generateWithin limit tries = some (name, q) → Serves q uses r' → Serves r (.generate name :: uses) r'
  | contains {r r' : Registry σ} {uses : List Use} (x : Text) :
      Serves r uses r' → Serves r (.contains x (r.contains x) :: uses) r'
  | size {r r' : Registry σ} {uses : List Use} : Serves r uses r' → Serves r (.size r.size :: uses) r'

/-! ### What a registry knows -/

/-- The registry has issued `names` and nothing else. -/
structure Knows (r : Registry σ) (names : List Text) : Prop where
  member : ∀ x, r.contains x = true ↔ x ∈ names
  size : r.size = names.length

theorem knows_ofSource (g : σ) : (ofSource g).Knows [] where
  member x := by simp [ofSource, contains]
  size := by simp [ofSource, Registry.size]

theorem Knows.issues {r q : Registry σ} {names : List Text} {name : Text} (h : r.Knows names) (hq : r.Issues name q) :
    q.Knows (names ++ [name]) where
  member x := by rw [hq.issued, h.member, List.mem_append, List.mem_singleton, or_comm]
  size := by rw [hq.size, h.size, List.length_append, List.length_singleton]

variable [WordSource σ] {r r' : Registry σ} {names : List Text} {uses : List Use}

theorem Knows.serves (h : r.Knows names) (hs : r.Serves uses r') : r'.Knows (names ++ givenOut uses) := by
  -- The names known grow along the run, so the induction is over every list of them.
  induction hs generalizing names with
  | nil r => simpa [givenOut] using h
  | @generate r q r' limit tries name uses hname _ ih =>
    have hq := ih (h.issues (issues_of_generateWithin hname))
    rw [List.append_assoc] at hq
    exact hq
  | contains x _ ih => exact ih h
  | size _ ih => exact ih h

theorem Knows.fits {u : Use} (h : r.Knows names) (hs : r.Serves (u :: uses) r') : u.Fits names := by
  cases hs with
  | generate hname _ =>
    obtain ⟨hform, hfresh, -, -⟩ := issues_of_generateWithin hname
    refine ⟨fun hmem => ?_, letters_of_isOpaqueName hform⟩
    rw [(h.member _).mpr hmem] at hfresh
    cases hfresh
  | contains x _ => exact h.member x
  | size _ => exact h.size

theorem Serves.exists_between {before after : List Use} (h : r.Serves (before ++ after) r') :
    ∃ q, r.Serves before q ∧ q.Serves after r' := by
  induction before generalizing r with
  | nil => exact ⟨r, .nil r, h⟩
  | cons u before ih =>
    cases h with
    | generate hname h =>
      obtain ⟨q, hbefore, hafter⟩ := ih h
      exact ⟨q, .generate hname hbefore, hafter⟩
    | contains x h =>
      obtain ⟨q, hbefore, hafter⟩ := ih h
      exact ⟨q, .contains x hbefore, hafter⟩
    | size h =>
      obtain ⟨q, hbefore, hafter⟩ := ih h
      exact ⟨q, .size hbefore, hafter⟩

/-- A registry that starts empty gives out new opaque names only, and its answers are those of a list of the names it has given
    out. -/
theorem serves_fits_givenOut {g : σ} (h : (ofSource g).Serves uses r) :
    (∀ before u after, uses = before ++ u :: after → u.Fits (givenOut before)) ∧
      (∀ x, r.contains x = true ↔ x ∈ givenOut uses) ∧ r.size = (givenOut uses).length := by
  have hknows : r.Knows (givenOut uses) := (knows_ofSource g).serves h
  refine ⟨?_, hknows.member, hknows.size⟩
  rintro before u after rfl
  obtain ⟨q, hbefore, hafter⟩ := h.exists_between
  have hq : q.Knows (givenOut before) := (knows_ofSource g).serves hbefore
  exact hq.fits hafter

end

/-- The second word repeats the first, and the third begins with a digit. -/
def repeatingWords : WordStream := ⟨fun n => [0xa0, 0xa0, 0x1b, 0xc0].getD n 0⟩

/-- The second search meets a name that was given out, and then digits of which the first gives way to a letter. Neither the
    repeat nor the digits as they were drawn count. -/
theorem serves_fits_givenOut_of_repeat :
    ∃ r, (ofSource repeatingWords).Serves
        [.generate "a0000000".toList, .contains "a0000000".toList true, .generate "cb000000".toList,
          .contains "1b000000".toList false, .size 2] r ∧
      (∀ x, r.contains x = true ↔ x ∈ ["a0000000".toList, "cb000000".toList]) ∧ r.size = 2 := by
  have hfirst : (ofSource repeatingWords).generate.map Prod.fst = some "a0000000".toList := by decide +kernel
  have hsecond : ((ofSource repeatingWords).generate.bind fun p => p.2.generate.map Prod.fst) = some "cb000000".toList := by
    decide +kernel
  obtain ⟨⟨first, q⟩, hq, rfl⟩ := Option.map_eq_some_iff.mp hfirst
  rw [hq, Option.bind_some] at hsecond
  obtain ⟨⟨second, r⟩, hr, rfl⟩ := Option.map_eq_some_iff.mp hsecond
  have hknows := (knows_ofSource repeatingWords).issues (issues_of_generate hq)
  have hknown : q.contains "a0000000".toList = true := (hknows.member _).mpr List.mem_cons_self
  have hknows' := hknows.issues (issues_of_generate hr)
  have hunknown : r.contains "1b000000".toList = false :=
    Bool.eq_false_iff.mpr fun h => absurd ((hknows'.member _).mp h) (by decide +kernel)
  have hserves := Serves.generate hq (.contains "a0000000".toList (.generate hr (.contains "1b000000".toList (.size (.nil r)))))
  rw [hknown, hunknown, hknows'.size] at hserves
  obtain ⟨-, hmember, hsize⟩ := serves_fits_givenOut hserves
  exact ⟨r, hserves, hmember, hsize⟩

end Registry
end Cloak
