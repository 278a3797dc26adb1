import Cloak.Proofs.Text.Utf8
import Cloak.Renaming.Pass
import Mathlib.Algebra.Ring.Nat

/-! Renaming as splicing. The places where a search finds its symbol are stretches of the text, given by offsets in bytes: they come
    in order, do not overlap, and begin and end between characters. Over stretches like these a text can be spliced without a slice
    that is out of order, and what comes out is the text with the accepted stretches replaced and all else as it was. -/

namespace Cloak
open Utf8 (size size_cons size_append dropBytes? dropBytes?_size)

/-! ### Offsets -/

/-- In the text that begins at byte `base` a character begins at byte `i`, or the text ends there. -/
def IsOffset (base : Nat) (s : Text) (i : Nat) : Prop := ∃ a b, s = a ++ b ∧ base + size a = i

theorem size_concat (s : Text) (c : Char) : size (s ++ [c]) = size s + c.utf8Size := by
  rw [size_append, size_cons]
  rfl

theorem eq_nil_of_size_eq_zero {s : Text} (h : size s = 0) : s = [] := by
  cases s with
  | nil => rfl
  | cons c s =>
    have hpos := c.utf8Size_pos
    rw [size_cons] at h
    omega

/-- Of two beginnings of a text the shorter one begins the other. -/
theorem exists_append_of_size_le {a a' b b' : Text} (h : a ++ b = a' ++ b') (hle : size a ≤ size a') :
    ∃ x, a' = a ++ x ∧ b = x ++ b' := by
  rcases List.append_eq_append_iff.mp h with ⟨x, ha, hb⟩ | ⟨x, ha, hb⟩
  · exact ⟨x, ha, hb⟩
  · rw [ha, size_append] at hle
    have hx : x = [] := eq_nil_of_size_eq_zero (by omega)
    subst hx
    exact ⟨[], by rw [ha, List.append_nil, List.append_nil], hb.symm⟩

section
variable {base i : Nat} {s : Text}

theorem isOffset_base (base : Nat) (s : Text) : IsOffset base s base := ⟨[], s, rfl, rfl⟩

theorem IsOffset.base_le (h : IsOffset base s i) : base ≤ i := by
  obtain ⟨a, b, -, rfl⟩ := h
  exact Nat.le_add_right base _

theorem IsOffset.append (front : Text) (h : IsOffset (base + size front) s i) : IsOffset base (front ++ s) i := by
  obtain ⟨a, b, rfl, hi⟩ := h
  exact ⟨front ++ a, b, (List.append_assoc front a b).symm, by rw [size_append]; omega⟩

theorem IsOffset.of_append {front : Text} (h : IsOffset base (front ++ s) i) (hle : base + size front ≤ i) :
    IsOffset (base + size front) s i := by
  obtain ⟨a, b, heq, hi⟩ := h
  obtain ⟨x, rfl, hs⟩ := exists_append_of_size_le heq (by omega)
  exact ⟨x, b, hs, by rw [size_append] at hi; omega⟩

end

/-- The text between two offsets. There is none if they are out of order, beyond the end or inside a character. -/
def slice? (s : Text) (start stop : Nat) : Option Text :=
  (dropBytes? start s).bind fun t => (dropBytes? stop s).bind fun u =>
    if u.length ≤ t.length then some (t.take (t.length - u.length)) else none

theorem slice?_append (a x b : Text) : slice? (a ++ (x ++ b)) (size a) (size a + size x) = some x := by
  have hstop : dropBytes? (size a + size x) (a ++ (x ++ b)) = some b := by
    rw [← size_append, ← List.append_assoc, dropBytes?_size]
  rw [slice?, dropBytes?_size, hstop]
  simp

/-! ### Stretches -/

/-- A part of a text: the offsets where it begins and where it ends. -/
structure Stretch where
  start : Nat
  stop : Nat
  deriving DecidableEq, Repr

/-- The number of bytes of a stretch. -/
def Stretch.size (p : Stretch) : Nat := p.stop - p.start

/-- The stretches lie in the text that begins at byte `base`. They come in order, do not overlap, and begin and end between
    characters. -/
structure Orderly (base : Nat) (s : Text) (ps : List Stretch) : Prop where
  forward : ∀ p ∈ ps, p.start ≤ p.stop
  apart : ps.Pairwise fun p q => p.stop ≤ q.start
  boundary : ∀ p ∈ ps, IsOffset base s p.start ∧ IsOffset base s p.stop

/-! ### Splicing -/

/-- Splices on after `done` with `count` stretches replaced, from the offset `last` on. -/
def spliceFrom (s name : Text) (accept : Stretch → Bool) (done : Text) (count last : Nat) : List Stretch → Option Pass
  | [] => (dropBytes? last s).map fun rest => ⟨done ++ rest, count⟩
  | p :: ps =>
    if accept p then
      (slice? s last p.start).bind fun kept => spliceFrom s name accept (done ++ (kept ++ name)) (count + 1) p.stop ps
    else spliceFrom s name accept done count last ps

/-- Puts `name` over the accepted stretches of a text. There is no result if a slice of the text is out of order. -/
def splice (s name : Text) (accept : Stretch → Bool) (ps : List Stretch) : Option Pass := spliceFrom s name accept [] 0 0 ps

/-- What splicing makes of the text that begins at byte `base`: `name` stands for the accepted stretches, each of which counts, and
    all else is as it was. -/
inductive Spliced (name : Text) (accept : Stretch → Bool) : (base : Nat) → Text → List Stretch → Pass → Prop where
  | rest {base : Nat} {s : Text} : Spliced name accept base s [] ⟨s, 0⟩
  | stretch {base : Nat} {p : Stretch} {ps : List Stretch} {lead x s t : Text} {n : Nat} :
      p.start = base + size lead → p.stop = p.start + size x → Spliced name accept p.stop s ps ⟨t, n⟩ →
      Spliced name accept base (lead ++ (x ++ s)) (p :: ps)
        ⟨lead ++ ((if accept p then name else x) ++ t), if accept p then n + 1 else n⟩

section
variable {name : Text} {accept : Stretch → Bool} {base : Nat} {s : Text} {ps : List Stretch} {r : Pass}

/-- A character before the text stays. -/
theorem Spliced.cons {c : Char} (h : Spliced name accept (base + c.utf8Size) s ps r) :
    Spliced name accept base (c :: s) ps ⟨c :: r.text, r.replaced⟩ := by
  cases h with
  | rest => exact .rest
  | @stretch _ p ps lead x s t n hstart hstop h =>
    have hlead : p.start = base + size (c :: lead) := by rw [size_cons]; omega
    exact .stretch hlead hstop h

/-- No slice is out of order. Refused stretches are not copied at once: `gap` is what has been passed over since `front`. -/
theorem Spliced.spliceFrom_eq (h : Spliced name accept base s ps r) {buffer : Text} (front gap done : Text) (count : Nat)
    (hbuffer : buffer = front ++ (gap ++ s)) (hbase : base = size front + size gap) :
    spliceFrom buffer name accept done count (size front) ps = some ⟨done ++ (gap ++ r.text), count + r.replaced⟩ := by
  induction h generalizing front gap done count with
  | rest =>
    rw [spliceFrom, hbuffer, dropBytes?_size]
    rfl
  | @stretch base p ps lead x s t n hstart hstop _ ih =>
    rw [spliceFrom]
    split
    · have hslice : slice? buffer (size front) p.start = some (gap ++ lead) := by
        have hp : p.start = size front + size (gap ++ lead) := by rw [size_append]; omega
        rw [hp, hbuffer, ← List.append_assoc gap, slice?_append]
      have hfront : size (front ++ (gap ++ (lead ++ x))) = p.stop := by simp only [size_append]; omega
      have hrest := ih (front ++ (gap ++ (lead ++ x))) [] (done ++ (gap ++ lead ++ name)) (count + 1)
        (by rw [hbuffer]; simp) (by rw [hfront]; rfl)
      rw [hfront] at hrest
      rw [hslice, Option.bind_some, hrest]
      simp only [List.append_assoc, List.nil_append, Nat.add_assoc, Nat.add_comm 1]
    · have hrest := ih front (gap ++ (lead ++ x)) done count (by rw [hbuffer]; simp) (by simp only [size_append]; omega)
      rw [hrest]
      simp only [List.append_assoc]

theorem Spliced.splice_eq (h : Spliced name accept 0 s ps r) : splice s name accept ps = some r := by
  have heq := h.spliceFrom_eq [] [] [] 0 rfl rfl
  rwa [Nat.zero_add] at heq

theorem Spliced.replaced_eq (h : Spliced name accept base s ps r) : r.replaced = ps.countP accept := by
  induction h with
  | rest => rfl
  | @stretch base p ps lead x s t n _ _ _ ih =>
    simp only at ih
    split
    · next haccept => rw [List.countP_cons_of_pos haccept, ih]
    · next haccept => rw [List.countP_cons_of_neg haccept, ih]

theorem Spliced.size_eq (h : Spliced name accept base s ps r) :
    size r.text + ((ps.filter accept).map Stretch.size).sum = size s + r.replaced * size name := by
  induction h with
  | rest => simp
  | @stretch base p ps lead x s t n _ hstop _ ih =>
    have hsize : p.size = size x := by rw [Stretch.size, hstop]; omega
    simp only at ih
    split
    · next haccept =>
      rw [List.filter_cons_of_pos haccept, List.map_cons, List.sum_cons, hsize, Nat.add_mul]
      simp only [size_append]
      omega
    · next haccept =>
      rw [List.filter_cons_of_neg haccept]
      simp only [size_append]
      omega

/-! ### Which stretches can be spliced -/

theorem Spliced.orderly (h : Spliced name accept base s ps r) : Orderly base s ps := by
  induction h with
  | rest => exact ⟨by simp, .nil, by simp⟩
  | @stretch base p ps lead x s t n hstart hstop _ ih =>
    have hfront : base + size (lead ++ x) = p.stop := by rw [size_append]; omega
    have hlift : ∀ i, IsOffset p.stop s i → IsOffset base (lead ++ (x ++ s)) i := by
      intro i hi
      rw [← List.append_assoc]
      exact IsOffset.append (lead ++ x) (hfront ▸ hi)
    refine ⟨List.forall_mem_cons.mpr ⟨by omega, ih.forward⟩, .cons (fun q hq => (ih.boundary q hq).1.base_le) ih.apart, ?_⟩
    refine List.forall_mem_cons.mpr ⟨⟨⟨lead, x ++ s, rfl, hstart.symm⟩, hlift _ (isOffset_base _ s)⟩, fun q hq => ?_⟩
    exact ⟨hlift _ (ih.boundary q hq).1, hlift _ (ih.boundary q hq).2⟩

/-- Stretches in order can be spliced, whatever is put for them and whichever are accepted. -/
theorem Orderly.exists_spliced (h : Orderly base s ps) (name : Text) (accept : Stretch → Bool) :
    ∃ r, Spliced name accept base s ps r := by
  induction ps generalizing base s with
  | nil => exact ⟨_, .rest⟩
  | cons p ps ih =>
    obtain ⟨hp, hforward⟩ := List.forall_mem_cons.mp h.forward
    obtain ⟨hnext, hapart⟩ := List.pairwise_cons.mp h.apart
    obtain ⟨⟨hstart, hstop⟩, hboundary⟩ := List.forall_mem_cons.mp h.boundary
    obtain ⟨lead, rest, rfl, hlead⟩ := hstart
    have hstop' := IsOffset.of_append hstop (by omega)
    obtain ⟨x, s, rfl, hx⟩ := hstop'
    have hfront : base + size (lead ++ x) = p.stop := by rw [size_append]; omega
    have hdrop : ∀ i, p.stop ≤ i → IsOffset base (lead ++ (x ++ s)) i → IsOffset p.stop s i := by
      intro i hle hi
      rw [← List.append_assoc] at hi
      exact hfront ▸ hi.of_append (hfront ▸ hle)
    have hrest : Orderly p.stop s ps := by
      refine ⟨hforward, hapart, fun q hq => ?_⟩
      have hle := hnext q hq
      exact ⟨hdrop _ hle (hboundary q hq).1, hdrop _ (Nat.le_trans hle (hforward q hq)) (hboundary q hq).2⟩
    obtain ⟨r, hr⟩ := ih hrest
    exact ⟨_, .stretch hlead.symm (by omega) hr⟩

end

end Cloak
