import Mathlib.Data.List.TakeDrop

/-!
# Delay lines

A delay line is a queue of fixed length: every sample goes in at the back, and the sample at the
front comes out in its place. Over a whole batch the line and the batch form one sequence, which
comes out from the front (`shift_eq`).
-/

namespace DelayLine

variable {α : Type*}

/-- Set the length of a line: cut it at the back, or pad it there. -/
def resize (n : ℕ) (pad : α) (line : List α) : List α :=
  line.take n ++ List.replicate (n - line.length) pad

/-- Push a sample to the back and pop the front. -/
def advance (line : List α) (x : α) : α × List α :=
  match line with
  | [] => (x, [])
  | c :: cs => (c, cs ++ [x])

/-- Push a batch through a line. The results are the samples that come out, and the line. -/
def shift : List α → List α → List α × List α
  | line, [] => ([], line)
  | line, x :: xs =>
    let (c, line) := advance line x
    let (cs, line) := shift line xs
    (c :: cs, line)

/-- **A line and a batch are one sequence**: as many samples come out as go in, and the rest is the
new line. -/
theorem shift_eq (line xs : List α) :
    shift line xs = ((line ++ xs).take xs.length, (line ++ xs).drop xs.length) := by
  induction xs generalizing line with
  | nil => simp [shift]
  | cons x xs ih =>
    cases line with
    | nil => simp [shift, advance, ih]
    | cons c cs => simp [shift, advance, ih]

theorem length_shift_fst (line xs : List α) : (shift line xs).1.length = xs.length := by
  rw [shift_eq, List.length_take, List.length_append]
  omega

theorem length_resize (n : ℕ) (pad : α) (line : List α) : (resize n pad line).length = n := by
  rw [resize, List.length_append, List.length_take, List.length_replicate]
  omega

/-- A line that has its length already stays as it is. -/
theorem resize_of_length {n : ℕ} {line : List α} (h : line.length = n) (pad : α) :
    resize n pad line = line := by
  rw [resize, h, Nat.sub_self, List.replicate_zero, List.append_nil,
    List.take_of_length_le (Nat.le_of_eq h)]

theorem length_shift_snd (line xs : List α) : (shift line xs).2.length = line.length := by
  rw [shift_eq, List.length_drop, List.length_append]
  omega

/-- **The second part of a batch finds the line as the first part leaves it.** -/
theorem shift_append (line xs ys : List α) :
    shift line (xs ++ ys) =
      ((shift line xs).1 ++ (shift (shift line xs).2 ys).1, (shift (shift line xs).2 ys).2) := by
  induction xs generalizing line with
  | nil => rfl
  | cons x xs ih => simp only [List.cons_append, shift, ih]

/-- What comes out of a line of pads: the pads, then the batch. -/
theorem getElem?_shift_replicate {n : ℕ} {pad : α} {xs : List α} {k : ℕ} (hk : k < xs.length) :
    (shift (List.replicate n pad) xs).1[k]? = if k < n then some pad else xs[k - n]? := by
  rw [shift_eq, List.getElem?_take_of_lt hk, List.getElem?_append, List.length_replicate]
  split
  · rename_i hn
    exact List.getElem?_replicate_of_lt hn
  · rfl

/-- Two lines of one length run side by side as one line of pairs. -/
theorem zip_shift_fst {β : Type*} {line xs : List α} {line' xs' : List β}
    (hline : line.length = line'.length) (hxs : xs.length = xs'.length) :
    (shift line xs).1.zip (shift line' xs').1 = (shift (line.zip line') (xs.zip xs')).1 := by
  have hlength : (xs.zip xs').length = xs.length := by
    rw [List.length_zip, hxs, Nat.min_self]
  rw [shift_eq, shift_eq, shift_eq, hlength, ← hxs, ← List.zip_append hline]
  exact List.take_zipWith.symm

section Forall

variable {P : α → Prop} {line xs : List α} {pad : α} {n : ℕ}

theorem forall_resize_of_take (hline : ∀ x ∈ line.take n, P x) (hpad : P pad) :
    ∀ x ∈ resize n pad line, P x := by
  intro x hx
  rcases List.mem_append.mp hx with hx | hx
  · exact hline x hx
  · exact (List.eq_of_mem_replicate hx) ▸ hpad

theorem forall_resize (hline : ∀ x ∈ line, P x) (hpad : P pad) : ∀ x ∈ resize n pad line, P x :=
  forall_resize_of_take (fun x hx => hline x (List.mem_of_mem_take hx)) hpad

/-- What holds of a line and of the first `n` samples of a batch holds of the first `n` samples
that come out. -/
theorem forall_shift_fst_take (hline : ∀ x ∈ line, P x) (hxs : ∀ x ∈ xs.take n, P x) :
    ∀ x ∈ (shift line xs).1.take n, P x := by
  intro x hx
  rw [shift_eq, List.take_take, List.take_append] at hx
  rcases List.mem_append.mp hx with hx | hx
  · exact hline x (List.mem_of_mem_take hx)
  · exact hxs x (List.take_subset_take_left xs (by omega) hx)

theorem forall_shift_fst (hline : ∀ x ∈ line, P x) (hxs : ∀ x ∈ xs, P x) :
    ∀ x ∈ (shift line xs).1, P x := by
  have h : ∀ x ∈ (shift line xs).1.take xs.length, P x :=
    forall_shift_fst_take hline (by simpa using hxs)
  rwa [List.take_of_length_le (Nat.le_of_eq (length_shift_fst line xs))] at h

/-- What holds of a line and of the last samples of a batch, as many as the line holds, holds of
the new line. -/
theorem forall_shift_snd (hline : ∀ x ∈ line, P x)
    (hxs : ∀ x ∈ xs.drop (xs.length - line.length), P x) : ∀ x ∈ (shift line xs).2, P x := by
  intro x hx
  rw [shift_eq, List.drop_append] at hx
  rcases List.mem_append.mp hx with hx | hx
  · exact hline x (List.mem_of_mem_drop hx)
  · exact hxs x hx

end Forall

end DelayLine
