import Mathlib.Data.List.Basic
import Mathlib.Order.Basic

/-!
# Playing items in order

A player puts out the elements of one item after another. It starts an item, plays it from its first
element on, and finishes it at its last; then it may start the item again or go on to a later one.
An item is started only where all earlier ones have been finished or are skipped, and what is
skipped is never started. Whatever such a player puts out is a sequence of whole traversals in the
order of the items, with at most the last one cut short (`Steps.playback`).
-/

namespace Playback

variable {ι α : Type*}

/-- The traversals finished so far, the item under way with the number of its elements played, and
the items skipped. -/
structure Player (ι : Type*) where
  finished : List ι := []
  current : Option (ι × ℕ) := none
  skipped : List ι := []

namespace Player

/-- The items whose traversals were begun, in the order in which they were. -/
def played (P : Player ι) : List ι := P.finished ++ P.current.toList.map Prod.fst

/-- Everything put out: the finished traversals, and the beginning of the current one. -/
def output (content : ι → List α) (P : Player ι) : List α :=
  P.finished.flatMap content ++ P.current.toList.flatMap fun c => (content c.1).take c.2

/-- Items are played in order, and none is left out but those that are skipped. -/
structure Ordered [Preorder ι] (P : Player ι) : Prop where
  sorted : P.played.Pairwise (· ≤ ·)
  skipped : ∀ i ∈ P.skipped, i ∉ P.played
  earlier : ∀ i ∈ P.played, ∀ j < i, j ∈ P.finished ∨ j ∈ P.skipped

theorem ordered_new [Preorder ι] : Ordered ({} : Player ι) where
  sorted := List.Pairwise.nil
  skipped := fun _ h => absurd h List.not_mem_nil
  earlier := fun _ h => absurd h List.not_mem_nil

end Player

open Player

variable [Preorder ι] {content : ι → List α}

/-- A step of a player, with the elements it puts out. -/
inductive Step (content : ι → List α) : Player ι → List α → Player ι → Prop
  | start {P : Player ι} (i : ι) (hidle : P.current = none) (hlast : ∀ j ∈ P.finished, j ≤ i)
      (hskipped : i ∉ P.skipped) (hearlier : ∀ j < i, j ∈ P.finished ∨ j ∈ P.skipped) :
      Step content P [] { P with current := some (i, 0) }
  | play {P : Player ι} {i : ι} {k : ℕ} (n : ℕ) (hcurrent : P.current = some (i, k))
      (hn : k + n ≤ (content i).length) :
      Step content P (((content i).drop k).take n) { P with current := some (i, k + n) }
  | finish {P : Player ι} {i : ι} (hcurrent : P.current = some (i, (content i).length)) :
      Step content P [] { P with finished := P.finished ++ [i], current := none }
  | skip {P : Player ι} (i : ι) (hidle : P.current = none) (hnew : i ∉ P.finished) :
      Step content P [] { P with skipped := P.skipped ++ [i] }

/-- A sequence of steps, with everything they put out. -/
inductive Steps (content : ι → List α) : Player ι → List α → Player ι → Prop
  | refl (P : Player ι) : Steps content P [] P
  | tail {P P' P'' : Player ι} {o o' : List α} (h : Steps content P o P')
      (hstep : Step content P' o' P'') : Steps content P (o ++ o') P''

theorem Step.steps {P P' : Player ι} {o : List α} (h : Step content P o P') :
    Steps content P o P' := by
  simpa using Steps.tail (Steps.refl P) h

/-- A step that puts nothing out. -/
theorem Steps.quiet {P P' P'' : Player ι} {o : List α} (h : Steps content P o P')
    (hstep : Step content P' [] P'') : Steps content P o P'' := by
  simpa using h.tail hstep

theorem Steps.trans {P P' P'' : Player ι} {o o' : List α} (h : Steps content P o P')
    (h' : Steps content P' o' P'') : Steps content P (o ++ o') P'' := by
  induction h' with
  | refl => simpa using h
  | tail _ hstep ih =>
    rw [← List.append_assoc]
    exact ih.tail hstep

/-- A step adds to the output what it puts out. -/
theorem Step.output {P P' : Player ι} {o : List α} (h : Step content P o P') :
    P'.output content = P.output content ++ o := by
  cases h with
  | start i hidle hlast hskipped hearlier => simp [Player.output, hidle]
  | @play i k n hcurrent hn =>
    simp [Player.output, hcurrent, List.take_add, List.append_assoc]
  | finish hcurrent => simp [Player.output, hcurrent]
  | skip i hidle hnew => simp [Player.output]

/-- **A step keeps the order.** -/
theorem Step.ordered {P P' : Player ι} {o : List α} (hP : P.Ordered) (h : Step content P o P') :
    P'.Ordered := by
  obtain ⟨hsorted, hskip, hall⟩ := hP
  cases h with
  | start i hidle hlast hskipped hearlier =>
    simp only [played, hidle, Option.toList_none, List.map_nil, List.append_nil]
      at hsorted hskip hall
    refine ⟨?_, ?_, ?_⟩
    · simpa [played, List.pairwise_append, hsorted] using hlast
    · intro j hj
      simp only [played, Option.toList_some, List.map_cons, List.map_nil, List.mem_append,
        List.mem_singleton, not_or]
      exact ⟨hskip j hj, fun heq => hskipped (heq ▸ hj)⟩
    · intro j hj
      simp only [played, Option.toList_some, List.map_cons, List.map_nil, List.mem_append,
        List.mem_singleton] at hj
      rcases hj with hj | rfl
      · exact hall j hj
      · exact hearlier
  | play n hcurrent hn =>
    simp only [played, hcurrent] at hsorted hskip hall
    exact ⟨hsorted, hskip, hall⟩
  | @finish i hcurrent =>
    simp only [played, hcurrent, Option.toList_some, List.map_cons, List.map_nil]
      at hsorted hskip hall
    refine ⟨by simpa [played] using hsorted, by simpa [played] using hskip, fun j hj l hl => ?_⟩
    have hj : j ∈ P.finished ++ [i] := by simpa [played] using hj
    exact (hall j hj l hl).imp_left (List.mem_append_left _)
  | skip i hidle hnew =>
    simp only [played, hidle, Option.toList_none, List.map_nil, List.append_nil]
      at hsorted hskip hall
    refine ⟨by simpa [played, hidle] using hsorted, ?_, fun j hj l hl => ?_⟩
    · intro j hj
      rcases List.mem_append.mp hj with hj | hj
      · simpa [played, hidle] using hskip j hj
      · simpa [played, hidle, List.mem_singleton.mp hj] using hnew
    · have hj : j ∈ P.finished := by simpa [played, hidle] using hj
      exact (hall j hj l hl).imp_right (List.mem_append_left _)

/-- **What a player puts out** from its beginning is the output of an ordered player. -/
theorem Steps.playback {P : Player ι} {o : List α} (h : Steps content {} o P) :
    P.output content = o ∧ P.Ordered := by
  induction h with
  | refl => exact ⟨rfl, ordered_new⟩
  | tail _ hstep ih => exact ⟨by rw [hstep.output, ih.1], hstep.ordered ih.2⟩

end Playback
