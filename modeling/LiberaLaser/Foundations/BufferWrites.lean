import Mathlib.Data.List.Basic
import Mathlib.Data.List.Perm.Basic

/-!
# Writes into a shared buffer

Several writers fill a buffer one after the other. A write out of bounds fails, the others change
one place each. Writes to different places commute, so the order of writers that keep to their own
places is of no consequence: steps that keep an invariant and commute under it may be taken in any
order (`foldlM_perm`).
-/

namespace BufferWrites

section Steps

variable {σ τ : Type*} {f : σ → τ → Option σ} {I : σ → Prop} {l l₁ l₂ : List τ} {s : σ}

/-- Every step succeeds and keeps the invariant. -/
def Keeps (f : σ → τ → Option σ) (I : σ → Prop) (l : List τ) : Prop :=
  ∀ a ∈ l, ∀ s, I s → ∃ s', f s a = some s' ∧ I s'

theorem Keeps.of_subset (h : Keeps f I l₂) (hsub : l₁ ⊆ l₂) : Keeps f I l₁ :=
  fun a ha => h a (hsub ha)

/-- **Steps that keep an invariant succeed one after the other.** -/
theorem foldlM_total (h : Keeps f I l) (hs : I s) : ∃ s', l.foldlM f s = some s' ∧ I s' := by
  induction l generalizing s with
  | nil => exact ⟨s, rfl, hs⟩
  | cons a l ih =>
    obtain ⟨s₁, hstep, hs₁⟩ := h a List.mem_cons_self s hs
    obtain ⟨s', hrest, hs'⟩ := ih (h.of_subset (List.subset_cons_self a l)) hs₁
    refine ⟨s', ?_, hs'⟩
    rw [List.foldlM_cons, hstep]
    exact hrest

/-- The steps commute wherever the invariant holds. -/
def Commute (f : σ → τ → Option σ) (I : σ → Prop) (l : List τ) : Prop :=
  ∀ a ∈ l, ∀ b ∈ l, a ≠ b → ∀ s, I s → (f s a).bind (f · b) = (f s b).bind (f · a)

theorem Commute.of_subset (h : Commute f I l₂) (hsub : l₁ ⊆ l₂) : Commute f I l₁ :=
  fun a ha b hb => h a (hsub ha) b (hsub hb)

/-- **Steps that commute may be taken in any order.** -/
theorem foldlM_perm (hperm : l₁.Perm l₂) (hkeeps : Keeps f I l₁) (hcomm : Commute f I l₁)
    (hs : I s) : l₁.foldlM f s = l₂.foldlM f s := by
  induction hperm generalizing s with
  | nil => rfl
  | cons a _ ih =>
    obtain ⟨s₁, hstep, hs₁⟩ := hkeeps a List.mem_cons_self s hs
    rw [List.foldlM_cons, List.foldlM_cons, hstep]
    have htail := List.subset_cons_self a
    exact ih (hkeeps.of_subset (htail _)) (hcomm.of_subset (htail _)) hs₁
  | swap a b l =>
    have hswap : (f s b).bind (f · a) = (f s a).bind (f · b) := by
      by_cases hab : a = b
      · rw [hab]
      · exact hcomm b List.mem_cons_self a (List.mem_cons_of_mem b List.mem_cons_self)
          (Ne.symm hab) s hs
    have hrest := congrArg (fun r => Option.bind r fun s' => l.foldlM f s') hswap
    simp only [Option.bind_assoc] at hrest
    exact hrest
  | trans hperm₁ hperm₂ ih₁ ih₂ =>
    rw [ih₁ hkeeps hcomm hs]
    exact ih₂ (hkeeps.of_subset hperm₁.symm.subset) (hcomm.of_subset hperm₁.symm.subset) hs

end Steps

section Writes

variable {α : Type*} {out out' : List α} {ws vs : List (ℕ × α)} {w v : ℕ × α} {i : ℕ}

/-- A write of a value to a place. -/
def write (out : List α) (w : ℕ × α) : Option (List α) :=
  if w.1 < out.length then some (out.set w.1 w.2) else none

/-- The writes one after the other. -/
def writeAll (ws : List (ℕ × α)) (out : List α) : Option (List α) := ws.foldlM write out

/-- The places that are written to. -/
def places (ws : List (ℕ × α)) : List ℕ := ws.map Prod.fst

@[simp] theorem writeAll_nil (out : List α) : writeAll [] out = some out := rfl

theorem writeAll_cons : writeAll (w :: ws) out = (write out w).bind (writeAll ws) := rfl

theorem writeAll_append : writeAll (ws ++ vs) out = (writeAll ws out).bind (writeAll vs) :=
  List.foldlM_append

/-- **Writes within bounds succeed, and leave the other places as they were.** -/
theorem writeAll_total (h : ∀ i ∈ places ws, i < out.length) :
    ∃ out', writeAll ws out = some out' ∧ out'.length = out.length ∧
      ∀ i ∉ places ws, out'[i]? = out[i]? := by
  refine foldlM_total (I := fun out' => out'.length = out.length ∧
    ∀ i ∉ places ws, out'[i]? = out[i]?) ?_ ⟨rfl, fun _ _ => rfl⟩
  rintro w hw out₁ ⟨hlength, hother⟩
  have hplace : w.1 ∈ places ws := List.mem_map_of_mem hw
  have hbound : w.1 < out₁.length := by
    rw [hlength]
    exact h w.1 hplace
  refine ⟨out₁.set w.1 w.2, if_pos hbound, by rw [List.length_set, hlength], fun i hi => ?_⟩
  have hne : w.1 ≠ i := fun heq => hi (heq ▸ hplace)
  rw [List.getElem?_set_ne hne]
  exact hother i hi

theorem write_comm (h : w.1 ≠ v.1) :
    (write out w).bind (write · v) = (write out v).bind (write · w) := by
  unfold write
  by_cases hw : w.1 < out.length
  · by_cases hv : v.1 < out.length
    · simp only [hw, hv, if_true, Option.bind_some, List.length_set]
      rw [List.set_comm w.2 v.2 h]
    · simp [hw, hv]
  · by_cases hv : v.1 < out.length
    · simp [hw, hv]
    · simp [hw, hv]

theorem writeAll_write_comm (h : w.1 ∉ places ws) :
    (writeAll ws out).bind (write · w) = (write out w).bind (writeAll ws) := by
  induction ws generalizing out with
  | nil => exact (Option.bind_some ..).trans (Option.bind_fun_some _).symm
  | cons v ws ih =>
    obtain ⟨hne, hws⟩ := not_or.mp (mt List.mem_cons.mpr h)
    calc (writeAll (v :: ws) out).bind (write · w)
        = (write out v).bind fun out => (writeAll ws out).bind (write · w) := by
          rw [writeAll_cons, Option.bind_assoc]
      _ = ((write out v).bind (write · w)).bind (writeAll ws) := by
          simp only [ih hws, Option.bind_assoc]
      _ = ((write out w).bind (write · v)).bind (writeAll ws) := by
          rw [write_comm (Ne.symm hne)]
      _ = (write out w).bind (writeAll (v :: ws)) := by
          rw [Option.bind_assoc]
          rfl

/-- **Writes to different places commute.** -/
theorem writeAll_comm (out : List α) (h : (places ws).Disjoint (places vs)) :
    (writeAll ws out).bind (writeAll vs) = (writeAll vs out).bind (writeAll ws) := by
  induction vs generalizing out with
  | nil => exact (Option.bind_fun_some _).trans (Option.bind_some ..).symm
  | cons v vs ih =>
    have hv : v.1 ∉ places ws := fun hmem => h hmem List.mem_cons_self
    have hvs : (places ws).Disjoint (places vs) := fun i hi hi' =>
      h hi (List.mem_cons_of_mem _ hi')
    calc (writeAll ws out).bind (writeAll (v :: vs))
        = ((writeAll ws out).bind (write · v)).bind (writeAll vs) := by
          rw [Option.bind_assoc]
          rfl
      _ = ((write out v).bind (writeAll ws)).bind (writeAll vs) := by
          rw [writeAll_write_comm hv]
      _ = (write out v).bind fun out => (writeAll vs out).bind (writeAll ws) := by
          simp only [Option.bind_assoc, ih _ hvs]
      _ = (writeAll (v :: vs) out).bind (writeAll ws) := by
          rw [writeAll_cons, Option.bind_assoc]

end Writes

end BufferWrites
