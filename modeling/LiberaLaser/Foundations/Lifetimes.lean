import LiberaLaser.Foundations.Traces

/-!
# Lifetimes of resources and of what is acquired from them

A resource is created and destroyed; while it lives it is used, and children are acquired from it,
used and released. A trace is right when everything happens within the life of the resource, and
the resource is destroyed only after its children were released (`Allowed`). A holder has at most
one child at a time; whatever it does with it is allowed while the resource lives, and leaves every
child released or with the holder (`Handles`).
-/

namespace Lifetimes

variable {ρ γ : Type*}

inductive Event (ρ γ : Type*)
  | create (r : ρ)
  | destroy (r : ρ)
  | use (r : ρ)
  | acquire (r : ρ) (c : γ)
  | release (c : γ)
  | useChild (c : γ)

/-- The resource was created and not destroyed. -/
def Live (tr : List (Event ρ γ)) (r : ρ) : Prop := .create r ∈ tr ∧ .destroy r ∉ tr

/-- The event may happen after these. -/
def Allowed (tr : List (Event ρ γ)) : Event ρ γ → Prop
  | .create _ => True
  | .destroy r => Live tr r ∧ ∀ c, .acquire r c ∈ tr → .release c ∈ tr
  | .use r => Live tr r
  | .acquire r _ => Live tr r
  | .release c => ∃ r, .acquire r c ∈ tr ∧ Live tr r
  | .useChild c => ∃ r, .acquire r c ∈ tr ∧ Live tr r

variable {tr o : List (Event ρ γ)} {r : ρ} {c : γ}

theorem Live.append (h : Live tr r) (ho : .destroy r ∉ o) : Live (tr ++ o) r :=
  ⟨List.mem_append_left o h.1, fun hmem => (List.mem_append.mp hmem).elim h.2 ho⟩

theorem live_create (h : .destroy r ∉ tr) : Live (tr ++ [.create r]) r :=
  ⟨List.mem_append_right tr List.mem_cons_self, by simpa using h⟩

/-- What a holder of at most one child does with a resource, from one child to the next. -/
inductive Handles (r : ρ) : Option γ → List (Event ρ γ) → Option γ → Prop
  | nil (p : Option γ) : Handles r p [] p
  | use {p p' : Option γ} {o : List (Event ρ γ)} (h : Handles r p o p') :
      Handles r p (.use r :: o) p'
  | acquire {p' : Option γ} {o : List (Event ρ γ)} (c : γ) (h : Handles r (some c) o p') :
      Handles r none (.acquire r c :: o) p'
  | useChild {p' : Option γ} {o : List (Event ρ γ)} (c : γ) (h : Handles r (some c) o p') :
      Handles r (some c) (.useChild c :: o) p'
  | release {p' : Option γ} {o : List (Event ρ γ)} (c : γ) (h : Handles r none o p') :
      Handles r (some c) (.release c :: o) p'

namespace Handles

variable {p p' : Option γ}

theorem append {p'' : Option γ} {o' : List (Event ρ γ)} (h : Handles r p o p')
    (h' : Handles r p' o' p'') : Handles r p (o ++ o') p'' := by
  induction h with
  | nil => exact h'
  | use _ ih => exact (ih h').use
  | acquire c _ ih => exact acquire c (ih h')
  | useChild c _ ih => exact useChild c (ih h')
  | release c _ ih => exact release c (ih h')

theorem useChildren (r : ρ) (c : γ) (h : ∀ e ∈ o, e = .useChild c) :
    Handles r (some c) o (some c) := by
  induction o with
  | nil => exact nil _
  | cons e o ih =>
    obtain rfl := h e List.mem_cons_self
    exact useChild c (ih fun e' he' => h e' (List.mem_cons_of_mem _ he'))

theorem uses (r : ρ) (p : Option γ) (h : ∀ e ∈ o, e = .use r) : Handles r p o p := by
  induction o with
  | nil => exact nil _
  | cons e o ih =>
    obtain rfl := h e List.mem_cons_self
    exact use (ih fun e' he' => h e' (List.mem_cons_of_mem _ he'))

theorem create_notMem (h : Handles r p o p') {r' : ρ} : .create r' ∉ o := by
  induction h with
  | nil => exact List.not_mem_nil
  | _ => simpa

theorem destroy_notMem (h : Handles r p o p') {r' : ρ} : .destroy r' ∉ o := by
  induction h with
  | nil => exact List.not_mem_nil
  | _ => simpa

/-- Where nothing is done, the child stays. -/
theorem eq_of_nil (h : Handles r p [] p') : p' = p := by
  cases h
  rfl

/-- Children are acquired from this resource only. -/
theorem eq_of_acquire (h : Handles r p o p') {r' : ρ} (hc : .acquire r' c ∈ o) : r' = r := by
  induction h with
  | nil => cases hc
  | acquire c' _ ih =>
    rcases List.mem_cons.mp hc with hc | hc
    · cases hc
      rfl
    · exact ih hc
  | _ =>
    rename_i ih
    refine ih ((List.mem_cons.mp hc).resolve_left nofun)

/-- The child at the start is released, or stays to the end. -/
theorem start_accounted (h : Handles r (some c) o p') : .release c ∈ o ∨ p' = some c := by
  induction o generalizing p' with
  | nil => exact Or.inr h.eq_of_nil
  | cons e o ih =>
    cases h with
    | use h => exact (ih h).imp_left (List.mem_cons_of_mem _)
    | useChild _ h => exact (ih h).imp_left (List.mem_cons_of_mem _)
    | release _ h => exact Or.inl List.mem_cons_self

/-- A child that is acquired is released, or is the one at the end. -/
theorem acquired_accounted (h : Handles r p o p') {r' : ρ} (hc : .acquire r' c ∈ o) :
    .release c ∈ o ∨ p' = some c := by
  induction h with
  | nil => cases hc
  | acquire c' h ih =>
    rcases List.mem_cons.mp hc with hc | hc
    · cases hc
      exact h.start_accounted.imp_left (List.mem_cons_of_mem _)
    · exact (ih hc).imp_left (List.mem_cons_of_mem _)
  | _ =>
    rename_i ih
    exact (ih ((List.mem_cons.mp hc).resolve_left nofun)).imp_left (List.mem_cons_of_mem _)

/-- The child at the end was there at the start, or was acquired. -/
theorem end_acquired (h : Handles r p o p') (hc : p' = some c) :
    p = some c ∨ .acquire r c ∈ o := by
  induction h with
  | nil => exact Or.inl hc
  | acquire c' h ih =>
    rcases ih hc with heq | hmem
    · cases heq
      exact Or.inr List.mem_cons_self
    · exact Or.inr (List.mem_cons_of_mem _ hmem)
  | release c' h ih => exact Or.inr (List.mem_cons_of_mem _ ((ih hc).resolve_left nofun))
  | _ =>
    rename_i ih
    exact (ih hc).imp_right (List.mem_cons_of_mem _)

/-- **What a holder does is allowed** while the resource lives and the child at the start is from
it. -/
theorem allowed (h : Handles r p o p') (htr : Traces.Always Allowed tr) (hlive : Live tr r)
    (hstart : ∀ c, p = some c → .acquire r c ∈ tr) : Traces.Always Allowed (tr ++ o) := by
  induction h generalizing tr with
  | nil => rwa [List.append_nil]
  | use h ih =>
    rw [List.append_cons]
    exact ih (htr.concat hlive) (hlive.append (by simp)) fun c hc =>
      List.mem_append_left _ (hstart c hc)
  | acquire c h ih =>
    rw [List.append_cons]
    refine ih (htr.concat hlive) (hlive.append (by simp)) ?_
    rintro c' ⟨rfl⟩
    exact List.mem_append_right _ List.mem_cons_self
  | useChild c h ih =>
    rw [List.append_cons]
    exact ih (htr.concat ⟨r, hstart c rfl, hlive⟩) (hlive.append (by simp)) fun c' hc =>
      List.mem_append_left _ (hstart c' hc)
  | release c h ih =>
    rw [List.append_cons]
    exact ih (htr.concat ⟨r, hstart c rfl, hlive⟩) (hlive.append (by simp)) nofun

end Handles

end Lifetimes
