import Mathlib.Order.Defs.Unbundled

/-!
# Programs that fail

A program of the monad `EStateM` changes a state and may fail, in which case the changes made so far
stay. `Keeps R` says that the state after the program is in relation to the state before, whichever
way it ends; for a reflexive and transitive relation it passes through the parts of a program.
-/

namespace EStateM

variable {ε ε' σ α β : Type}

/-- The state in which a program ends. -/
def Result.final : Result ε σ α → σ
  | .ok _ s | .error _ s => s

/-- The program that only looks at the state. -/
def reading (f : σ → Except ε α) : EStateM ε σ α := fun s =>
  match f s with
  | .ok a => .ok a s
  | .error e => .error e s

/-- The program with a clean-up where it fails. -/
def onFailure (clean : σ → σ) (x : EStateM ε σ α) : EStateM ε σ α := fun s =>
  match x s with
  | .ok a s' => .ok a s'
  | .error e s' => .error e (clean s')

/-! ## Returns -/

variable {x : EStateM ε σ α} {s s' : σ} {a : α} {b : β}

theorem bind_apply (x : EStateM ε σ α) (f : α → EStateM ε σ β) (s : σ) :
    (x >>= f) s = match x s with
      | .ok a s₁ => f a s₁
      | .error e s₁ => .error e s₁ := rfl

theorem bind_eq_ok {f : α → EStateM ε σ β} :
    (x >>= f) s = .ok b s' ↔ ∃ a s₁, x s = .ok a s₁ ∧ f a s₁ = .ok b s' := by
  rw [bind_apply]
  cases x s with
  | ok a s₁ => exact ⟨fun h => ⟨a, s₁, rfl, h⟩, fun ⟨_, _, h, hf⟩ => by cases h; exact hf⟩
  | error e s₁ => exact ⟨nofun, fun ⟨_, _, h, _⟩ => nomatch h⟩

theorem ok_eq_ok {a' : α} : (Result.ok a s : Result ε σ α) = .ok a' s' ↔ a = a' ∧ s' = s :=
  ⟨fun h => by cases h; exact ⟨rfl, rfl⟩, fun ⟨ha, hs⟩ => by rw [ha, hs]⟩

/-- A program that returns under a condition only. -/
theorem ite_eq_ok {c : Prop} [Decidable c] {a' : α} {e : ε} {s₁ s₂ : σ} :
    (if c then Result.ok a s₁ else .error e s₂) = .ok a' s' ↔ c ∧ a = a' ∧ s' = s₁ := by
  split
  · rename_i hc
    rw [ok_eq_ok]
    exact ⟨fun h => ⟨hc, h⟩, fun h => h.2⟩
  · rename_i hc
    exact ⟨nofun, fun h => absurd h.1 hc⟩

theorem bind_of_ok {f : α → EStateM ε σ β} (h : x s = .ok a s') : (x >>= f) s = f a s' := by
  rw [bind_apply, h]

theorem adaptExcept_eq_ok {f : ε → ε'} :
    (EStateM.adaptExcept f x) s = .ok a s' ↔ x s = .ok a s' := by
  rw [EStateM.adaptExcept]
  cases x s with
  | ok a₁ s₁ => exact ⟨fun h => by cases h; rfl, fun h => by cases h; rfl⟩
  | error e s₁ => exact ⟨nofun, nofun⟩

theorem reading_eq_ok {f : σ → Except ε α} :
    reading f s = .ok a s' ↔ f s = .ok a ∧ s' = s := by
  rw [reading]
  cases f s with
  | ok a₁ => exact ⟨fun h => by cases h; exact ⟨rfl, rfl⟩, fun ⟨h, hs⟩ => by cases h; rw [hs]⟩
  | error e => exact ⟨nofun, fun h => nomatch h.1⟩

theorem onFailure_eq_ok {clean : σ → σ} : onFailure clean x s = .ok a s' ↔ x s = .ok a s' := by
  rw [onFailure]
  cases x s with
  | ok a₁ s₁ => exact Iff.rfl
  | error e s₁ => exact ⟨nofun, nofun⟩

/-! ## Failures -/

variable {e : ε} {e' : ε'}

theorem bind_eq_error {f : α → EStateM ε σ β} : (x >>= f) s = .error e s' ↔
    x s = .error e s' ∨ ∃ a s₁, x s = .ok a s₁ ∧ f a s₁ = .error e s' := by
  rw [bind_apply]
  cases x s with
  | ok a s₁ =>
    exact ⟨fun h => .inr ⟨a, s₁, rfl, h⟩, fun h => by
      rcases h with h | ⟨_, _, h, hf⟩
      · cases h
      · cases h
        exact hf⟩
  | error e₁ s₁ =>
    exact ⟨fun h => .inl (by cases h; rfl), fun h => by
      rcases h with h | ⟨_, _, h, _⟩
      · cases h
        rfl
      · cases h⟩

theorem adaptExcept_eq_error {f : ε → ε'} :
    (EStateM.adaptExcept f x) s = .error e' s' ↔ ∃ e, x s = .error e s' ∧ f e = e' := by
  rw [EStateM.adaptExcept]
  cases x s with
  | ok a₁ s₁ => exact ⟨nofun, fun ⟨_, h, _⟩ => nomatch h⟩
  | error e₁ s₁ =>
    exact ⟨fun h => by cases h; exact ⟨e₁, rfl, rfl⟩, fun ⟨_, h, hf⟩ => by cases h; rw [← hf]⟩

theorem reading_eq_error {f : σ → Except ε α} :
    reading f s = .error e s' ↔ f s = .error e ∧ s' = s := by
  rw [reading]
  cases f s with
  | ok a => exact ⟨nofun, fun h => nomatch h.1⟩
  | error e₁ => exact ⟨fun h => by cases h; exact ⟨rfl, rfl⟩, fun ⟨h, hs⟩ => by cases h; rw [hs]⟩

theorem onFailure_eq_error {clean : σ → σ} :
    onFailure clean x s = .error e s' ↔ ∃ s₁, x s = .error e s₁ ∧ clean s₁ = s' := by
  rw [onFailure]
  cases x s with
  | ok a₁ s₁ => exact ⟨nofun, fun ⟨_, h, _⟩ => nomatch h⟩
  | error e₁ s₁ =>
    exact ⟨fun h => by cases h; exact ⟨s₁, rfl, rfl⟩, fun ⟨_, h, hs⟩ => by cases h; rw [← hs]⟩

/-! ## Success -/

/-- The program returns. -/
def Succeeds (x : EStateM ε σ α) (s : σ) : Prop := ∃ a s', x s = .ok a s'

/-- A program returns when its first part does and, after it, its second part. -/
theorem succeeds_bind {f : α → EStateM ε σ β} {P : Prop}
    (h : ∀ a s₁, x s = .ok a s₁ → (Succeeds (f a) s₁ ↔ P)) :
    Succeeds (x >>= f) s ↔ Succeeds x s ∧ P := by
  constructor
  · rintro ⟨b, s', hbind⟩
    obtain ⟨a, s₁, hx, hf⟩ := bind_eq_ok.mp hbind
    exact ⟨⟨a, s₁, hx⟩, (h a s₁ hx).mp ⟨b, s', hf⟩⟩
  · rintro ⟨⟨a, s₁, hx⟩, hP⟩
    obtain ⟨b, s', hf⟩ := (h a s₁ hx).mpr hP
    exact ⟨b, s', bind_eq_ok.mpr ⟨a, s₁, hx, hf⟩⟩

theorem succeeds_pure (a : α) : Succeeds (pure a : EStateM ε σ α) s := ⟨a, s, rfl⟩

theorem succeeds_adaptExcept {f : ε → ε'} :
    Succeeds (EStateM.adaptExcept f x) s ↔ Succeeds x s := by
  simp only [Succeeds, adaptExcept_eq_ok]

theorem succeeds_onFailure {clean : σ → σ} : Succeeds (onFailure clean x) s ↔ Succeeds x s := by
  simp only [Succeeds, onFailure_eq_ok]

theorem succeeds_reading {f : σ → Except ε α} : Succeeds (reading f) s ↔ ∃ a, f s = .ok a := by
  simp only [Succeeds, reading_eq_ok, exists_and_left, exists_eq, and_true]

theorem succeeds_unit {x : EStateM ε σ Unit} : Succeeds x s ↔ ∃ s', x s = .ok () s' :=
  ⟨fun ⟨_, s', h⟩ => ⟨s', h⟩, fun ⟨s', h⟩ => ⟨(), s', h⟩⟩

/-! ## What a program keeps -/

section Keeps

variable {R : σ → σ → Prop}

/-- The state after the program is in relation to the state before. -/
def Keeps (R : σ → σ → Prop) (x : EStateM ε σ α) : Prop := ∀ s, R s (x s).final

theorem Keeps.of_ok (h : Keeps R x) (hx : x s = .ok a s') : R s s' := by
  have hs := h s
  rw [hx] at hs
  exact hs

theorem Keeps.of_error (h : Keeps R x) (hx : x s = .error e s') : R s s' := by
  have hs := h s
  rw [hx] at hs
  exact hs

theorem keeps_pure [Std.Refl R] (a : α) : Keeps R (pure a : EStateM ε σ α) :=
  fun s => Std.Refl.refl s

theorem keeps_throw [Std.Refl R] (e : ε) : Keeps R (throw e : EStateM ε σ α) :=
  fun s => Std.Refl.refl s

theorem keeps_reading [Std.Refl R] (f : σ → Except ε α) : Keeps R (reading f) := by
  intro s
  rw [reading]
  cases f s with
  | ok a => exact Std.Refl.refl s
  | error e => exact Std.Refl.refl s

/-- A program keeps what its first part and, where that returns, its second part keep. -/
theorem final_bind [IsTrans σ R] {f : α → EStateM ε σ β} (hx : R s (x s).final)
    (hf : ∀ a s₁, x s = .ok a s₁ → R s₁ (f a s₁).final) : R s ((x >>= f) s).final := by
  rw [bind_apply]
  cases h : x s with
  | ok a s₁ =>
    rw [h] at hx
    exact IsTrans.trans _ _ _ hx (hf a s₁ h)
  | error e s₁ =>
    rw [h] at hx
    exact hx

theorem Keeps.bind [IsTrans σ R] {f : α → EStateM ε σ β} (hx : Keeps R x)
    (hf : ∀ a, Keeps R (f a)) : Keeps R (x >>= f) :=
  fun s => final_bind (hx s) fun a s₁ _ => hf a s₁

theorem Keeps.adaptExcept {f : ε → ε'} (hx : Keeps R x) : Keeps R (EStateM.adaptExcept f x) := by
  intro s
  have hs := hx s
  rw [EStateM.adaptExcept]
  cases h : x s with
  | ok a s₁ =>
    rw [h] at hs
    exact hs
  | error e s₁ =>
    rw [h] at hs
    exact hs

theorem Keeps.onFailure [IsTrans σ R] {clean : σ → σ} (hx : Keeps R x)
    (hclean : ∀ s, R s (clean s)) : Keeps R (EStateM.onFailure clean x) := by
  intro s
  have hs := hx s
  rw [EStateM.onFailure]
  cases h : x s with
  | ok a s₁ =>
    rw [h] at hs
    exact hs
  | error e s₁ =>
    rw [h] at hs
    exact IsTrans.trans _ _ _ hs (hclean s₁)

end Keeps

end EStateM
