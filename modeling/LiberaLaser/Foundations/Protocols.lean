import Mathlib.Data.List.Basic
import Mathlib.Logic.Function.Basic

/-!
# Protocols

A protocol is a partial automaton: an event leads from a stage to the next, or is not allowed there.
Where the events concern keys, every key has a stage of its own, and a trace follows the protocol if
the events of each key do. Events of one key move the stage of that key alone (`LeadsAll.single`).
-/

namespace Protocols

variable {σ ε κ : Type*}

/-- The events lead from one stage to another. -/
def Leads (next : σ → ε → Option σ) (s : σ) (events : List ε) (s' : σ) : Prop :=
  events.foldlM next s = some s'

instance [DecidableEq σ] (next : σ → ε → Option σ) (s : σ) (events : List ε) (s' : σ) :
    Decidable (Leads next s events s') := inferInstanceAs (Decidable (_ = _))

section Leads

variable {next : σ → ε → Option σ} {s s' s'' : σ} {events events' : List ε}

@[simp] theorem leads_nil : Leads next s [] s' ↔ s = s' := by
  simp [Leads]

theorem leads_cons {e : ε} :
    Leads next s (e :: events) s'' ↔ ∃ s', next s e = some s' ∧ Leads next s' events s'' := by
  simp [Leads, Option.bind_eq_some_iff]

theorem leads_append :
    Leads next s (events ++ events') s'' ↔
      ∃ s', Leads next s events s' ∧ Leads next s' events' s'' := by
  simp [Leads, Option.bind_eq_some_iff]

theorem Leads.append (h : Leads next s events s') (h' : Leads next s' events' s'') :
    Leads next s (events ++ events') s'' := leads_append.mpr ⟨s', h, h'⟩

/-- Events that are allowed at a stage and stay there. -/
theorem leads_of_forall (h : ∀ e ∈ events, next s e = some s) : Leads next s events s := by
  induction events with
  | nil => exact leads_nil.mpr rfl
  | cons e events ih =>
    rw [leads_cons]
    exact ⟨s, h e List.mem_cons_self, ih fun e' he' => h e' (List.mem_cons_of_mem _ he')⟩

end Leads

/-! ## A stage for every key -/

section Keys

variable [DecidableEq κ]

/-- The events of every key lead from its stage to another. -/
def LeadsAll (next : σ → ε → Option σ) (key : ε → κ) (stage : κ → σ) (events : List ε)
    (stage' : κ → σ) : Prop :=
  ∀ k, Leads next (stage k) (events.filter (key · = k)) (stage' k)

variable {next : σ → ε → Option σ} {key : ε → κ} {stage stage' stage'' : κ → σ}
  {events events' : List ε}

theorem LeadsAll.nil : LeadsAll next key stage [] stage := fun _ => leads_nil.mpr rfl

theorem LeadsAll.append (h : LeadsAll next key stage events stage')
    (h' : LeadsAll next key stage' events' stage'') :
    LeadsAll next key stage (events ++ events') stage'' := by
  intro k
  rw [List.filter_append]
  exact (h k).append (h' k)

/-- **Events of one key** move its stage alone. -/
theorem LeadsAll.single {k : κ} {s : σ} (hkey : ∀ e ∈ events, key e = k)
    (h : Leads next (stage k) events s) :
    LeadsAll next key stage events (Function.update stage k s) := by
  intro k'
  by_cases hk : k' = k
  · subst hk
    rw [Function.update_self, List.filter_eq_self.mpr fun e he => decide_eq_true (hkey e he)]
    exact h
  · have hnone : events.filter (key · = k') = [] :=
      List.filter_eq_nil_iff.mpr fun e he => by simpa [hkey e he] using Ne.symm hk
    rw [Function.update_of_ne hk, hnone]
    exact leads_nil.mpr rfl

/-- Events of one key that stay at its stage change nothing. -/
theorem LeadsAll.stay {k : κ} (hkey : ∀ e ∈ events, key e = k)
    (h : ∀ e ∈ events, next (stage k) e = some (stage k)) :
    LeadsAll next key stage events stage := by
  have hsingle := LeadsAll.single hkey (leads_of_forall h)
  rwa [Function.update_eq_self] at hsingle

end Keys

end Protocols
