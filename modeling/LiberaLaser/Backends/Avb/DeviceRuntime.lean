import LiberaLaser.Foundations.Table

/-!
# The runtime of an AVB device

The output banks of a device share one runtime: its audio stream, and weak pointers to the bank
controllers by channel offset. `open` and `close` are not under a lock, so that each of their
accesses to the stream or to the rate is a step of its own, and two of these calls can interleave.
The audio host decides whether a stream opens, and at which rate.
-/

namespace LiberaLaser

structure AvbDeviceRuntime where
  stream : Bool := false
  currentPointRate : ℕ := 0
  banksByOffset : Table ℕ ℕ := ∅

/-- Where a call of `open` stands. -/
inductive AvbOpening
  | checking
  /-- There is a stream, and its rate is read next. -/
  | comparing
  | closing
  | clearing
  | creating
  | starting
  /-- The stream has started, and its rate is stored next. -/
  | storing (actualPointRate : ℕ)
  deriving DecidableEq

/-- What follows a step of `open`. -/
inductive AvbOpenResult
  | goesOn (next : AvbOpening)
  | returns (result : Bool)
  deriving DecidableEq

/-- The call has found the stream to run, and will return `true`. -/
def AvbOpening.hasStarted : AvbOpening → Bool
  | .storing _ => true
  | _ => false

/-- The next step leaves no stream. -/
def AvbOpening.resets (opened : Option ℕ) : AvbOpening → Bool
  | .closing => true
  | .creating | .starting => opened.isNone
  | _ => false

namespace AvbDeviceRuntime

/-- The first step of `close`. -/
def resetStream (runtime : AvbDeviceRuntime) : AvbDeviceRuntime :=
  { runtime with stream := false }

/-- The second step of `close`. -/
def clearPointRate (runtime : AvbDeviceRuntime) : AvbDeviceRuntime :=
  { runtime with currentPointRate := 0 }

/-- `close`, where nobody else has the runtime. -/
def close (runtime : AvbDeviceRuntime) : AvbDeviceRuntime :=
  runtime.resetStream.clearPointRate

/-- One step of `open`. `opened` is what the host answers: whether it opens a stream where one is
created, and the rate that the stream reports where it starts. -/
def openStep (runtime : AvbDeviceRuntime) (pointRate : ℕ) (opened : Option ℕ) :
    AvbOpening → AvbDeviceRuntime × AvbOpenResult
  | .checking =>
    (runtime,
      if pointRate = 0 then .returns false
      else if runtime.stream then .goesOn .comparing
      else .goesOn .closing)
  | .comparing =>
    (runtime, if runtime.currentPointRate = pointRate then .returns true else .goesOn .closing)
  | .closing => (runtime.resetStream, .goesOn .clearing)
  | .clearing => (runtime.clearPointRate, .goesOn .creating)
  | .creating => ({ runtime with stream := opened.isSome }, .goesOn .starting)
  | .starting =>
    if runtime.stream then
      match opened with
      | none => (runtime.resetStream, .returns false)
      | some actualPointRate =>
        (runtime, .goesOn (.storing (if actualPointRate > 0 then actualPointRate else pointRate)))
    else (runtime, .returns false)
  | .storing actualPointRate =>
    ({ runtime with currentPointRate := actualPointRate }, .returns true)

def attachController (runtime : AvbDeviceRuntime) (channelOffset controller : ℕ) :
    AvbDeviceRuntime :=
  { runtime with banksByOffset := AList.insert channelOffset controller runtime.banksByOffset }

def detachController (runtime : AvbDeviceRuntime) (channelOffset : ℕ) : AvbDeviceRuntime :=
  { runtime with banksByOffset := runtime.banksByOffset.erase channelOffset }

/-- The banks before the first live one have expired, and are erased. -/
def hasAttachedControllers (runtime : AvbDeviceRuntime) (alive : ℕ → Bool) :
    AvbDeviceRuntime × Bool :=
  ({ runtime with banksByOffset := runtime.banksByOffset.dropWhile fun bank => !alive bank.2 },
    runtime.banksByOffset.entries.any fun bank => alive bank.2)

/-- The banks whose controllers live, with the channels they start at. -/
def liveBanks (runtime : AvbDeviceRuntime) (alive : ℕ → Bool) : List (ℕ × ℕ) :=
  (runtime.banksByOffset.entries.map fun bank => (bank.1, bank.2)).filter fun bank => alive bank.2

/-- The audio callback erases all banks that have expired. -/
def eraseExpired (runtime : AvbDeviceRuntime) (alive : ℕ → Bool) : AvbDeviceRuntime :=
  { runtime with banksByOffset := runtime.banksByOffset.filter fun bank => alive bank.2 }

variable {runtime : AvbDeviceRuntime} {pointRate : ℕ} {opened : Option ℕ} {opening : AvbOpening}

theorem lookup_of_mem_liveBanks {alive : ℕ → Bool} {bank : ℕ × ℕ}
    (h : bank ∈ runtime.liveBanks alive) : runtime.banksByOffset.lookup bank.1 = some bank.2 := by
  obtain ⟨e, he, rfl⟩ := List.mem_map.mp (List.mem_filter.mp h).1
  exact AList.mem_lookup_iff.mpr he

@[simp] theorem openStep_banksByOffset :
    (runtime.openStep pointRate opened opening).1.banksByOffset = runtime.banksByOffset := by
  cases opening with
  | starting =>
    simp only [openStep]
    split
    · cases opened <;> rfl
    · rfl
  | _ => rfl

/-- A stream is lost only in a step that resets it. -/
theorem stream_openStep (hstream : runtime.stream = true) (h : opening.resets opened = false) :
    (runtime.openStep pointRate opened opening).1.stream = true := by
  cases opening with
  | closing => cases h
  | creating => simpa [openStep, AvbOpening.resets, Option.isSome_eq_false_iff] using h
  | starting =>
    simp only [openStep, hstream, if_true]
    cases opened with
    | none => cases h
    | some actualPointRate => exact hstream
  | _ => exact hstream

/-- A call goes on to store the rate when it has seen the stream. -/
theorem stream_of_hasStarted {next : AvbOpening}
    (h : (runtime.openStep pointRate opened opening).2 = .goesOn next)
    (hnext : next.hasStarted = true) :
    (runtime.openStep pointRate opened opening).1.stream = true := by
  cases opening with
  | starting =>
    simp only [openStep] at h ⊢
    split at h
    · rename_i hstream
      simp only [hstream, if_true]
      cases opened with
      | none => cases h
      | some actualPointRate => exact hstream
    · cases h
  | checking =>
    rw [openStep] at h
    dsimp only at h
    split_ifs at h <;> cases h <;> cases hnext
  | comparing =>
    rw [openStep] at h
    dsimp only at h
    split_ifs at h
    cases h
    cases hnext
  | storing actualPointRate => cases h
  | closing | clearing | creating =>
    cases h
    cases hnext

/-- A call that returns `true` has started the stream, or found the rate. -/
theorem opening_of_returns (h : (runtime.openStep pointRate opened opening).2 = .returns true) :
    opening.hasStarted = true ∨ opening = .comparing ∧ runtime.currentPointRate = pointRate := by
  cases opening with
  | comparing =>
    rw [openStep] at h
    dsimp only at h
    split at h
    · rename_i hrate
      exact Or.inr ⟨rfl, hrate⟩
    · cases h
  | storing actualPointRate => exact Or.inl rfl
  | checking =>
    rw [openStep] at h
    dsimp only at h
    split_ifs at h
    cases h
  | starting =>
    simp only [openStep] at h
    split at h
    · cases opened <;> cases h
    · cases h
  | closing | clearing | creating => cases h

end AvbDeviceRuntime

end LiberaLaser
