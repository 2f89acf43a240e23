import LiberaLaser.Backends.Avb.BackendState
import LiberaLaser.Backends.Avb.Configuration
import LiberaLaser.Core.Controller.ContentCalls
import LiberaLaser.Foundations.BufferWrites

/-!
# The audio callback of an AVB device

The banks of a device write their points into one interleaved buffer, one bank after the other in
the order in which a hash map yields them. A bank has eight of the channels of every frame. What a
bank reads from the clock and from its application is an input of its own.

The system is the backend with the data of its controllers. The rate that a runtime tells its
controllers and the setting for half output reach a controller at any time; connection states are
left out.
-/

namespace LiberaLaser

open FloatArith BufferWrites Avb

variable {τ F D : Type}

structure AvbController (τ F D : Type) extends LaserController τ F D where
  stableControllerId : ByteString
  deviceUid : ByteString
  channelOffset : UInt32
  channelCount : UInt32
  currentPointIndex : ℕ := 0
  halfXYOutputEnabled : Bool := false

/-- What the request of a bank reads, as in `requestPoints`. -/
structure BankInput where
  context : RequestContext
  invocation : ℕ

namespace AvbController

variable [FloatArith F] [FloatArith D]

def ofInfo (info : AvbControllerInfo) : AvbController τ F D :=
  { (LaserController.new : LaserController τ F D) with
    stableControllerId := info.idValue
    deviceUid := info.deviceUid
    channelOffset := info.channelOffset
    channelCount := info.channelCount }

/-- The samples of a point. Where both ends of the chain ground one side of a differential pair, the
scan size is doubled, which half output makes up for. -/
def samples (c : AvbController τ F D) (point : LaserPoint F) : List F :=
  let xyScale : F := if c.halfXYOutputEnabled then 0.5 else 1.0
  [sanitizeSignedUnitValue (point.x * xyScale), sanitizeSignedUnitValue (point.y * xyScale),
    sanitizeUnitValue point.r, sanitizeUnitValue point.g, sanitizeUnitValue point.b,
    sanitizeUnitValue point.i, sanitizeUnitValue point.u1, sanitizeUnitValue point.u2]

/-- The writes of a frame, whose first sample stands at `frameOut`. -/
def frameWrites (frameOut : ℕ) (point : LaserPoint F) (c : AvbController τ F D) : List (ℕ × F) :=
  (c.samples point).mapIdx fun k sample => (frameOut + k, sample)

/-- The loop over the frames. -/
def writePoints (totalChannelCount : ℕ) (c : AvbController τ F D) :
    ℕ → List (LaserPoint F) → List F → Option (List F)
  | _, [], output => some output
  | frameIndex, point :: points, output =>
    let frameOut := frameIndex * totalChannelCount + c.channelOffset.toNat
    match writeAll (c.frameWrites frameOut point) output with
    | none => none
    | some output => c.writePoints totalChannelCount (frameIndex + 1) points output

/-- The request for the points of a block. -/
def blockRequest (frameCount : ℕ) (estimatedFirstRenderTime : TimePoint)
    (c : AvbController τ F D) : PointFillRequest where
  minimumPointsRequired := frameCount
  maximumPointsRequired := frameCount
  estimatedFirstPointRenderTime := estimatedFirstRenderTime
  currentPointIndex := c.currentPointIndex

/-- `renderInterleavedBlock`, or nothing where it writes out of bounds or does not return. -/
def renderInterleavedBlock (output : List F) (frameCount totalChannelCount : ℕ)
    (estimatedFirstRenderTime : TimePoint) (input : BankInput) (c : AvbController τ F D) :
    Option (AvbController τ F D × List F) :=
  if frameCount = 0 ∨ totalChannelCount = 0 then some (c, output)
  else
    let endChannel := c.channelOffset + c.channelCount
    if totalChannelCount < endChannel.toNat ∨ c.channelCount < 8 then some (c, output)
    else
      match c.toLaserController.requestPoints (c.blockRequest frameCount estimatedFirstRenderTime)
          input.context input.invocation with
      | none => none
      | some (laser, none) => some ({ c with toLaserController := laser }, output)
      | some (laser, some pointsToSend) =>
        let points := (pointsToSend.map Stamped.point).take frameCount
        match c.writePoints totalChannelCount 0 points output with
        | none => none
        | some output =>
          some ({ c with
            toLaserController := laser
            currentPointIndex := (c.currentPointIndex + points.length) % 2 ^ 64 }, output)

end AvbController

/-- The backend with the data of its controllers, by number, for one device. -/
structure AvbOutput (τ F D : Type) where
  deviceUid : ByteString
  backend : AvbBackendState := {}
  controllers : ℕ → AvbController τ F D

/-- A section of a call, where a bank is connected that was built for the device; a call on a
controller; and the audio callback of a runtime, which the host makes. -/
inductive AvbOutputStep (τ F : Type)
  | connectController (thread : ℕ) (devices : List AvbAudioDeviceInfo)
      (configs : List AvbDeviceConfiguration) (index pointRate : ℕ)
  | backend (step : AvbStep)
  | content (controller : ℕ) (call : LaserController.ContentCall τ F)
  | setHalfXYOutput (controller : ℕ) (enabled : Bool)
  | handleAudioCallback (runtime : ℕ) (banks : List (ℕ × ℕ)) (frameCount channelCount : UInt32)
      (estimatedFirstRenderTime : TimePoint) (input : ℕ → BankInput)

namespace AvbOutput

variable [FloatArith F] [FloatArith D]

/-- No controller has been created, so that of their data nothing is in use. -/
def new (deviceUid : ByteString) : AvbOutput τ F D where
  deviceUid
  controllers _ :=
    { (LaserController.new : LaserController τ F D) with
      stableControllerId := [], deviceUid := [], channelOffset := 0, channelCount := 8 }

/-- The banks that the audio callback renders. -/
def liveBanks (s : AvbOutput τ F D) (runtime : ℕ) : List (ℕ × ℕ) :=
  (s.backend.runtimes runtime).liveBanks s.backend.alive

/-- The body of the loop over the banks. -/
def renderBank (frameCount channelCount : UInt32) (estimatedFirstRenderTime : TimePoint)
    (input : ℕ → BankInput) (state : (ℕ → AvbController τ F D) × List F) (bank : ℕ × ℕ) :
    Option ((ℕ → AvbController τ F D) × List F) :=
  match (state.1 bank.2).renderInterleavedBlock state.2 frameCount.toNat channelCount.toNat
      estimatedFirstRenderTime (input bank.2) with
  | none => none
  | some (controller, output) => some (Function.update state.1 bank.2 controller, output)

/-- `handleAudioCallback`, which fills the buffer of the host, with the banks in the order of the
hash map. -/
def handleAudioCallback (s : AvbOutput τ F D) (runtime : ℕ) (banks : List (ℕ × ℕ))
    (frameCount channelCount : UInt32) (estimatedFirstRenderTime : TimePoint)
    (input : ℕ → BankInput) : Option (AvbOutput τ F D × List F) :=
  if frameCount = 0 ∨ channelCount = 0 then some (s, [])
  else
    let state := (s.backend.runtimes runtime).eraseExpired s.backend.alive
    let output := List.replicate (frameCount.toNat * channelCount.toNat) 0.0
    match banks.foldlM (renderBank frameCount channelCount estimatedFirstRenderTime input)
        (s.controllers, output) with
    | none => none
    | some (controllers, output) =>
      some ({ s with backend := s.backend.setRuntime runtime state, controllers }, output)

/-- The first section of `connectController`, for the bank with the index. A controller that is
created is one of the bank. -/
def connectController (s : AvbOutput τ F D) (thread : ℕ) (info : AvbControllerInfo)
    (pointRate : ℕ) : Option (AvbOutput τ F D) :=
  match s.backend.step (.connectController thread info.channelOffset.toNat pointRate) with
  | none => none
  | some (backend, _) =>
    let created := s.backend.controllerCount < backend.controllerCount
    some { s with
      backend
      controllers :=
        if created then Function.update s.controllers s.backend.controllerCount (.ofInfo info)
        else s.controllers }

/-- What is observed is the buffers that were filled. -/
def step (s : AvbOutput τ F D) :
    AvbOutputStep τ F → Option (AvbOutput τ F D × List (List F))
  | .connectController thread devices configs index pointRate =>
    match (buildConfiguredControllers devices configs)[index]? with
    | none => none
    | some info =>
      if info.deviceUid = s.deviceUid then
        (s.connectController thread info pointRate).map fun s => (s, [])
      else none
  | .backend (.connectController _ _ _) => none
  | .backend step => (s.backend.step step).map fun r => ({ s with backend := r.1 }, [])
  | .content controller call =>
    ((s.controllers controller).contentStep call).map fun r =>
      let c := { s.controllers controller with toLaserController := r.1 }
      ({ s with controllers := Function.update s.controllers controller c }, [])
  | .setHalfXYOutput controller enabled =>
    let c := { s.controllers controller with halfXYOutputEnabled := enabled }
    some ({ s with controllers := Function.update s.controllers controller c }, [])
  | .handleAudioCallback runtime banks frameCount channelCount estimatedFirstRenderTime input =>
    if banks.Perm (s.liveBanks runtime) then
      (s.handleAudioCallback runtime banks frameCount channelCount estimatedFirstRenderTime
        input).map fun r => (r.1, [r.2])
    else none

end AvbOutput

end LiberaLaser
