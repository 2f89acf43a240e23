import LiberaLaser.Core.LaserPoint
import LiberaLaser.Foundations.Loop

/-!
# Writing a frame to a Helios DAC

`writeFrameExtended` fits a frame to the limits of the device and sends it in one bulk transfer. A
frame at too low a rate is sent with every point repeated, a frame at too high a rate or of too many
points is sent with every so many points only, and a frame of an awkward length without its last
point.

The limits are constants of the vendor's SDK, and parameters here. An `unsigned int` wraps at
`2 ^ 32`. A read past the end of the frame and a write past the end of the transfer buffer have no
result. What libusb answers is an input.
-/

namespace LiberaLaser.Helios

open FloatArith Loop

/-- `HELIOS_MAX_POINTS`, `HELIOS_MIN_PPS` and `HELIOS_MAX_PPS`. -/
structure SdkLimits where
  maxPoints : ℕ
  minPps : ℕ
  maxPps : ℕ

/-- The part of a point that is sent. -/
structure HeliosPointExt where
  x : UInt16
  y : UInt16
  r : UInt16
  g : UInt16
  b : UInt16
  i : UInt16
  deriving DecidableEq

/-- The return code of a libusb transfer. -/
inductive LibusbCode
  | success
  | noDevice
  | io
  | other (code : ℤ)
  deriving DecidableEq

/-- What a call returns. -/
inductive HeliosResult
  | success
  | deviceClosed
  | deviceResult
  | nullPoints
  | ppsTooLow
  | tooManyPoints
  | libusb (code : LibusbCode)
  deriving DecidableEq

/-- The outcome of a libusb transfer: its code, and how many bytes it moved. -/
structure TransferOutcome where
  code : LibusbCode
  actualLength : ℕ

/-- What libusb answers to the control message that opens the shutter, and to the bulk transfer. -/
structure UsbOutcomes where
  shutter : TransferOutcome
  bulk : TransferOutcome

/-- The state of a connection: whether it has a handle, is marked closed, and has its shutter
open. -/
structure DirectUsbConnection where
  handle : Bool
  closed : Bool
  shutterOpen : Bool
  deriving DecidableEq

/-- A bulk transfer: the buffer, the number of bytes to send from it, and the timeout. -/
structure Transfer where
  buffer : List UInt8
  length : ℕ
  timeoutMs : ℕ
  deriving DecidableEq

/-- What a write leaves behind: the connection, the transfer if it was reached, and the result. -/
structure WriteOutcome where
  connection : DirectUsbConnection
  transfer : Option Transfer
  result : HeliosResult

/-! ## The connection -/

namespace DirectUsbConnection

def markClosedOnDisconnectLocked (code : LibusbCode) (c : DirectUsbConnection) :
    DirectUsbConnection :=
  if code = .noDevice ∨ code = .io then { c with closed := true } else c

/-- A control message of some length. -/
def sendControlLocked (length : ℕ) (usb : TransferOutcome) (c : DirectUsbConnection) :
    DirectUsbConnection × HeliosResult :=
  if !c.handle || c.closed then (c, .deviceClosed)
  else if usb.code ≠ .success then (c.markClosedOnDisconnectLocked usb.code, .libusb usb.code)
  else if usb.actualLength ≠ length then (c, .deviceResult)
  else (c, .success)

def setShutterLocked (level : Bool) (usb : TransferOutcome) (c : DirectUsbConnection) :
    DirectUsbConnection × HeliosResult :=
  let (c, result) := c.sendControlLocked 2 usb
  (if result = .success then { c with shutterOpen := level } else c, result)

end DirectUsbConnection

/-! ## Fitting the frame to the device -/

/-- How often every point of a frame at too low a rate is repeated. -/
def lowRateFactor (limits : SdkLimits) (pps : ℕ) : ℕ :=
  (limits.minPps / pps + 1) % 2 ^ 32

/-- The points to send, their number and the rate, once the rate is not too low. -/
def duplicatePoints (limits : SdkLimits) (pps : ℕ) (points : List HeliosPointExt) :
    Except HeliosResult (List HeliosPointExt × ℕ × ℕ) :=
  let numOfPoints := points.length
  if pps < limits.minPps then
    if pps = 0 then .error .ppsTooLow
    else
      let lowRateFactor := lowRateFactor limits pps
      if limits.maxPoints < numOfPoints * lowRateFactor % 2 ^ 32 then .error .ppsTooLow
      else
        .ok (points.flatMap (List.replicate lowRateFactor ·),
          numOfPoints * lowRateFactor % 2 ^ 32, pps * lowRateFactor % 2 ^ 32)
  else .ok (points, numOfPoints, pps)

/-- Of how many points one is sent, where the rate is too high or the points are too many. -/
def subSamplingFactor (limits : SdkLimits) (pps numOfPoints : ℕ) : ℕ :=
  Nat.max ((pps / limits.maxPps + 1) % 2 ^ 32) ((numOfPoints / limits.maxPoints + 1) % 2 ^ 32)

/-- The sampling factor, the number of points to send and the rate. -/
def subSample (limits : SdkLimits) (pps numOfPoints : ℕ) : Except HeliosResult (ℕ × ℕ × ℕ) :=
  if limits.maxPps < pps ∨ limits.maxPoints < numOfPoints then
    let samplingFactor := subSamplingFactor limits pps numOfPoints
    let pps := pps / samplingFactor
    let numOfPoints := numOfPoints / samplingFactor
    if pps < limits.minPps then .error .tooManyPoints
    else .ok (samplingFactor, numOfPoints, pps)
  else .ok (1, numOfPoints, pps)

/-- The number of points and the rate that the device is told: the workaround for transfer sizes
that its controller cannot take leaves out a point, and slows the frame down accordingly. -/
def transferSizeWorkaround (D : Type) [FloatArith D] (numOfPoints pps : ℕ) : ℕ × ℕ :=
  if (Int.bmod numOfPoints (2 ^ 32) - 45).tmod 64 = 0 then
    let numOfPointsActual := numOfPoints - 1
    (numOfPointsActual,
      toSize (ofNat pps * ofNat numOfPointsActual / ofNat numOfPoints + 0.5 : D))
  else (numOfPoints, pps)

/-! ## Encoding -/

/-- The transfer buffer while it is written, and the position of the next byte. -/
structure BufferWrite where
  buffer : List UInt8
  bufPos : ℕ
  deriving DecidableEq

/-- Write a byte where the buffer has room for it. -/
def BufferWrite.put (byte : UInt8) (w : BufferWrite) : Option BufferWrite :=
  if w.bufPos < w.buffer.length then
    some { buffer := w.buffer.set w.bufPos byte, bufPos := w.bufPos + 1 }
  else none

def BufferWrite.putAll (bytes : List UInt8) (w : BufferWrite) : Option BufferWrite :=
  bytes.foldlM (fun w byte => w.put byte) w

/-- Twelve bits of each coordinate and eight of each colour. -/
def pointBytes (point : HeliosPointExt) : List UInt8 :=
  let x := point.x >>> 4
  let y := point.y >>> 4
  [(x >>> 4).toUInt8, (((x &&& 0x0F) <<< 4) ||| (y >>> 8)).toUInt8, (y &&& 0xFF).toUInt8,
    (point.r >>> 8).toUInt8, (point.g >>> 8).toUInt8, (point.b >>> 8).toUInt8,
    (point.i >>> 8).toUInt8]

/-- The rate and the number of points, two bytes each, and the flags. -/
def trailerBytes (ppsActual numOfPointsActual flags : ℕ) : List UInt8 :=
  [UInt8.ofNat (ppsActual &&& 0xFF), UInt8.ofNat (ppsActual >>> 8),
    UInt8.ofNat (numOfPointsActual &&& 0xFF), UInt8.ofNat (numOfPointsActual >>> 8),
    UInt8.ofNat flags]

/-- The loop state of the encoding. -/
structure EncodePass where
  i : ℕ
  write : BufferWrite

/-- One pass of the loop: encode the point at `i`. -/
def encodePass (points : List HeliosPointExt) (samplingFactor loopLength : ℕ) (st : EncodePass) :
    Option (Pass EncodePass BufferWrite) :=
  if loopLength ≤ st.i then some (.done st.write)
  else
    match points[st.i]? with
    | none => none
    | some point =>
      match st.write.putAll (pointBytes point) with
      | none => none
      | some write =>
        some (.again { i := (st.i + samplingFactor) % 2 ^ 32, write := write })

/-- The transfer buffer: every so many points of the frame, and the trailer. -/
def encodeFrame (points : List HeliosPointExt)
    (samplingFactor numOfPointsActual ppsActual flags : ℕ) : Option BufferWrite :=
  let loopLength := numOfPointsActual * samplingFactor % 2 ^ 32
  match run (encodePass points samplingFactor loopLength) (loopLength + 1)
      { i := 0, write := ⟨List.replicate (numOfPointsActual * 7 + 5) 0, 0⟩ } with
  | none => none
  | some write => write.putAll (trailerBytes ppsActual numOfPointsActual flags)

/-! ## The write -/

/-- The bulk transfer and what its outcome means. -/
def sendTransfer (write : BufferWrite) (usb : TransferOutcome) (c : DirectUsbConnection) :
    WriteOutcome :=
  let transfer : Transfer :=
    { buffer := write.buffer, length := write.bufPos, timeoutMs := 8 + write.bufPos >>> 5 }
  if usb.code ≠ .success then
    { connection := c.markClosedOnDisconnectLocked usb.code
      transfer := some transfer
      result := .libusb usb.code }
  else
    { connection := c
      transfer := some transfer
      result := if usb.actualLength ≠ write.bufPos then .deviceResult else .success }

/-- Send the encoded frame. The first write opens the shutter. -/
def sendFrame (write : BufferWrite) (usb : UsbOutcomes) (c : DirectUsbConnection) : WriteOutcome :=
  if c.shutterOpen then sendTransfer write usb.bulk c
  else
    let (c, shutterResult) := c.setShutterLocked true usb.shutter
    if shutterResult ≠ .success then
      { connection := c, transfer := none, result := shutterResult }
    else sendTransfer write usb.bulk c

/-- Write a frame. -/
def writeFrameExtended (D : Type) [FloatArith D] (limits : SdkLimits) (usb : UsbOutcomes)
    (pps flags : ℕ) (points : List HeliosPointExt) (c : DirectUsbConnection) :
    Option WriteOutcome :=
  if !c.handle || c.closed then
    some { connection := c, transfer := none, result := .deviceClosed }
  else if points.isEmpty then some { connection := c, transfer := none, result := .nullPoints }
  else
    match duplicatePoints limits pps points with
    | .error result => some { connection := c, transfer := none, result := result }
    | .ok (points, numOfPoints, pps) =>
      match subSample limits pps numOfPoints with
      | .error result => some { connection := c, transfer := none, result := result }
      | .ok (samplingFactor, numOfPoints, pps) =>
        let actual := transferSizeWorkaround D numOfPoints pps
        (encodeFrame points samplingFactor actual.1 actual.2 flags).map (sendFrame · usb c)

end LiberaLaser.Helios
