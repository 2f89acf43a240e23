import LiberaLaser.Backends.Helios.WriteFrame
import LiberaLaser.Foundations.Endian
import LiberaLaser.Foundations.ByteString

/-!
# The USB connection of a Helios DAC

A connection holds the handle of one device, found by the path of its port, with the interface
claimed. Its calls are serialised by a lock. A call that fails because the device is gone marks the
connection closed, and a closed connection may be reopened; closing it is a mark first and, once the
lock is free, the release of the handle.

What libusb answers is an input. Every use of libusb is recorded as an event, with the number of the
handle it is made with: handles are numbered in the order in which they are opened. Timeouts and
delays are left out, and so are null pointers that the callers never pass.
-/

namespace LiberaLaser.Helios

open Endian

/-- A use of libusb. A message that is sent and a frame that is written come with whether they went
through, and a read with what was read, if anything. -/
inductive UsbEvent
  | opened (handle : ℕ) (portPath : ByteString)
  | claimed (handle : ℕ)
  | configured (handle : ℕ)
  | sent (handle : ℕ) (message : List UInt8) (success : Bool)
  | read (handle : ℕ) (response : Option (List UInt8))
  | wrote (handle : ℕ) (transfer : Transfer) (success : Bool)
  | released (handle : ℕ)
  | closed (handle : ℕ)
  deriving DecidableEq

/-- What a read of a response brings. -/
structure Reply where
  code : LibusbCode
  data : List UInt8
  deriving DecidableEq

/-- All bytes of a message were taken. -/
def TransferOutcome.Success (usb : TransferOutcome) (length : ℕ) : Prop :=
  usb.code = .success ∧ usb.actualLength = length

instance (usb : TransferOutcome) (length : ℕ) : Decidable (usb.Success length) :=
  inferInstanceAs (Decidable (_ ∧ _))

/-- A message that is sent. -/
def sentEvent (handle : ℕ) (message : List UInt8) (usb : TransferOutcome) : UsbEvent :=
  .sent handle message (usb.Success message.length)

/-- A response that is read. -/
def Reply.event (reply : Reply) (handle : ℕ) : UsbEvent :=
  .read handle (if reply.code = .success then some reply.data else none)

/-! ## Opening a device -/

/-- A request for the firmware version, and what three reads bring. -/
structure FirmwareQuery where
  request : TransferOutcome
  replies : Vector Reply 3

/-- A device that libusb lists: whether its descriptor says that it is a Helios, the path of its
port, and how its startup goes. -/
structure UsbDevice where
  isHelios : Bool
  portPath : ByteString
  opens : Bool
  claims : Bool
  configures : Bool
  /-- The stale packets that are flushed. -/
  stale : List (List UInt8)
  firmware : Vector FirmwareQuery 2
  announce : Vector TransferOutcome 2

/-- The first response that has the version. -/
def readFirmwareVersion (handle : ℕ) : List Reply → List UsbEvent × Option ℤ
  | [] => ([], none)
  | reply :: replies =>
    if reply.code ≠ .success ∨ reply.data.length < 5 ∨ reply.data.head? ≠ some 0x84 then
      let (events, version) := readFirmwareVersion handle replies
      (reply.event handle :: events, version)
    else ([reply.event handle], some (Int.bmod (little ((reply.data.drop 1).take 4)) (2 ^ 32)))

def queryFirmwareVersion (handle : ℕ) : List FirmwareQuery → List UsbEvent × ℤ
  | [] => ([], 0)
  | query :: queries =>
    if query.request.Success 2 then
      match readFirmwareVersion handle query.replies.toList with
      | (events, some version) => (sentEvent handle [0x04, 0] query.request :: events, version)
      | (events, none) =>
        let (events', version) := queryFirmwareVersion handle queries
        (sentEvent handle [0x04, 0] query.request :: (events ++ events'), version)
    else
      let (events, version) := queryFirmwareVersion handle queries
      (sentEvent handle [0x04, 0] query.request :: events, version)

def queryHeliosUsbFirmwareVersion (handle : ℕ) (queries : Vector FirmwareQuery 2) :
    List UsbEvent × ℤ :=
  queryFirmwareVersion handle queries.toList

/-- The message with `HELIOS_SDK_VERSION`, sent until it goes through. -/
def announceSdkVersion (sdkVersion : UInt8) (handle : ℕ) : List TransferOutcome → List UsbEvent
  | [] => []
  | outcome :: outcomes =>
    sentEvent handle [0x07, sdkVersion] outcome ::
      if outcome.Success 2 then [] else announceSdkVersion sdkVersion handle outcomes

def announceHeliosSdkVersion (sdkVersion : UInt8) (handle : ℕ)
    (outcomes : Vector TransferOutcome 2) : List UsbEvent :=
  announceSdkVersion sdkVersion handle outcomes.toList

/-- What is done with a device that could be opened, and its firmware version if the handle is
kept. -/
def startDevice (sdkVersion : UInt8) (handle : ℕ) (device : UsbDevice) :
    List UsbEvent × Option ℤ :=
  if !device.claims then ([.closed handle], none)
  else if !device.configures then
    ([.claimed handle, .configured handle, .released handle, .closed handle], none)
  else
    let (query, version) := queryHeliosUsbFirmwareVersion handle device.firmware
    (.claimed handle :: .configured handle ::
      (device.stale.map (fun packet => .read handle (some packet)) ++ .read handle none :: query ++
        announceHeliosSdkVersion sdkVersion handle device.announce), some version)

/-- The first device at the port that starts. The handles are numbered from `opened` on, and the
number of the next is returned. -/
def openHeliosUsbConnectionLocked (sdkVersion : UInt8) (portPath : ByteString) :
    ℕ → List UsbDevice → List UsbEvent × Option (ℕ × ℤ) × ℕ
  | opened, [] => ([], none, opened)
  | opened, device :: devices =>
    if !device.isHelios || device.portPath ≠ portPath || !device.opens then
      openHeliosUsbConnectionLocked sdkVersion portPath opened devices
    else
      match startDevice sdkVersion opened device with
      | (events, some version) =>
        (.opened opened device.portPath :: events, some (opened, version), opened + 1)
      | (events, none) =>
        let (events', result) :=
          openHeliosUsbConnectionLocked sdkVersion portPath (opened + 1) devices
        (.opened opened device.portPath :: (events ++ events'), result)

/-! ## The calls of a connection -/

/-- A connection with the number of its handle and the number of the next one. -/
structure UsbConnection extends DirectUsbConnection where
  number : ℕ
  opened : ℕ
  abandonHandleOnClose : Bool := false
  firmwareVersion : ℤ
  deriving DecidableEq

/-- What libusb answers to a request and to the read of its response. -/
structure Exchange where
  request : TransferOutcome
  response : Reply

namespace UsbConnection

variable (c : UsbConnection)

/-- The connection takes no calls. -/
def Unusable : Bool := !c.handle || c.closed

/-- The connection after a transfer. -/
def afterTransfer (code : LibusbCode) : UsbConnection :=
  { c with toDirectUsbConnection := c.markClosedOnDisconnectLocked code }

/-- Send a message. -/
def sendMessage (message : List UInt8) (usb : TransferOutcome) :
    UsbConnection × HeliosResult × List UsbEvent :=
  let (connection, result) := c.sendControlLocked message.length usb
  ({ c with toDirectUsbConnection := connection }, result,
    if c.Unusable then [] else [sentEvent c.number message usb])

/-- Send a request and read the response, if the request goes through. -/
def exchange (message : List UInt8) (usb : Exchange) :
    UsbConnection × Except HeliosResult (List UInt8) × List UsbEvent :=
  match c.sendMessage message usb.request with
  | (c, .success, events) =>
    (c.afterTransfer usb.response.code,
      if usb.response.code = .success then .ok usb.response.data
      else .error (.libusb usb.response.code),
      events ++ [usb.response.event c.number])
  | (c, result, events) => (c, .error result, events)

/-- Whether the device is ready for a frame. -/
def getStatus (usb : Exchange) : UsbConnection × Except HeliosResult Bool × List UsbEvent :=
  match c.exchange [0x03, 0] usb with
  | (c, .ok (0x83 :: state :: _), events) => (c, .ok (state ≠ 0), events)
  | (c, .ok _, events) => (c, .error .deviceResult, events)
  | (c, .error result, events) => (c, .error result, events)

/-- The name that is stored on the device. -/
def getName (usb : Exchange) : UsbConnection × Except HeliosResult ByteString × List UsbEvent :=
  match c.exchange [0x05, 0] usb with
  | (c, .ok (0x85 :: name), events) => (c, .ok ((name.take 31).takeWhile (· ≠ 0)), events)
  | (c, .ok _, events) => (c, .error .deviceResult, events)
  | (c, .error result, events) => (c, .error result, events)

/-- `strncpy` of thirty bytes into a message of zeros. -/
def renameMessage (name : ByteString) : List UInt8 :=
  let text := (name.takeWhile (· ≠ 0)).take 30
  0x06 :: (text ++ List.replicate (31 - text.length) 0)

def setName (name : ByteString) (usb : TransferOutcome) :
    UsbConnection × HeliosResult × List UsbEvent :=
  c.sendMessage (renameMessage name) usb

/-- The uses of libusb that a write makes: the message that opens the shutter, if it was not open
and there was a frame to send, and the frame. -/
def writeEvents (usb : UsbOutcomes) (outcome : WriteOutcome) : List UsbEvent :=
  let shutter := sentEvent c.number [0x02, 1] usb.shutter
  match outcome.transfer, outcome.result with
  | some transfer, _ =>
    (if c.shutterOpen then [] else [shutter]) ++
      [.wrote c.number transfer (outcome.result = .success)]
  | none, .deviceResult | none, .libusb _ => [shutter]
  | none, _ => []

/-- Write a frame. -/
def write (D : Type) [FloatArith D] (limits : SdkLimits) (usb : UsbOutcomes) (pps flags : ℕ)
    (points : List HeliosPointExt) : Option (UsbConnection × HeliosResult × List UsbEvent) :=
  (writeFrameExtended D limits usb pps flags points c.toDirectUsbConnection).map fun outcome =>
    ({ c with toDirectUsbConnection := outcome.connection }, outcome.result,
      c.writeEvents usb outcome)

/-- Let go of the handle, with a message before that stops the device or without. At the end of the
process the handle is abandoned. -/
def closeHandleLocked (stop : Option TransferOutcome) : UsbConnection × List UsbEvent :=
  ({ c with handle := false, shutterOpen := false },
    if !c.handle || c.abandonHandleOnClose then []
    else
      stop.toList.map (sentEvent c.number [0x01, 0]) ++ [.released c.number, .closed c.number])

/-- Close what is left of the handle and open the device at the port again. -/
def tryReconnect (sdkVersion : UInt8) (portPath : ByteString) (devices : List UsbDevice) :
    UsbConnection × Bool × List UsbEvent :=
  if portPath.isEmpty then (c, false, [])
  else if !c.closed then (c, true, [])
  else
    let (c, events) := c.closeHandleLocked none
    match openHeliosUsbConnectionLocked sdkVersion portPath c.opened devices with
    | (events', none, opened) => ({ c with opened := opened }, false, events ++ events')
    | (events', some (number, version), opened) =>
      ({ c with handle := true, closed := false, shutterOpen := false, number := number,
                opened := opened, firmwareVersion := version }, true, events ++ events')

def requestReconnect : UsbConnection := { c with closed := true }

def prepareForShutdown : UsbConnection := { c with abandonHandleOnClose := true }

end UsbConnection

end LiberaLaser.Helios
