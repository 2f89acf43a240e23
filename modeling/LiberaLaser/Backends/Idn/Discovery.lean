import LiberaLaser.Backends.Avb.Configuration
import LiberaLaser.Foundations.Hexadecimal
import LiberaLaser.Foundations.Table

/-!
# Finding IDN services

The SDK lists the IDN devices as numbered slots, which come and go, and names a slot by the label of
its service. The stable identity of a service is announced by its host in a discovery of our own. A
scan goes over the open slots and matches each with a service announced under its name that no
earlier slot has taken, the one it had before if possible. Where there is none it keeps the identity
that it had, or gets one made of its index.

What the SDK answers and what the hosts announce is arbitrary. How often the SDK is asked to scan
again, the endpoints that the controllers check the health of, and the diagnostics are left out.
-/

namespace LiberaLaser

open ByteString Hexadecimal

namespace Idn

/-! ## Announcements -/

structure AddressInfo where
  errorFlags : ℕ
  ip : ByteString

structure ServiceInfo where
  serviceID : ℕ
  serviceName : ByteString

/-- A host that has answered. Its id are sixteen bytes. -/
structure ServerInfo where
  unitID : { bytes : List UInt8 // bytes.length = 16 }
  hostName : ByteString
  addressTable : List AddressInfo
  serviceTable : List ServiceInfo

/-- A service with its stable id. -/
structure DiscoveredIdnService where
  unitId : ByteString
  controllerId : ByteString
  ip : ByteString
  serviceId : ℕ
  hostName : ByteString
  serviceName : ByteString
  displayLabel : ByteString
  deriving DecidableEq

def makeFallbackLabel (index : ℕ) : ByteString := ofString "IDN " ++ Avb.decimal index

def makeFallbackUnitId (index : ℕ) : ByteString := ofString "unknown-index-" ++ Avb.decimal index

def makeFallbackControllerId (index : ℕ) : ByteString := ofString "idn-" ++ makeFallbackUnitId index

def makeControllerIdFromServiceId (unitId : ByteString) (serviceId : ℕ) : ByteString :=
  ofString "idn-" ++ unitId ++ ofString "-service-" ++ Avb.decimal serviceId

def sdkNameMaxLength : ℕ := 31

def truncateToSdkNameLength (value : ByteString) : ByteString := value.take sdkNameMaxLength

def makeSdkServiceLabel (server : ServerInfo) (service : ServiceInfo) : ByteString :=
  truncateToSdkNameLength (server.hostName ++ ofString " - " ++ service.serviceName)

def makeDisplayServiceLabel (server : ServerInfo) (service : ServiceInfo)
    (fallbackLabel : ByteString) : ByteString :=
  if server.hostName ≠ [] ∧ service.serviceName ≠ [] then
    server.hostName ++ ofString " - " ++ service.serviceName
  else if server.hostName ≠ [] then server.hostName
  else if service.serviceName ≠ [] then service.serviceName
  else fallbackLabel

def encodeUnitIdHex (unitId : List UInt8) : ByteString := bytes lower unitId

/-- A service with the label and the address it can be looked up by. -/
structure Announcement where
  sdkLabel : ByteString
  ip : ByteString
  service : DiscoveredIdnService
  deriving DecidableEq

/-- The services of one host, which needs an address without an error. -/
def announcedServices (server : ServerInfo) : List Announcement :=
  match server.addressTable.find? (·.errorFlags = 0) with
  | none => []
  | some endpoint =>
    let unitId := encodeUnitIdHex server.unitID.1
    server.serviceTable.map fun service =>
      let sdkLabel := makeSdkServiceLabel server service
      { sdkLabel := sdkLabel
        ip := endpoint.ip
        service :=
          { unitId := unitId
            controllerId := makeControllerIdFromServiceId unitId service.serviceID
            ip := endpoint.ip
            serviceId := service.serviceID
            hostName := server.hostName
            serviceName := service.serviceName
            displayLabel := makeDisplayServiceLabel server service sdkLabel } }

def discoverIdnServices (servers : List ServerInfo) : List Announcement :=
  servers.flatMap announcedServices

/-- The services under a label, in the order they were announced in. -/
def servicesByLabel (snapshot : List Announcement) (label : ByteString) :
    List DiscoveredIdnService :=
  (snapshot.filter (·.sdkLabel = label)).map (·.service)

def servicesByIp (snapshot : List Announcement) (ip : ByteString) : List DiscoveredIdnService :=
  (snapshot.filter (·.ip = ip)).map (·.service)

/-- The first service that is not taken, or the preferred one where it is not taken. -/
def matchDiscoveredService (services : List DiscoveredIdnService)
    (preferredControllerId : Option ByteString) (usedControllerIds : List ByteString) :
    Option DiscoveredIdnService :=
  let preferred := preferredControllerId.bind fun id =>
    services.find? fun s => s.controllerId = id ∧ s.controllerId ∉ usedControllerIds
  match preferred with
  | some service => some service
  | none => services.find? fun s => s.controllerId ∉ usedControllerIds

/-! ## Scans -/

/-- What the SDK says of a slot. A name may not be had. -/
structure SdkSlot where
  isClosed : ℤ
  isUsb : ℤ
  name : Option ByteString
  firmwareVersion : ℤ
  deriving DecidableEq

structure IdnControllerInfo where
  idValue : ByteString
  unitId : ByteString
  serviceId : ℕ
  labelValue : ByteString
  index : ℕ
  firmwareVersion : ℤ
  ip : Option ByteString
  hostName : ByteString
  serviceName : ByteString
  deriving DecidableEq

/-- What the manager keeps between scans. -/
structure IdnManager where
  stableUnitIdByIndex : Table ℕ ByteString := ∅
  stableControllerIdByIndex : Table ℕ ByteString := ∅

/-- What a scan has so far. -/
structure Scan extends IdnManager where
  usedControllerIds : List ByteString := []
  seenIndices : List ℕ := []
  results : List IdnControllerInfo := []

/-- The slot is open, and not one of the USB devices that the SDK lists as well. -/
def SdkSlot.isOpen (slot : SdkSlot) : Bool := !decide (0 < slot.isClosed) && slot.isUsb = 0

def SdkSlot.sdkLabel (slot : SdkSlot) (index : ℕ) : ByteString :=
  slot.name.getD (makeFallbackLabel index)

def idnIpPrefix : ByteString := ofString "IDN: "

/-- The address that a name gives, where it gives no more. -/
def labelIp (sdkLabel : ByteString) : Option ByteString :=
  if idnIpPrefix <+: sdkLabel ∧ 5 < sdkLabel.length then some (sdkLabel.drop 5) else none

/-- The service of a slot: under its label, else under its address. -/
def matchSlot (snapshot : List Announcement) (sdkLabel : ByteString)
    (preferredControllerId : Option ByteString) (usedControllerIds : List ByteString) :
    Option DiscoveredIdnService :=
  match matchDiscoveredService (servicesByLabel snapshot (truncateToSdkNameLength sdkLabel))
      preferredControllerId usedControllerIds with
  | some service => some service
  | none =>
    match labelIp sdkLabel with
    | none => none
    | some ip =>
      matchDiscoveredService (servicesByIp snapshot ip) preferredControllerId usedControllerIds

/-- The identity of a slot: that of its service, else the one it had, else one made of its index. -/
def identity (m : IdnManager) (index : ℕ) (matched : Option DiscoveredIdnService) :
    ByteString × ByteString × ℕ :=
  match matched with
  | some service => (service.unitId, service.controllerId, service.serviceId)
  | none =>
    match m.stableUnitIdByIndex.lookup index, m.stableControllerIdByIndex.lookup index with
    | some unitId, some controllerId => (unitId, controllerId, 0)
    | _, _ => (makeFallbackUnitId index, makeFallbackControllerId index, 0)

/-- An identity that is taken is replaced by one made of the index. -/
def separate (usedControllerIds : List ByteString) (index : ℕ) (id : ByteString × ByteString × ℕ) :
    ByteString × ByteString × ℕ :=
  if id.2.1 ∈ usedControllerIds then
    (makeFallbackUnitId index, makeFallbackControllerId index, 0)
  else id

/-- The body of the loop over the slots. -/
def visit (snapshot : List Announcement) (scan : Scan) (index : ℕ) (slot : SdkSlot) : Scan :=
  if !slot.isOpen then scan
  else
    let sdkLabel := slot.sdkLabel index
    let matched := matchSlot snapshot sdkLabel (scan.stableControllerIdByIndex.lookup index)
      scan.usedControllerIds
    let (unitId, controllerId, serviceId) :=
      separate scan.usedControllerIds index (identity scan.toIdnManager index matched)
    let label :=
      match matched with
      | some service => if service.displayLabel ≠ [] then service.displayLabel else sdkLabel
      | none => sdkLabel
    { stableUnitIdByIndex := AList.insert index unitId scan.stableUnitIdByIndex
      stableControllerIdByIndex := AList.insert index controllerId scan.stableControllerIdByIndex
      usedControllerIds := controllerId :: scan.usedControllerIds
      seenIndices := index :: scan.seenIndices
      results := scan.results ++
        [{ idValue := controllerId
           unitId := unitId
           serviceId := serviceId
           labelValue := label
           index := index
           firmwareVersion := slot.firmwareVersion
           ip := (matched.map (·.ip)).or (labelIp sdkLabel)
           hostName := (matched.map (·.hostName)).getD []
           serviceName := (matched.map (·.serviceName)).getD [] }] }

/-- The loop over the slots, from an index on. -/
def visitFrom (snapshot : List Announcement) (scan : Scan) (index : ℕ) : List SdkSlot → Scan
  | [] => scan
  | slot :: slots => visitFrom snapshot (visit snapshot scan index slot) (index + 1) slots

/-- `discover`, where the SDK has some slots. Without any, it returns early. -/
def IdnManager.discover (m : IdnManager) (servers : List ServerInfo) (slots : List SdkSlot) :
    IdnManager × List IdnControllerInfo :=
  if slots = [] then (m, [])
  else
    let scan := visitFrom (discoverIdnServices servers) { toIdnManager := m } 0 slots
    ({ stableUnitIdByIndex := scan.stableUnitIdByIndex.filter (·.1 ∈ scan.seenIndices)
       stableControllerIdByIndex :=
         scan.stableControllerIdByIndex.filter (·.1 ∈ scan.seenIndices) },
      scan.results)

/-- What happens to a manager. -/
inductive Event
  | discover (servers : List ServerInfo) (slots : List SdkSlot)
  | afterCloseControllers

def IdnManager.apply (m : IdnManager) : Event → IdnManager
  | .discover servers slots => (m.discover servers slots).1
  | .afterCloseControllers => {}

/-- A manager after some events. -/
def managerAfter (events : List Event) : IdnManager := events.foldl IdnManager.apply {}

end Idn

end LiberaLaser
