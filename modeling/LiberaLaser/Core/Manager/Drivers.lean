import LiberaLaser.Foundations.ByteString
import LiberaLaser.Foundations.Table
import LiberaLaser.Foundations.Traces

/-!
# The drivers of a system

Every driver registers a factory for the manager of one family of controllers. A system makes one
manager for a family at most, since two would compete for the same hardware: the one that was asked
for, else the first that is built in, else the only one there is. The families are visited in
whatever order the map has, and a factory may make nothing, or a manager of another family, which is
closed at once.

A system sends every call to the manager of the driver that the call names, and closes its managers
when it is shut down. The plugins that register drivers are left out; a registration may come from
anywhere.
-/

namespace LiberaLaser

structure ControllerManagerInfo where
  driverId : ByteString
  type : ByteString
  displayName : ByteString
  description : ByteString
  builtIn : Bool := true
  deriving DecidableEq

/-- A registration, with or without a factory. -/
structure ControllerManagerRegistration where
  info : ControllerManagerInfo
  factory : Bool
  deriving DecidableEq

namespace ControllerManagers

def normalizeRegistration (registration : ControllerManagerRegistration) :
    ControllerManagerRegistration :=
  if registration.info.displayName = [] then
    { registration with info := { registration.info with displayName := registration.info.type } }
  else registration

def hasRegisteredDriverId (registrations : List ControllerManagerRegistration)
    (driverId : ByteString) : Bool :=
  if driverId = [] then false else registrations.any (·.info.driverId = driverId)

/-- `AddControllerManager`. -/
def addControllerManager (registrations : List ControllerManagerRegistration)
    (registration : ControllerManagerRegistration) : List ControllerManagerRegistration :=
  let registration := normalizeRegistration registration
  if !registration.factory then registrations
  else if registration.info.driverId = [] ∨ registration.info.type = [] then registrations
  else if hasRegisteredDriverId registrations registration.info.driverId then registrations
  else registrations ++ [registration]

/-- What is registered after some calls. -/
def registeredAfter (calls : List ControllerManagerRegistration) :
    List ControllerManagerRegistration :=
  calls.foldl addControllerManager []

end ControllerManagers

/-! ## The choice of a driver -/

/-- The options of a system, over the choices that are saved. -/
structure SystemOptions where
  disabledControllerTypes : List ByteString := []
  selectedControllerDrivers : List (ByteString × ByteString) := []
  deriving DecidableEq

namespace System

open ControllerManagers

/-- The drivers that are asked for, by family. -/
def selectedDrivers (saved : Table ByteString ByteString) (options : SystemOptions) :
    Table ByteString ByteString :=
  options.selectedControllerDrivers.foldl (fun selected e => AList.insert e.1 e.2 selected) saved

def controllerTypeEnabled (options : SystemOptions) (type : ByteString) : Bool :=
  type = [] || type ∉ options.disabledControllerTypes

/-- The registrations of a family, in the order they were made in. -/
def registrationsByType (registrations : List ControllerManagerRegistration)
    (options : SystemOptions) (type : ByteString) : List ControllerManagerRegistration :=
  registrations.filter fun r =>
    r.factory && controllerTypeEnabled options r.info.type && r.info.type = type

/-- The driver of a family. -/
def selectDriver (registrations : List ControllerManagerRegistration)
    (requested : Option ByteString) : Option ControllerManagerRegistration :=
  let selected := requested.bind fun id => registrations.find? (·.info.driverId = id)
  let selected :=
    match selected with
    | some registration => some registration
    | none => registrations.find? (·.info.builtIn)
  match selected, registrations with
  | some registration, _ => some registration
  | none, [registration] => some registration
  | none, _ => none

/-! ## Systems -/

structure ActiveManager where
  driverId : ByteString
  manager : ℕ
  deriving DecidableEq

/-- What a system does with the managers it makes, and the controllers that it lists: from which
manager, and under which driver. -/
inductive ManagerEvent
  | create (manager : ℕ) (driverId : ByteString)
  | closeAll (manager : ℕ)
  | discover (manager : ℕ)
  | listed (manager : ℕ) (driverId : ByteString)
  | connectController (manager : ℕ) (driverId : ByteString)
  | disconnectController (manager : ℕ) (driverId : ByteString)
  deriving DecidableEq

end System

/-- A system. The managers are numbered as they are made. -/
structure System where
  managers : List System.ActiveManager := []
  managerByDriverId : Table ByteString ℕ := ∅
  shutdownComplete : Bool := false
  created : ℕ := 0

namespace System

open ControllerManagers

/-- What the factories of the drivers make: nothing, or a manager of a family. -/
abbrev Factories := ByteString → Option ByteString

/-- The body of the loop over the families. -/
def activate (registrations : List ControllerManagerRegistration)
    (selected : Table ByteString ByteString) (options : SystemOptions) (factories : Factories)
    (s : System) (type : ByteString) : System × List ManagerEvent :=
  match selectDriver (registrationsByType registrations options type) (selected.lookup type) with
  | none => (s, [])
  | some registration =>
    let driverId := registration.info.driverId
    match factories driverId with
    | none => (s, [])
    | some managedType =>
      let manager := s.created
      let s := { s with created := s.created + 1 }
      if managedType ≠ type then (s, [.create manager driverId, .closeAll manager])
      else
        ({ s with
            managerByDriverId := AList.insert driverId manager s.managerByDriverId
            managers := s.managers ++ [{ driverId := driverId, manager := manager }] },
          [.create manager driverId])

/-- The loop over the families, in some order. -/
def activateAll (registrations : List ControllerManagerRegistration)
    (selected : Table ByteString ByteString) (options : SystemOptions) (factories : Factories)
    (s : System) : List ByteString → System × List ManagerEvent
  | [] => (s, [])
  | type :: types =>
    let (s, events) := activate registrations selected options factories s type
    let (s, events') := activateAll registrations selected options factories s types
    (s, events ++ events')

/-- The families that have an enabled driver. -/
def types (registrations : List ControllerManagerRegistration) (options : SystemOptions) :
    List ByteString :=
  ((registrations.filter fun r => r.factory && controllerTypeEnabled options r.info.type).map
    (·.info.type)).dedup

/-- The calls on a system, and what the managers answer: how many controllers each lists. -/
inductive Call
  | discoverControllers (answers : ℕ → ℕ)
  | connectController (driverId : ByteString)
  | disconnectController (driverId : ByteString)
  | shutdown
  deriving Inhabited

def discoverControllers (s : System) (answers : ℕ → ℕ) : List ManagerEvent :=
  s.managers.flatMap fun active =>
    .discover active.manager ::
      List.replicate (answers active.manager) (.listed active.manager active.driverId)

def connectController (s : System) (driverId : ByteString) : List ManagerEvent :=
  match s.managerByDriverId.lookup driverId with
  | none => []
  | some manager => [.connectController manager driverId]

def disconnectController (s : System) (driverId : ByteString) : List ManagerEvent :=
  match s.managerByDriverId.lookup driverId with
  | none => []
  | some manager => [.disconnectController manager driverId]

def shutdown (s : System) : System × List ManagerEvent :=
  if s.shutdownComplete then (s, [])
  else
    ({ s with managers := [], managerByDriverId := ∅, shutdownComplete := true },
      s.managers.reverse.map fun active => .closeAll active.manager)

def call (s : System) : Call → System × List ManagerEvent
  | .discoverControllers answers => (s, s.discoverControllers answers)
  | .connectController driverId => (s, s.connectController driverId)
  | .disconnectController driverId => (s, s.disconnectController driverId)
  | .shutdown => s.shutdown

/-- Some calls, one after the other. -/
def calls (s : System) : List Call → System × List ManagerEvent
  | [] => (s, [])
  | c :: cs =>
    let (s, events) := s.call c
    let (s, events') := s.calls cs
    (s, events ++ events')

/-- The whole life of a system: it is made, called, and destroyed, which shuts it down. -/
def life (registrations : List ControllerManagerRegistration)
    (selected : Table ByteString ByteString) (options : SystemOptions) (factories : Factories)
    (order : List ByteString) (cs : List Call) : List ManagerEvent :=
  let (s, made) := activateAll registrations selected options factories {} order
  let (s, called) := s.calls cs
  made ++ called ++ s.shutdown.2

end System

end LiberaLaser
