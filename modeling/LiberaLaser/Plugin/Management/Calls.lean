import LiberaLaser.Foundations.Runs
import LiberaLaser.Foundations.Traces
import LiberaLaser.Plugin.Management.Atomicity

/-!
# The calls of the plugin store

Plugins are installed and removed, and a driver is chosen for a type of controller, in any order and
with failures at any step. Over a run of such calls on a store that was empty, a revision is active
exactly if it was installed and its plugin was not removed or installed again since, a driver is
chosen exactly if it was chosen last and not removed since, only what is active is removed, and
every revision that is active resolves (`store_agrees`). This needs that no call takes the branches
on which an installation is not atomic.

Nothing else writes into the store; the rest of the file system changes as it likes.
-/

namespace LiberaLaser.Plugin

open ByteString FileSystem Runs Traces

/-! ## The calls -/

/-- What the steps of a removal or of the choice of a driver do. -/
structure ChangeOutcome where
  root : Option (ℕ × ByteString) := none
  lock : Option ByteString := none
  state : ReadOutcome := .whole
  write : StateOutcome := {}

structure PluginRemoveResult where
  removedPath : List ByteString
  message : ByteString
  restartRequired : Bool
  deriving DecidableEq

namespace StoreState

/-- The plugin that a text names, or a path that is the directory of its revision. -/
def named (state : StoreState) (root : List ByteString) (pluginIdOrPath : ByteString)
    (normalizedInput : List ByteString) : ByteString :=
  if (state.activePackages.lookup pluginIdOrPath).isSome then pluginIdOrPath
  else
    ((state.activePackages.entries.find? fun e =>
      normalizedInput = packagePath root e.1 e.2).map Sigma.fst).getD pluginIdOrPath

/-- The state without a plugin and the choices of it. -/
def withoutPlugin (state : StoreState) (pluginId : ByteString) : StoreState where
  activePackages := state.activePackages.erase pluginId
  controllerDrivers := state.controllerDrivers.filter fun e => e.2 ≠ pluginId

def withDriver (state : StoreState) (controllerType driverId : ByteString) : StoreState :=
  { state with
    controllerDrivers :=
      if driverId = [] then state.controllerDrivers.erase controllerType
      else state.controllerDrivers.insert controllerType driverId }

end StoreState

namespace Platform

section Calls

variable (platform : Platform)

/-- The store is locked and its state read. -/
def openStore (o : ChangeOutcome) (root : List ByteString) :
    EStateM InstallFailure Files StoreState := do
  EStateM.adaptExcept (.of "Failed to create plugin store: ") (createDirectories o.root root)
  EStateM.reading fun _ => Except.require (o.lock = none) (.failed [] (o.lock.getD []))
  EStateM.reading fun fs =>
    Except.ofOption (.of "Plugin state.json is invalid; refusing to overwrite it" [])
      (readState platform.codec o.state (fs.entry (statePath root)))

/-- The state is replaced, for a call that is about a path. -/
def replaceState (o : StateOutcome) (root path : List ByteString) (state : StoreState) :
    EStateM InstallFailure Files Unit :=
  EStateM.adaptExcept (fun
    | .failed message => .failed path message
    | .threw => .threw)
    (writeState platform.codec o root state)

/-- `removePlugin`, given the path that the text is, and the places of the plugins that are loaded
in this process. -/
def removePlugin (o : ChangeOutcome) (directory : Option (List ByteString))
    (loaded : List (ByteString × List ByteString)) (pluginIdOrPath : ByteString)
    (normalizedInput : List ByteString) : EStateM InstallFailure Files PluginRemoveResult :=
  match directory with
  | none => throw (.of "Plugin directory is disabled" [])
  | some root => do
    let state ← platform.openStore o root
    let pluginId := state.named root pluginIdOrPath normalizedInput
    let revision ← EStateM.reading fun _ =>
      Except.ofOption (.of "Plugin is not active in this store" [])
        (state.activePackages.lookup pluginId)
    let revisionPath := packagePath root pluginId revision
    let restartRequired := loaded.any fun info =>
      info.1 = pluginId && root.isPrefixOf info.2 && root.length < info.2.length
    platform.replaceState o.write root revisionPath (state.withoutPlugin pluginId)
    return {
      removedPath := revisionPath
      message :=
        if restartRequired then
          ofString "Plugin deactivated. Restart required to unload native code."
        else ofString "Plugin deactivated."
      restartRequired }

def selectControllerDriver (o : ChangeOutcome) (directory : Option (List ByteString))
    (controllerType driverId : ByteString) : EStateM InstallFailure Files Unit :=
  if controllerType = [] then throw (.of "Controller type is empty" [])
  else
    match directory with
    | none => throw (.of "Plugin directory is disabled" [])
    | some root => do
      let state ← platform.openStore o root
      platform.replaceState o.write root [] (state.withDriver controllerType driverId)

end Calls

end Platform

/-- What a call does that succeeds. -/
inductive StoreEvent
  | installed (result : PluginInstallResult)
  | removed (result : PluginRemoveResult)
  | selected (controllerType driverId : ByteString)

/-- The calls of the store, and what else writes files. -/
inductive StoreCall
  | installPlugin (o : InstallOutcome) (examined : List (List ByteString))
      (source : List ByteString)
  | removePlugin (o : ChangeOutcome) (loaded : List (ByteString × List ByteString))
      (pluginIdOrPath : ByteString) (normalizedInput : List ByteString)
  | selectControllerDriver (o : ChangeOutcome) (controllerType driverId : ByteString)
  | download (path : List ByteString) (content : ByteString)

/-- The events of a call: none where it fails. -/
def observed {α : Type} (event : α → StoreEvent) :
    EStateM.Result InstallFailure Files α → Files × List StoreEvent
  | .ok a fs => (fs, [event a])
  | .error _ fs => (fs, [])

namespace Platform

section Statement

variable (platform : Platform) (root : List ByteString)

/-- A call. Nothing else writes into the store. -/
def storeStep (fs : Files) : StoreCall → Option (Files × List StoreEvent)
  | .installPlugin o examined source =>
    some (observed .installed (platform.installPlugin o (some root) examined source fs))
  | .removePlugin o loaded pluginIdOrPath normalizedInput =>
    some (observed .removed
      (platform.removePlugin o (some root) loaded pluginIdOrPath normalizedInput fs))
  | .selectControllerDriver o controllerType driverId =>
    some (observed (fun _ => .selected controllerType driverId)
      (platform.selectControllerDriver o (some root) controllerType driverId fs))
  | .download path content =>
    if root <+: path ∨ path <+: root then none else some (fs.put path (.file content), [])

/-- The calls do not take the branches on which a state file that does not open counts as missing,
or a directory whose query fails. -/
def StoreReads (_ : List StoreEvent) (fs : Files) : StoreCall → Prop
  | .installPlugin o _ source => platform.AtomicWhen o source fs (some root)
  | .selectControllerDriver o _ _ => fs.entry (statePath root) = none ∨ o.state ≠ .notOpened
  | _ => True

end Statement

end Platform

namespace StoreEvent

/-- A revision of the plugin becomes active, or stops being it. -/
def Concerns (root : List ByteString) (pluginId : ByteString) : StoreEvent → Prop
  | .installed result => ∃ revision, result.installedPath = packagePath root pluginId revision
  | .removed result => ∃ revision, result.removedPath = packagePath root pluginId revision
  | .selected _ _ => False

def Installs (root : List ByteString) (pluginId revision : ByteString) : StoreEvent → Prop
  | .installed result => result.installedPath = packagePath root pluginId revision
  | _ => False

/-- The choice of a driver for a type ends, by another one or as the plugin is removed. -/
def Deselects (root : List ByteString) (controllerType driverId : ByteString) : StoreEvent → Prop
  | .installed _ => False
  | .removed result => ∃ revision, result.removedPath = packagePath root driverId revision
  | .selected controllerType' _ => controllerType' = controllerType

end StoreEvent

/-- The revision was installed, and since then the plugin was not removed or installed again. -/
def InstalledLast (root : List ByteString) (pluginId revision : ByteString) :
    List StoreEvent → Prop :=
  Since (StoreEvent.Installs root pluginId revision) fun e => ¬e.Concerns root pluginId

/-- The driver was chosen for the type, and since then neither another one nor was it removed. -/
def SelectedLast (root : List ByteString) (controllerType driverId : ByteString) :
    List StoreEvent → Prop :=
  Since (· = .selected controllerType driverId) fun e => ¬e.Deselects root controllerType driverId

/-- What is removed is active, and the path is that of its revision. -/
def StoreEvent.Lawful (root : List ByteString) (before : List StoreEvent) : StoreEvent → Prop
  | .installed result =>
    ∃ pluginId revision, result.installedPath = packagePath root pluginId revision
  | .removed result => ∃ pluginId revision, InstalledLast root pluginId revision before ∧
      result.removedPath = packagePath root pluginId revision
  | .selected controllerType _ => controllerType ≠ []

namespace Platform

/-- The store is what the events say, and every plugin that is active resolves. -/
structure StoreAgrees (platform : Platform) (root : List ByteString) (tr : List StoreEvent)
    (fs : Files) : Prop where
  lawful : Always (StoreEvent.Lawful root) tr
  active : ∀ pluginId revision,
    (platform.storedState root fs).activePackages.lookup pluginId = some revision ↔
      InstalledLast root pluginId revision tr
  drivers : ∀ controllerType driverId, driverId ≠ [] →
    ((platform.storedState root fs).controllerDrivers.lookup controllerType = some driverId ↔
      SelectedLast root controllerType driverId tr)
  resolves : ∀ pluginId revision, InstalledLast root pluginId revision tr →
    fs.isDirectory (packagePath root pluginId revision) = true ∧
      ∃ installed, platform.resolveRevision {} root pluginId revision fs = some installed

end Platform

variable {root p : List ByteString} {pluginId revision pluginId' revision' : ByteString}

theorem packagePath_inj :
    packagePath root pluginId revision = packagePath root pluginId' revision' ↔
      pluginId = pluginId' ∧ revision = revision' := by
  simp [packagePath]

namespace Platform

variable {platform : Platform} {fs fs' : Files} {state : StoreState}
  {tr observations : List StoreEvent} {source : List ByteString}
  {inspection : PluginPackageInspection}

/-! ## The directory of a revision -/

theorem provideRevision_isDirectory {o : InstallOutcome}
    (h : platform.provideRevision o root source inspection fs = .ok () fs') :
    fs'.isDirectory (packagePath root inspection.manifest.id inspection.revision) = true := by
  have hclean (fs : Files) : SameWithin (packagePath root inspection.manifest.id
      inspection.revision) fs
      (fs.removeAll (stagingPath root inspection.manifest.id o.clock) o.keep) :=
    sameWithin_removeAll (Committed.package _ _).apart_stagingPath
  rw [provideRevision_apply] at h
  split at h
  · rename_i hquery
    cases h
    exact (Bool.and_eq_true_iff.mp hquery).2
  obtain ⟨_, fs₁, hstage, hcommit⟩ := EStateM.bind_eq_ok.mp h
  unfold commitRevision at hcommit
  split at hcommit
  · rename_i fs₂ hrename
    cases hcommit
    rw [(hclean fs₂).isDirectory_iff, (rename_eq_ok.mp hrename).2.2, FileSystem.isDirectory_iff,
      entry_move]
    obtain ⟨_, _, -, -, hpayload, -⟩ := stageRevision_eq_ok hstage
    exact FileSystem.isDirectory_iff.mp hpayload
  · rename_i fs₂ hrename
    split at hcommit
    · cases hcommit
    split at hcommit
    · rename_i hdirectory
      cases hcommit
      exact (hclean fs₂).isDirectory_iff.mpr hdirectory
    · cases hcommit

theorem installRevision_isDirectory {o : InstallOutcome}
    (h : platform.installRevision o root source inspection fs = .ok () fs') :
    fs'.isDirectory (packagePath root inspection.manifest.id inspection.revision) = true := by
  obtain ⟨state, fs₁, fs₂, -, hprovide, -, hactivate⟩ := installRevision_eq_ok.mp h
  have hkeeps : EStateM.Keeps
      (SameWithin (packagePath root inspection.manifest.id inspection.revision))
      (platform.activateRevision o.write root inspection state) :=
    keeps_writeState.adaptExcept
  exact (hkeeps.of_ok hactivate).isDirectory_iff.mpr (provideRevision_isDirectory hprovide)

/-! ## The state that is read and written -/

theorem keeps_openStore {o : ChangeOutcome} (h : Committed root p) :
    EStateM.Keeps (SameWithin p) (platform.openStore o root) := by
  refine (keeps_createDirectories h.not_prefix_root).adaptExcept.bind fun _ => ?_
  exact (EStateM.keeps_reading _).bind fun _ => EStateM.keeps_reading _

theorem openStore_eq_ok {o : ChangeOutcome} (h : platform.openStore o root fs = .ok state fs') :
    readState platform.codec o.state (fs.entry (statePath root)) = some state := by
  obtain ⟨_, fs₁, hcreate, h⟩ := EStateM.bind_eq_ok.mp h
  obtain ⟨_, fs₂, hlock, hread⟩ := EStateM.bind_eq_ok.mp h
  obtain ⟨-, rfl⟩ := EStateM.reading_eq_ok.mp hlock
  have hsame : SameWithin (statePath root) fs fs₂ :=
    (keeps_createDirectories Committed.state.not_prefix_root).of_ok
      (EStateM.adaptExcept_eq_ok.mp hcreate)
  rw [← hsame.entry_eq]
  exact Except.ofOption_eq_ok.mp (EStateM.reading_eq_ok.mp hread).1

theorem storedState_congr (h : fs'.entry (statePath root) = fs.entry (statePath root)) :
    platform.storedState root fs' = platform.storedState root fs := by
  rw [storedState, storedState, h]

/-! ## What a call leaves -/

theorem keeps_replaceState {o : StateOutcome} {path : List ByteString} :
    EStateM.Keeps (SameWithin (packagePath root pluginId revision))
      (platform.replaceState o root path state) :=
  keeps_writeState.adaptExcept

theorem replaceState_eq_error {o : StateOutcome} {path : List ByteString} {e : InstallFailure}
    (h : platform.replaceState o root path state fs = .error e fs') :
    SameWithin (statePath root) fs fs' := by
  obtain ⟨_, hwrite, -⟩ := EStateM.adaptExcept_eq_error.mp h
  exact writeState_eq_error hwrite

section Installation

variable {o : InstallOutcome} {examined : List (List ByteString)}

theorem packagesKept_installPlugin (h : platform.AtomicWhen o source fs (some root)) :
    PackagesKept root fs (platform.installPlugin o (some root) examined source fs).final := by
  cases hresult : platform.installPlugin o (some root) examined source fs with
  | ok result fs' =>
    obtain ⟨inspection, hinspect, hinstall, -⟩ := installInto_eq_ok hresult
    refine (packagesKept_iff ?_).mpr (h root inspection rfl hinspect).1
    rw [hinstall]
    rfl
  | error e fs' =>
    obtain ⟨-, -, rfl⟩ | ⟨inspection, hinspect, hinstall⟩ := installInto_eq_error hresult
    · exact fun _ _ _ => Std.Refl.refl _
    · refine (packagesKept_iff ?_).mpr (h root inspection rfl hinspect).1
      rw [hinstall]
      rfl

theorem installPlugin_eq_error {e : InstallFailure}
    (h : platform.installPlugin o (some root) examined source fs = .error e fs') :
    fs'.entry (statePath root) = fs.entry (statePath root) := by
  obtain ⟨-, -, rfl⟩ | ⟨inspection, -, hinstall⟩ := installInto_eq_error h
  · rfl
  · exact installRevision_eq_error hinstall

end Installation

section Removal

variable {o : ChangeOutcome} {loaded : List (ByteString × List ByteString)}
  {pluginIdOrPath : ByteString} {normalizedInput : List ByteString}

theorem keeps_removePlugin : EStateM.Keeps (SameWithin (packagePath root pluginId revision))
    (platform.removePlugin o (some root) loaded pluginIdOrPath normalizedInput) := by
  refine (keeps_openStore (.package _ _)).bind fun state => ?_
  refine (EStateM.keeps_reading _).bind fun revision => ?_
  exact keeps_replaceState.bind fun _ => EStateM.keeps_pure _

theorem removePlugin_eq_ok {result : PluginRemoveResult}
    (h : platform.removePlugin o (some root) loaded pluginIdOrPath normalizedInput fs =
      .ok result fs') :
    ∃ state pluginId revision fs₁, readState platform.codec o.state (fs.entry (statePath root)) =
        some state ∧
      state.activePackages.lookup pluginId = some revision ∧
      result.removedPath = packagePath root pluginId revision ∧
      writeState platform.codec o.write root (state.withoutPlugin pluginId) fs₁ = .ok () fs' := by
  obtain ⟨state, fs₁, hopen, h⟩ := EStateM.bind_eq_ok.mp h
  obtain ⟨revision, fs₂, hrevision, h⟩ := EStateM.bind_eq_ok.mp h
  obtain ⟨_, fs₃, hreplace, h⟩ := EStateM.bind_eq_ok.mp h
  cases h
  refine ⟨state, _, revision, fs₂, openStore_eq_ok hopen, ?_, rfl,
    EStateM.adaptExcept_eq_ok.mp hreplace⟩
  exact Except.ofOption_eq_ok.mp (EStateM.reading_eq_ok.mp hrevision).1

theorem removePlugin_eq_error {e : InstallFailure}
    (h : platform.removePlugin o (some root) loaded pluginIdOrPath normalizedInput fs =
      .error e fs') : fs'.entry (statePath root) = fs.entry (statePath root) := by
  refine SameWithin.entry_eq ?_
  obtain hopen | ⟨state, fs₁, hopen, h⟩ := EStateM.bind_eq_error.mp h
  · exact (keeps_openStore .state).of_error hopen
  refine IsTrans.trans _ _ _ ((keeps_openStore .state).of_ok hopen) ?_
  obtain hrevision | ⟨revision, fs₂, hrevision, hrest⟩ := EStateM.bind_eq_error.mp h
  · exact (EStateM.keeps_reading _).of_error hrevision
  obtain ⟨-, rfl⟩ := EStateM.reading_eq_ok.mp hrevision
  obtain hreplace | ⟨_, fs₃, -, hreturn⟩ := EStateM.bind_eq_error.mp hrest
  · exact replaceState_eq_error hreplace
  · cases hreturn

end Removal

section Selection

variable {o : ChangeOutcome} {controllerType driverId : ByteString}

theorem keeps_selectControllerDriver :
    EStateM.Keeps (SameWithin (packagePath root pluginId revision))
      (platform.selectControllerDriver o (some root) controllerType driverId) := by
  unfold selectControllerDriver
  split
  · exact EStateM.keeps_throw _
  · exact (keeps_openStore (.package _ _)).bind fun _ => keeps_replaceState

theorem selectControllerDriver_eq_ok
    (h : platform.selectControllerDriver o (some root) controllerType driverId fs = .ok () fs') :
    controllerType ≠ [] ∧
      ∃ state fs₁, readState platform.codec o.state (fs.entry (statePath root)) = some state ∧
        writeState platform.codec o.write root (state.withDriver controllerType driverId) fs₁ =
          .ok () fs' := by
  unfold selectControllerDriver at h
  split at h
  · cases h
  rename_i htype
  obtain ⟨state, fs₁, hopen, h⟩ := EStateM.bind_eq_ok.mp h
  exact ⟨htype, state, fs₁, openStore_eq_ok hopen, EStateM.adaptExcept_eq_ok.mp h⟩

theorem selectControllerDriver_eq_error {e : InstallFailure}
    (h : platform.selectControllerDriver o (some root) controllerType driverId fs =
      .error e fs') : fs'.entry (statePath root) = fs.entry (statePath root) := by
  unfold selectControllerDriver at h
  split at h
  · cases h
    rfl
  refine SameWithin.entry_eq ?_
  obtain hopen | ⟨state, fs₁, hopen, h⟩ := EStateM.bind_eq_error.mp h
  · exact (keeps_openStore .state).of_error hopen
  · exact IsTrans.trans _ _ _ ((keeps_openStore .state).of_ok hopen) (replaceState_eq_error h)

end Selection

/-! ## A call and the events -/

namespace StoreAgrees

theorem resolves_of_packagesKept (h : platform.StoreAgrees root tr fs)
    (hkept : PackagesKept root fs fs') (hinstalled : InstalledLast root pluginId revision tr) :
    fs'.isDirectory (packagePath root pluginId revision) = true ∧
      ∃ installed, platform.resolveRevision {} root pluginId revision fs' = some installed := by
  obtain ⟨hdirectory, installed, hresolve⟩ := h.resolves pluginId revision hinstalled
  have hsame := hkept pluginId revision hdirectory
  refine ⟨hsame.isDirectory_iff.mpr hdirectory, installed, ?_⟩
  rw [resolveRevision_congr hsame, hresolve]

/-- A call that fails leaves the state file and the directories in place. -/
theorem kept (h : platform.StoreAgrees root tr fs)
    (hstate : fs'.entry (statePath root) = fs.entry (statePath root))
    (hkept : PackagesKept root fs fs') : platform.StoreAgrees root tr fs' where
  lawful := h.lawful
  active := by
    rw [storedState_congr hstate]
    exact h.active
  drivers := by
    rw [storedState_congr hstate]
    exact h.drivers
  resolves _ _ hinstalled := h.resolves_of_packagesKept hkept hinstalled

/-- A call that succeeds changes the state as its event says. -/
theorem concat (h : platform.StoreAgrees root tr fs) {e : StoreEvent}
    (hlawful : e.Lawful root tr)
    (hactive : ∀ pluginId revision,
      (platform.storedState root fs').activePackages.lookup pluginId = some revision ↔
        e.Installs root pluginId revision ∨
          (platform.storedState root fs).activePackages.lookup pluginId = some revision ∧
            ¬e.Concerns root pluginId)
    (hdrivers : ∀ controllerType driverId, driverId ≠ [] →
      ((platform.storedState root fs').controllerDrivers.lookup controllerType = some driverId ↔
        e = .selected controllerType driverId ∨
          (platform.storedState root fs).controllerDrivers.lookup controllerType = some driverId ∧
            ¬e.Deselects root controllerType driverId))
    (hresolves : ∀ pluginId revision, e.Installs root pluginId revision →
      fs'.isDirectory (packagePath root pluginId revision) = true ∧
        ∃ installed, platform.resolveRevision {} root pluginId revision fs' = some installed)
    (hkept : PackagesKept root fs fs') : platform.StoreAgrees root (tr ++ [e]) fs' where
  lawful := h.lawful.concat hlawful
  active pluginId revision := by
    rw [hactive, InstalledLast, since_concat, ← InstalledLast, h.active]
  drivers controllerType driverId hne := by
    rw [hdrivers _ _ hne, SelectedLast, since_concat, ← SelectedLast, h.drivers _ _ hne]
  resolves pluginId revision hinstalled := by
    rw [InstalledLast, since_concat, ← InstalledLast] at hinstalled
    rcases hinstalled with hinstalled | ⟨hinstalled, -⟩
    · exact hresolves pluginId revision hinstalled
    · exact h.resolves_of_packagesKept hkept hinstalled

/-- A call that keeps the directories in place, and where it fails the state file. -/
theorem after_call (h : platform.StoreAgrees root tr fs) {α : Type} {event : α → StoreEvent}
    {call : EStateM InstallFailure Files α} (hkept : PackagesKept root fs (call fs).final)
    (hok : ∀ a fs', call fs = .ok a fs' → PackagesKept root fs fs' →
      platform.StoreAgrees root (tr ++ [event a]) fs')
    (herror : ∀ e fs', call fs = .error e fs' →
      fs'.entry (statePath root) = fs.entry (statePath root))
    (hs : observed event (call fs) = (fs', observations)) :
    platform.StoreAgrees root (tr ++ observations) fs' := by
  cases hresult : call fs with
  | ok a fs₁ =>
    rw [hresult] at hs hkept
    cases hs
    exact hok a _ hresult hkept
  | error e fs₁ =>
    rw [hresult] at hs hkept
    cases hs
    rw [List.append_nil]
    exact h.kept (herror e _ hresult) hkept

theorem after_installPlugin (h : platform.StoreAgrees root tr fs) (hcodec : platform.codec.Lawful)
    {o : InstallOutcome} {examined : List (List ByteString)} {result : PluginInstallResult}
    (hwhen : platform.AtomicWhen o source fs (some root))
    (hresult : platform.installPlugin o (some root) examined source fs = .ok result fs')
    (hkept : PackagesKept root fs fs') :
    platform.StoreAgrees root (tr ++ [.installed result]) fs' := by
  obtain ⟨inspection, hinspect, hinstall, hpath⟩ := installInto_eq_ok hresult
  have hinstallable := succeeds_installRevision.mp ⟨(), fs', hinstall⟩
  have hactivated := (activated_iff hcodec hinspect hinstall).mpr fun hunread =>
    (hwhen root inspection rfl hinspect).2 ⟨hunread, hinstallable⟩
  refine h.concat ⟨_, _, hpath⟩ (fun pluginId revision => ?_) (fun controllerType driverId _ => ?_)
    (fun pluginId revision hinstalls => ?_) hkept
  · by_cases hid : pluginId = inspection.manifest.id
    · rw [hid, hactivated.active]
      simp [StoreEvent.Installs, StoreEvent.Concerns, hpath, packagePath_inj]
    · rw [hactivated.others pluginId hid]
      simp [StoreEvent.Installs, StoreEvent.Concerns, hpath, packagePath_inj, Ne.symm hid]
  · rw [hactivated.drivers]
    simp [StoreEvent.Deselects]
  · obtain ⟨rfl, rfl⟩ := packagePath_inj.mp (hpath.symm.trans hinstalls)
    obtain ⟨installed, -, hresolve, -⟩ := hactivated.resolves
    exact ⟨installRevision_isDirectory hinstall, installed, hresolve⟩

theorem after_removePlugin (h : platform.StoreAgrees root tr fs) (hcodec : platform.codec.Lawful)
    {o : ChangeOutcome} {loaded : List (ByteString × List ByteString)}
    {pluginIdOrPath : ByteString} {normalizedInput : List ByteString} {result : PluginRemoveResult}
    (hresult : platform.removePlugin o (some root) loaded pluginIdOrPath normalizedInput fs =
      .ok result fs') (hkept : PackagesKept root fs fs') :
    platform.StoreAgrees root (tr ++ [.removed result]) fs' := by
  obtain ⟨state, pluginId, revision, fs₁, hread, hactive, hpath, hwrite⟩ :=
    removePlugin_eq_ok hresult
  obtain ⟨hnonempty, hnonempty'⟩ := namesNonempty_readState hread
  -- a plugin is active, so that the state file was read
  have hstored : state = platform.storedState root fs := by
    refine (readState_eq_some hread).2 fun hunread => ?_
    rw [(readState_eq_some hread).1 hunread] at hactive
    cases hactive
  have herase : NamesNonempty (state.withoutPlugin pluginId).activePackages :=
    Table.Forall.erase hnonempty pluginId
  have hfilter : NamesNonempty (state.withoutPlugin pluginId).controllerDrivers :=
    fun k v hv => hnonempty' k v (Table.lookup_of_filter hv)
  obtain ⟨hlookup, hlookup'⟩ := lookup_writeState hcodec hwrite herase hfilter
  rw [hstored] at hactive
  refine h.concat ⟨pluginId, revision, (h.active _ _).mp hactive, hpath⟩
    (fun pluginId' revision' => ?_) (fun controllerType driverId _ => ?_)
    (fun _ _ hinstalls => hinstalls.elim) hkept
  · rw [hlookup, StoreState.withoutPlugin, Table.lookup_erase_eq_some, hstored]
    simp only [StoreEvent.Installs, StoreEvent.Concerns, hpath, packagePath_inj, false_or,
      exists_and_left, exists_eq', and_true]
    rw [and_comm, ne_comm]
  · rw [hlookup', StoreState.withoutPlugin, Table.lookup_filter_eq_some, hstored]
    simp only [StoreEvent.Deselects, hpath, packagePath_inj, reduceCtorEq, false_or,
      exists_and_left, exists_eq', and_true, decide_eq_true_eq]
    rw [ne_comm]

theorem after_selectControllerDriver (h : platform.StoreAgrees root tr fs)
    (hcodec : platform.codec.Lawful) {o : ChangeOutcome} {controllerType driverId : ByteString}
    (hreads : fs.entry (statePath root) = none ∨ o.state ≠ .notOpened)
    (hresult : platform.selectControllerDriver o (some root) controllerType driverId fs =
      .ok () fs') (hkept : PackagesKept root fs fs') :
    platform.StoreAgrees root (tr ++ [.selected controllerType driverId]) fs' := by
  obtain ⟨htype, state, fs₁, hread, hwrite⟩ := selectControllerDriver_eq_ok hresult
  obtain ⟨hnonempty, hnonempty'⟩ := namesNonempty_readState hread
  have hstored : state = platform.storedState root fs := by
    refine (readState_eq_some hread).2 fun hunread => ?_
    exact hreads.elim hunread.1 fun hopens => hopens hunread.2
  have hactive : NamesNonempty (state.withDriver controllerType driverId).activePackages :=
    hnonempty
  have hdriver : NamesNonempty (state.withDriver controllerType driverId).controllerDrivers := by
    rw [StoreState.withDriver]
    split
    · exact Table.Forall.erase hnonempty' _
    · rename_i hne
      exact Table.Forall.insert hnonempty' ⟨htype, hne⟩
  obtain ⟨hlookup, hlookup'⟩ := lookup_writeState hcodec hwrite hactive hdriver
  refine h.concat htype (fun pluginId revision => ?_) (fun controllerType' driverId' hne => ?_)
    (fun _ _ hinstalls => hinstalls.elim) hkept
  · rw [hlookup, StoreState.withDriver, hstored]
    simp [StoreEvent.Installs, StoreEvent.Concerns]
  · rw [hlookup', StoreState.withDriver, hstored]
    simp only [StoreEvent.Deselects, StoreEvent.selected.injEq]
    split
    · rename_i hempty
      rw [Table.lookup_erase_eq_some, hempty]
      simp [Ne.symm hne, and_comm, eq_comm]
    · rw [Table.lookup_insert_eq_some]
      simp [and_comm, eq_comm]

end StoreAgrees

/-- **A call keeps the store what the events say.** -/
theorem storeAgrees_step (hcodec : platform.codec.Lawful) {call : StoreCall}
    (h : platform.StoreAgrees root tr fs) (hreads : platform.StoreReads root tr fs call)
    (hs : platform.storeStep root fs call = some (fs', observations)) :
    platform.StoreAgrees root (tr ++ observations) fs' := by
  cases call with
  | installPlugin o examined source =>
    exact h.after_call (packagesKept_installPlugin hreads)
      (fun _ _ => h.after_installPlugin hcodec hreads) (fun _ _ => installPlugin_eq_error)
      (Option.some.inj hs)
  | removePlugin o loaded pluginIdOrPath normalizedInput =>
    exact h.after_call (fun _ _ _ => keeps_removePlugin fs)
      (fun _ _ => h.after_removePlugin hcodec) (fun _ _ => removePlugin_eq_error)
      (Option.some.inj hs)
  | selectControllerDriver o controllerType driverId =>
    exact h.after_call (fun _ _ _ => keeps_selectControllerDriver fs)
      (fun _ _ => h.after_selectControllerDriver hcodec hreads)
      (fun _ _ => selectControllerDriver_eq_error) (Option.some.inj hs)
  | download path content =>
    rw [storeStep] at hs
    split at hs
    · cases hs
    · rename_i hapart
      cases hs
      rw [List.append_nil]
      have houtside (p : List ByteString) :
          SameWithin (root ++ p) fs (fs.put path (.file content)) :=
        sameWithin_put fun hp => hapart (.inl ((List.prefix_append root p).trans hp))
      exact h.kept (houtside _).entry_eq fun _ _ _ => houtside _

/-- **Over any run** of calls on a store that was empty, the plugins that are active and the drivers
that are chosen are those the calls left, and every plugin that is active resolves. -/
theorem store_agrees (hcodec : platform.codec.Lawful)
    (hempty : fs.entry (statePath root) = none) {calls : List StoreCall}
    (hreads : Along (platform.storeStep root) (platform.StoreReads root) [] fs calls)
    (h : run (platform.storeStep root) fs calls = some (fs', tr)) :
    platform.StoreAgrees root tr fs' := by
  have hstored : platform.storedState root fs = {} := by
    rw [storedState, hempty]
    rfl
  have hinit : platform.StoreAgrees root [] fs := by
    refine ⟨always_nil, fun pluginId revision => ?_, fun controllerType driverId _ => ?_,
      fun _ _ h => ?_⟩
    · rw [hstored]
      exact iff_of_false (by simp) not_since_nil
    · rw [hstored]
      exact iff_of_false (by simp) not_since_nil
    · exact absurd h not_since_nil
  have hstep (tr : List StoreEvent) (fs : Files) (call : StoreCall) (fs' : Files)
      (observations : List StoreEvent) (h : platform.StoreAgrees root tr fs)
      (hreads : platform.StoreReads root tr fs call)
      (hs : platform.storeStep root fs call = some (fs', observations)) :
      platform.StoreAgrees root (tr ++ observations) fs' :=
    storeAgrees_step hcodec h hreads hs
  exact run_invariant hstep hinit hreads h

end Platform

/-! ## A run -/

namespace Demo

/-- The package is installed, chosen and removed. -/
def storeCalls : List StoreCall :=
  [.installPlugin outcome [] source,
    .selectControllerDriver { write := { clock := ofString "3" } } (ofString "Demo")
      (ofString "demo"),
    .removePlugin { write := { clock := ofString "4" } } [] (ofString "demo") []]

end Demo

namespace Platform

theorem store_agrees_demo :
    ∃ fs tr, run (Demo.platform.storeStep Demo.root) (Demo.downloaded Demo.archive)
        Demo.storeCalls = some (fs, tr) ∧
      tr.length = 3 ∧ Demo.platform.StoreAgrees Demo.root tr fs := by
  have hcodec : Demo.platform.codec.Lawful := Json.textCodec_lawful
  have hempty : (Demo.downloaded Demo.archive).entry (statePath Demo.root) = none := by
    decide +kernel
  have hlength : (run (Demo.platform.storeStep Demo.root) (Demo.downloaded Demo.archive)
      Demo.storeCalls).map (fun r => r.2.length) = some 3 := by
    decide +kernel
  have hreads : Along (Demo.platform.storeStep Demo.root) (Demo.platform.StoreReads Demo.root) []
      (Demo.downloaded Demo.archive) Demo.storeCalls := by
    have hdestination : Demo.outcome.destination ≠ false := by decide
    have hstate : Demo.outcome.state ≠ .notOpened := by decide
    refine along_cons.mpr ⟨fun _ _ _ _ => ⟨fun h => hdestination h.query,
      fun h => hstate h.1.2.1⟩, fun _ _ _ => ?_⟩
    exact along_cons.mpr ⟨.inr nofun, fun _ _ _ => along_cons.mpr ⟨trivial, fun _ _ _ => trivial⟩⟩
  obtain ⟨⟨fs, tr⟩, hrun, hlength⟩ := Option.map_eq_some_iff.mp hlength
  exact ⟨fs, tr, hrun, hlength, store_agrees hcodec hempty hreads hrun⟩

end Platform

end LiberaLaser.Plugin
