import LiberaLaser.Plugin.Management.State
import LiberaLaser.Plugin.Package.Inspect

/-!
# Installing a plugin

A package is installed into a directory of its own, named by its version and its digest. It is
copied to a staging directory, extracted there and moved to its place by one rename; then the state
file is replaced. A revision that is in place already is used again, once it resolves. What the
system answers to each step is an input; the source may change while it is being installed.
-/

namespace LiberaLaser.Plugin

open ByteString FileSystem

structure InstalledPluginRevision where
  manifest : PluginManifest
  revision : ByteString
  packageRoot : List ByteString
  entrypointPath : List ByteString
  archivePath : List ByteString
  packageSha256 : ByteString
  deriving DecidableEq

/-- The directory of a revision. -/
def packagePath (root : List ByteString) (pluginId revision : ByteString) : List ByteString :=
  root ++ [ofString "packages", pluginId, revision]

/-- The directory in which a revision is prepared. -/
def stagingPath (root : List ByteString) (pluginId clock : ByteString) : List ByteString :=
  root ++ [ofString "staging", pluginId ++ ofString "-" ++ clock]

def PluginPackageInspection.revision (inspection : PluginPackageInspection) : ByteString :=
  inspection.manifest.version ++ ofString "-" ++ inspection.packageSha256.take 12

/-! ## The outcomes of the steps -/

structure ResolveOutcome where
  inspection : InspectOutcome := {}
  /-- The query whether the entrypoint is a regular file is answered. -/
  entrypoint : Bool := true

structure StageOutcome where
  directory : Option ByteString := none
  /-- The content of the source, if it has changed by the time it is copied. -/
  source : Option ByteString := none
  copy : Option (Option ByteString × ByteString) := none
  inspection : InspectOutcome := {}
  extraction : ExtractOutcome := {}
  preserve : Option ByteString := none
  /-- The paths that a removal of the staging directory leaves. -/
  keep : List ByteString → Bool := fun _ => false

structure InstallOutcome where
  inspection : InspectOutcome := {}
  root : Option (ℕ × ByteString) := none
  lock : Option ByteString := none
  state : ReadOutcome := .whole
  staging : Option (ℕ × ByteString) := none
  parent : Option (ℕ × ByteString) := none
  /-- The query whether the destination is a directory is answered. -/
  destination : Bool := true
  /-- The digits of the clock. -/
  clock : ByteString := []
  stage : StageOutcome := {}
  commit : Option ByteString := none
  /-- The second query for the destination is answered. -/
  committed : Bool := true
  keep : List ByteString → Bool := fun _ => false
  resolution : ResolveOutcome := {}
  write : StateOutcome := {}

structure PluginInstallResult where
  installedPath : List ByteString
  message : ByteString
  restartRequired : Bool
  deriving DecidableEq

/-- How an installation ends that does not succeed. -/
inductive InstallFailure
  | failed (installedPath : List ByteString) (message : ByteString)
  | threw
  deriving DecidableEq

/-- A failure that reports a message in front of that of a step. -/
def InstallFailure.of (message : String) (reason : ByteString) : InstallFailure :=
  .failed [] (ofString message ++ reason)

namespace Platform

variable (platform : Platform)

/-! ## Resolution -/

def resolveRevision (o : ResolveOutcome) (root : List ByteString) (pluginId revision : ByteString)
    (fs : Files) : Option InstalledPluginRevision :=
  let packageRoot := packagePath root pluginId revision
  let archive := packageRoot ++ [preservedArchiveName]
  match platform.inspectPluginPackage o.inspection archive fs with
  | .error _ => none
  | .ok inspection =>
    let entrypoint := packageRoot ++ pathComponents inspection.selectedEntrypoint
    if inspection.manifest.id = pluginId ∧ revision = inspection.revision ∧ o.entrypoint = true ∧
        fs.isRegularFile entrypoint = true then
      some
        { manifest := inspection.manifest
          revision
          packageRoot
          entrypointPath := entrypoint
          archivePath := archive
          packageSha256 := inspection.packageSha256 }
    else none

/-! ## Installation -/

/-- The store is locked, its state read and its directories made. -/
def prepareStore (o : InstallOutcome) (root : List ByteString) (pluginId : ByteString) :
    EStateM InstallFailure Files StoreState := do
  EStateM.adaptExcept (.of "Failed to create plugin store: ") (createDirectories o.root root)
  EStateM.reading fun _ => Except.require (o.lock = none) (.failed [] (o.lock.getD []))
  let state ← EStateM.reading fun fs =>
    Except.ofOption (.of "Plugin state.json is invalid; refusing to overwrite it" [])
      (readState platform.codec o.state (fs.entry (statePath root)))
  EStateM.adaptExcept (.of "Failed to create plugin store: ")
    (createDirectories o.staging (root ++ [ofString "staging"]))
  EStateM.adaptExcept (.of "Failed to create plugin store: ")
    (createDirectories o.parent (root ++ [ofString "packages", pluginId]))
  return state

/-- The staged copy has the digest of the package that was inspected. -/
def unchanged (inspection : PluginPackageInspection) :
    Except ByteString PluginPackageInspection → Bool
  | .ok staged => staged.packageSha256 = inspection.packageSha256
  | .error _ => false

/-- The package is copied and extracted in the staging directory. -/
def stageRevision (o : StageOutcome) (source staging : List ByteString)
    (inspection : PluginPackageInspection) : EStateM InstallFailure Files Unit := do
  let stagedArchive := staging ++ [ofString "source.liberaplugin"]
  let stagedPayload := staging ++ [ofString "payload"]
  EStateM.adaptExcept (.of "Failed to create staging directory: ")
    (createDirectory o.directory staging)
  EStateM.onFailure (·.removeAll staging o.keep) do
    let content ← EStateM.reading fun fs =>
      Except.ofOption
        (.of "Failed to stage package archive: " (ofString "No such file or directory"))
        (o.source.or (fs.contentAt source))
    EStateM.adaptExcept (.of "Failed to stage package archive: ")
      (copyFile o.copy content stagedArchive)
    EStateM.reading fun fs =>
      Except.require
        (unchanged inspection (platform.inspectPluginPackage o.inspection stagedArchive fs))
        (.of "Plugin package changed while it was being installed" [])
    let _ ← EStateM.adaptExcept (InstallFailure.failed [])
      (platform.extractPluginPackage o.extraction stagedArchive stagedPayload)
    EStateM.adaptExcept (.of "Failed to preserve package archive: ")
      (rename o.preserve stagedArchive (stagedPayload ++ [preservedArchiveName]))

/-- The extracted package moves to its place. -/
def commitRevision (o : InstallOutcome) (staging destination : List ByteString) :
    EStateM InstallFailure Files Unit := fun fs =>
  match rename o.commit (staging ++ [ofString "payload"]) destination fs with
  | .ok _ fs => .ok () (fs.removeAll staging o.keep)
  | .error message fs =>
    if !o.committed then .error .threw fs
    else if fs.isDirectory destination then .ok () (fs.removeAll staging o.keep)
    else
      .error (.of "Failed to commit plugin revision: " message) (fs.removeAll staging o.keep)

/-- The revision is in place, or put there. -/
def provideRevision (o : InstallOutcome) (root source : List ByteString)
    (inspection : PluginPackageInspection) : EStateM InstallFailure Files Unit := do
  let destination := packagePath root inspection.manifest.id inspection.revision
  let staging := stagingPath root inspection.manifest.id o.clock
  if o.destination && (← get).isDirectory destination then pure ()
  else
    platform.stageRevision o.stage source staging inspection
    commitRevision o staging destination

/-- The revision in place resolves to the package that was inspected. -/
def checkRevision (o : ResolveOutcome) (root : List ByteString)
    (inspection : PluginPackageInspection) (fs : Files) : Except InstallFailure Unit :=
  let id := inspection.manifest.id
  Except.require
    ((platform.resolveRevision o root id inspection.revision fs).any fun committed =>
      committed.packageSha256 = inspection.packageSha256)
    (.failed (packagePath root id inspection.revision) (ofString
      "Installed revision is missing, corrupt, or has a hash-prefix collision"))

/-- The revision becomes the active one. -/
def activateRevision (o : StateOutcome) (root : List ByteString)
    (inspection : PluginPackageInspection) (state : StoreState) :
    EStateM InstallFailure Files Unit :=
  let id := inspection.manifest.id
  EStateM.adaptExcept (fun
    | .failed message => .failed (packagePath root id inspection.revision) message
    | .threw => .threw)
    (writeState platform.codec o root
      { state with activePackages := state.activePackages.insert id inspection.revision })

/-- The installation of a package that passed its inspection. -/
def installRevision (o : InstallOutcome) (root source : List ByteString)
    (inspection : PluginPackageInspection) : EStateM InstallFailure Files Unit := do
  let state ← platform.prepareStore o root inspection.manifest.id
  platform.provideRevision o root source inspection
  EStateM.reading (platform.checkRevision o.resolution root inspection)
  platform.activateRevision o.write root inspection state

/-- The installation into a directory, given the package roots that this process has examined
already. -/
def installInto (o : InstallOutcome) (root : List ByteString) (examined : List (List ByteString))
    (source : List ByteString) : EStateM InstallFailure Files PluginInstallResult := do
  let inspection ← EStateM.adaptExcept (InstallFailure.failed [])
    (EStateM.reading (platform.inspectPluginPackage o.inspection source))
  platform.installRevision o root source inspection
  let installedPath := packagePath root inspection.manifest.id inspection.revision
  return {
    installedPath
    message :=
      if installedPath ∈ examined then ofString "Plugin is already active."
      else ofString "Plugin installed. Restart required to load native code."
    restartRequired := installedPath ∉ examined }

/-- `installPlugin`, with the user's plugin directory, if there is one. -/
def installPlugin (o : InstallOutcome) (directory : Option (List ByteString))
    (examined : List (List ByteString)) (source : List ByteString) :
    EStateM InstallFailure Files PluginInstallResult :=
  match directory with
  | none => throw (.of "Plugin directory is disabled" [])
  | some root => platform.installInto o root examined source

end Platform

end LiberaLaser.Plugin
