import LiberaLaser.Plugin.Management.Install

/-!
# What the steps of an installation leave alone

Only one step touches the directory of a revision, the rename that puts it there, and only one the
state file, the rename that replaces it. All other steps work on the temporary file, in the staging
directory, or add directories above these places.
-/

namespace LiberaLaser.Plugin

open ByteString FileSystem

variable {root p : List ByteString} {pluginId revision clock : ByteString}

/-! ## The places of the store -/

/-- The state file or the directory of a revision. -/
inductive Committed (root : List ByteString) : List ByteString → Prop
  | state : Committed root (statePath root)
  | package (pluginId revision : ByteString) : Committed root (packagePath root pluginId revision)

theorem storeNames_ne : ofString "packages" ≠ ofString "staging" ∧
    ofString "packages" ≠ ofString "state.json" ∧ ofString "staging" ≠ ofString "state.json" := by
  decide +kernel

/-- The temporary file has a longer name than the other places of the store. -/
theorem temporaryName_ne {name : ByteString} (h : name.length < 15) :
    ofString "state.json.tmp." ++ clock ≠ name := by
  rintro rfl
  have hlength : (ofString "state.json.tmp.").length = 15 := rfl
  rw [List.length_append, hlength] at h
  omega

theorem apart_statePath_packagePath :
    Apart (statePath root) (packagePath root pluginId revision) :=
  (apart_cons storeNames_ne.2.1.symm).append_left root

theorem apart_packagePath {pluginId' revision' : ByteString}
    (h : packagePath root pluginId revision ≠ packagePath root pluginId' revision') :
    Apart (packagePath root pluginId revision) (packagePath root pluginId' revision') := by
  refine ⟨fun hp => h (hp.eq_of_length ?_), fun hp => h (hp.eq_of_length ?_).symm⟩
  · simp [packagePath]
  · simp [packagePath]

namespace Committed

theorem apart_stagingPath (h : Committed root p) : Apart p (stagingPath root pluginId clock) := by
  cases h with
  | state => exact (apart_cons storeNames_ne.2.2.symm).append_left root
  | package id rev => exact (apart_cons storeNames_ne.1).append_left root

theorem apart_temporaryPath (h : Committed root p) : Apart p (temporaryPath root clock) := by
  have hlength : (ofString "state.json").length < 15 ∧ (ofString "packages").length < 15 := by
    decide +kernel
  cases h with
  | state => exact (apart_cons (temporaryName_ne hlength.1).symm).append_left root
  | package id rev => exact (apart_cons (temporaryName_ne hlength.2).symm).append_left root

/-- No other place of the store lies above a committed one, apart from the directories on the way
to it. -/
theorem not_prefix_root (h : Committed root p) : ¬p <+: root := by
  intro hp
  have hlength := hp.length_le
  cases h with
  | state =>
    rw [statePath, List.length_append, List.length_singleton] at hlength
    omega
  | package id rev =>
    simp only [packagePath, List.length_append, List.length_cons] at hlength
    omega

theorem not_prefix_staging (h : Committed root p) : ¬p <+: root ++ [ofString "staging"] := by
  intro hp
  cases h with
  | state =>
    exact storeNames_ne.2.2 (List.cons_prefix_cons.mp
      ((List.prefix_append_right_inj root).mp hp)).1.symm
  | package id rev =>
    exact storeNames_ne.1 (List.cons_prefix_cons.mp
      ((List.prefix_append_right_inj root).mp hp)).1

theorem not_prefix_packages (h : Committed root p) :
    ¬p <+: root ++ [ofString "packages", pluginId] := by
  intro hp
  cases h with
  | state =>
    exact storeNames_ne.2.1 (List.cons_prefix_cons.mp
      ((List.prefix_append_right_inj root).mp hp)).1.symm
  | package id rev =>
    have hlength := hp.length_le
    simp only [packagePath, List.length_append, List.length_cons, List.length_nil] at hlength
    omega

end Committed

/-! ## The steps -/

namespace Platform

variable {platform : Platform} {source : List ByteString} {inspection : PluginPackageInspection}
  {fs fs' : Files}

theorem keeps_prepareStore {o : InstallOutcome} (h : Committed root p) :
    EStateM.Keeps (SameWithin p) (platform.prepareStore o root pluginId) := by
  refine (keeps_createDirectories h.not_prefix_root).adaptExcept.bind fun _ => ?_
  refine (EStateM.keeps_reading _).bind fun _ => (EStateM.keeps_reading _).bind fun state => ?_
  refine (keeps_createDirectories h.not_prefix_staging).adaptExcept.bind fun _ => ?_
  refine (keeps_createDirectories h.not_prefix_packages).adaptExcept.bind fun _ => ?_
  exact EStateM.keeps_pure state

theorem keeps_stageRevision {o : StageOutcome} {staging : List ByteString}
    (hstaging : Apart p staging) :
    EStateM.Keeps (SameWithin p) (platform.stageRevision o source staging inspection) := by
  refine (keeps_createDirectory hstaging.1).adaptExcept.bind fun _ => ?_
  refine EStateM.Keeps.onFailure ?_ fun fs => sameWithin_removeAll hstaging
  refine (EStateM.keeps_reading _).bind fun content => ?_
  refine (keeps_copyFile (hstaging.append_right _).1).adaptExcept.bind fun _ => ?_
  refine (EStateM.keeps_reading _).bind fun _ => ?_
  refine (keeps_extractPluginPackage (hstaging.append_right _)).adaptExcept.bind fun _ => ?_
  exact (keeps_rename (hstaging.append_right _)
    ((hstaging.append_right _).append_right _)).adaptExcept

theorem sameWithin_commitRevision {o : InstallOutcome} {staging destination : List ByteString}
    (hstaging : Apart p staging)
    (hrename : SameWithin p fs
      (rename o.commit (staging ++ [ofString "payload"]) destination fs).final) :
    SameWithin p fs (commitRevision o staging destination fs).final := by
  unfold commitRevision
  split
  · rename_i hcommit
    rw [hcommit] at hrename
    exact IsTrans.trans _ _ _ hrename (sameWithin_removeAll hstaging)
  · rename_i hcommit
    rw [hcommit] at hrename
    split
    · exact hrename
    split
    · exact IsTrans.trans _ _ _ hrename (sameWithin_removeAll hstaging)
    · exact IsTrans.trans _ _ _ hrename (sameWithin_removeAll hstaging)

/-! ## The replacement of the state -/

variable {codec : JsonCodec} {o : StateOutcome} {state : StoreState} {text : ByteString}

theorem keeps_writeText :
    EStateM.Keeps (SameWithin (packagePath root pluginId revision)) (writeText o root text) := by
  have htemporary : Apart (packagePath root pluginId revision) (temporaryPath root o.clock) :=
    (Committed.package pluginId revision).apart_temporaryPath
  refine EStateM.Keeps.onFailure ?_ fun fs => sameWithin_removeAll htemporary
  refine (keeps_writeFile htemporary.1).adaptExcept.bind fun _ => ?_
  exact (keeps_rename htemporary apart_statePath_packagePath.symm).adaptExcept

theorem keeps_throwOpened (h : Committed root p) :
    EStateM.Keeps (SameWithin p) (throwOpened o root) := by
  intro fs
  exact keeps_writeFile h.apart_temporaryPath.1 fs

theorem keeps_writeState :
    EStateM.Keeps (SameWithin (packagePath root pluginId revision))
      (writeState codec o root state) := by
  have hpackage : Committed root (packagePath root pluginId revision) := .package _ _
  refine (keeps_createDirectories hpackage.not_prefix_root).adaptExcept.bind fun _ => ?_
  split
  · exact keeps_writeText
  · exact keeps_throwOpened hpackage

/-- A write of the state that fails leaves the state file as it was. -/
theorem writeText_eq_error {e : WriteFailure} (h : writeText o root text fs = .error e fs') :
    SameWithin (statePath root) fs fs' := by
  have htemporary : Apart (statePath root) (temporaryPath root o.clock) :=
    Committed.state.apart_temporaryPath
  obtain ⟨fs₁, hbody, rfl⟩ := EStateM.onFailure_eq_error.mp h
  refine IsTrans.trans _ fs₁ _ ?_ (sameWithin_removeAll htemporary)
  obtain hwrite | ⟨_, fs₂, hwrite, hreplace⟩ := EStateM.bind_eq_error.mp hbody
  · exact (keeps_writeFile htemporary.1).adaptExcept.of_error hwrite
  · obtain ⟨_, hrename, -⟩ := EStateM.adaptExcept_eq_error.mp hreplace
    rw [rename_eq_error hrename]
    exact (keeps_writeFile htemporary.1).of_ok (EStateM.adaptExcept_eq_ok.mp hwrite)

theorem writeState_eq_error {e : WriteFailure}
    (h : writeState codec o root state fs = .error e fs') :
    SameWithin (statePath root) fs fs' := by
  have hdirectories : EStateM.Keeps (SameWithin (statePath root))
      (createDirectories o.directory root : EStateM ByteString Files Unit) :=
    keeps_createDirectories Committed.state.not_prefix_root
  obtain h | ⟨_, fs₁, hcreate, h⟩ := EStateM.bind_eq_error.mp h
  · exact hdirectories.adaptExcept.of_error h
  refine IsTrans.trans _ fs₁ _ (hdirectories.of_ok (EStateM.adaptExcept_eq_ok.mp hcreate)) ?_
  cases hdump : codec.dump (stateDocument state) with
  | some text =>
    rw [hdump] at h
    exact writeText_eq_error h
  | none =>
    rw [hdump] at h
    exact (keeps_throwOpened .state).of_error h

/-- A write of the state that succeeds leaves its text in the state file. -/
theorem writeState_eq_ok (h : writeState codec o root state fs = .ok () fs') :
    ∃ text, codec.dump (stateDocument state) = some text ∧
      fs'.entry (statePath root) = some (.file (text ++ ofString "\n")) := by
  obtain ⟨_, fs₁, -, h⟩ := EStateM.bind_eq_ok.mp h
  cases hdump : codec.dump (stateDocument state) with
  | some text =>
    rw [hdump] at h
    refine ⟨text, rfl, ?_⟩
    obtain ⟨_, fs₂, hwrite, hrename⟩ := EStateM.bind_eq_ok.mp (EStateM.onFailure_eq_ok.mp h)
    obtain ⟨-, -, -, rfl⟩ := writeFile_eq_ok.mp (EStateM.adaptExcept_eq_ok.mp hwrite)
    rw [(rename_eq_ok.mp (EStateM.adaptExcept_eq_ok.mp hrename)).2.2, entry_move, entry_put]
  | none =>
    rw [hdump] at h
    cases h

end Platform

end LiberaLaser.Plugin
