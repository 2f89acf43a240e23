import LiberaLaser.Foundations.FileSystem
import LiberaLaser.Foundations.Json
import LiberaLaser.Foundations.Table
import Mathlib.Data.List.Basic

/-!
# The state of the plugin store

The store keeps in `state.json` which revision of each plugin is active and which driver is chosen
for each controller type. The file is replaced as a whole, by a rename of a new file.
-/

namespace LiberaLaser.Plugin

open ByteString FileSystem

/-- A map from names to names. -/
abbrev NameMap := Table ByteString ByteString

structure StoreState where
  activePackages : NameMap := ∅
  controllerDrivers : NameMap := ∅

/-! ## Reading -/

/-- The entries of an object, none of which may be empty. -/
def readFields : List (ByteString × Json) → NameMap → Option NameMap
  | [], values => some values
  | (key, json) :: fields, values => do
    let value ← json.asString
    if key = [] ∨ value = [] then none else readFields fields (values.insert key value)

def readMap (object : Json) : Option NameMap :=
  object.asObject.bind fun fields => readFields fields ∅

def parseState (document : Json) : Option StoreState :=
  if (document.field "schemaVersion").bind Json.asInt = some 1 then do
    let activePackages ← readMap (← document.field "activePackages")
    let controllerDrivers ← readMap (← document.field "controllerDrivers")
    return { activePackages, controllerDrivers }
  else none

/-- The state that the entry at the path of the state file gives, unless it is invalid. -/
def readState (codec : JsonCodec) (o : ReadOutcome) (entry : Option (FileEntry ByteString)) :
    Option StoreState :=
  match entry, o with
  -- a file that does not open counts as missing
  | none, _ | some _, .notOpened => some {}
  | some (.file text), .whole => (codec.parse text).bind parseState
  | some _, _ => none

/-! ## Writing -/

/-- A map in the order of its keys. -/
def sortedFields (values : NameMap) : List (Sigma fun _ : ByteString => ByteString) :=
  values.entries.mergeSort fun e e' => !decide (e'.1 < e.1)

def writeMap (values : NameMap) : Json :=
  .object ((sortedFields values).map fun e => (e.1, .string e.2))

def stateDocument (state : StoreState) : Json :=
  .object [(ofString "activePackages", writeMap state.activePackages),
    (ofString "controllerDrivers", writeMap state.controllerDrivers),
    (ofString "schemaVersion", .unsigned 1)]

/-- How a write of the state fails. -/
inductive WriteFailure
  | failed (error : ByteString)
  | threw
  deriving DecidableEq

/-- What the steps of writing the state do. -/
structure StateOutcome where
  directory : Option (ℕ × ByteString) := none
  /-- The digits of the clock. -/
  clock : ByteString := []
  /-- What is in the temporary file instead, if it is opened, where writing it fails. -/
  write : Option (Option ByteString) := none
  rename : Option ByteString := none
  /-- The temporary file is removed. -/
  remove : Bool := true

def statePath (root : List ByteString) : List ByteString := root ++ [ofString "state.json"]

def temporaryPath (root : List ByteString) (clock : ByteString) : List ByteString :=
  root ++ [ofString "state.json.tmp." ++ clock]

def replaceFile (failure : Option ByteString) (temporary destination : List ByteString) :
    EStateM WriteFailure Files Unit :=
  EStateM.adaptExcept (fun message =>
      .failed (ofString "Failed to replace plugin state file: " ++ message))
    (rename failure temporary destination)

/-- The text of the state reaches the file system through a temporary file. -/
def writeText (o : StateOutcome) (root : List ByteString) (text : ByteString) :
    EStateM WriteFailure Files Unit :=
  let temporary := temporaryPath root o.clock
  EStateM.onFailure (·.removeAll temporary fun _ => !o.remove) do
    EStateM.adaptExcept (fun _ => .failed (ofString "Failed to write plugin state"))
      (writeFile (o.write.map (·, [])) text temporary)
    replaceFile o.rename temporary (statePath root)

/-- The serialisation throws when the temporary file is open. -/
def throwOpened (o : StateOutcome) (root : List ByteString) :
    EStateM WriteFailure Files Unit := fun fs =>
  let failure : Option (Option ByteString × ByteString) :=
    if o.write = some none then some (none, []) else none
  .error .threw (writeFile failure [] (temporaryPath root o.clock) fs).final

def writeState (codec : JsonCodec) (o : StateOutcome) (root : List ByteString)
    (state : StoreState) : EStateM WriteFailure Files Unit := do
  EStateM.adaptExcept (fun message =>
      .failed (ofString "Failed to create plugin store: " ++ message))
    (createDirectories o.directory root)
  match codec.dump (stateDocument state) with
  | some text => writeText o root (text ++ ofString "\n")
  | none => throwOpened o root

/-! ## Reading back what was written -/

theorem readFields_map {entries : List (Sigma fun _ : ByteString => ByteString)} (values : NameMap)
    (h : ∀ e ∈ entries, e.1 ≠ [] ∧ e.2 ≠ []) :
    readFields (entries.map fun e => (e.1, Json.string e.2)) values =
      some (entries.foldl (fun values e => values.insert e.1 e.2) values) := by
  induction entries generalizing values with
  | nil => rfl
  | cons e entries ih =>
    have hread : readFields ((e :: entries).map fun e => (e.1, Json.string e.2)) values =
        if e.1 = [] ∨ e.2 = [] then none
        else readFields (entries.map fun e => (e.1, Json.string e.2)) (values.insert e.1 e.2) := rfl
    rw [hread, if_neg (not_or.mpr (h e List.mem_cons_self))]
    exact ih _ fun e he => h e (List.mem_cons_of_mem _ he)

/-- The names in a map are not empty. -/
def NamesNonempty (values : NameMap) : Prop := Table.Forall (fun k v => k ≠ [] ∧ v ≠ []) values

theorem readMap_writeMap {values : NameMap} (h : NamesNonempty values) :
    ∃ values', readMap (writeMap values) = some values' ∧
      ∀ k, values'.lookup k = values.lookup k := by
  have hperm : (sortedFields values).Perm values.entries := List.mergeSort_perm _ _
  refine ⟨_, readFields_map ∅ fun e he => ?_, fun k => Table.lookup_foldl_perm hperm k⟩
  exact h _ _ (AList.mem_lookup_iff.mpr (hperm.mem_iff.mp he))

theorem pairwise_sortedFields (values : NameMap) :
    ((sortedFields values).map Sigma.fst).Pairwise (· < ·) := by
  have hsorted : (sortedFields values).Pairwise fun e e' => !decide (e'.1 < e.1) := by
    refine List.pairwise_mergeSort (fun a b c hab hbc => ?_) (fun a b => ?_) _
    · simp only [Bool.not_eq_true', decide_eq_false_iff_not, List.not_lt] at hab hbc ⊢
      exact List.le_trans hab hbc
    · simp only [Bool.or_eq_true, Bool.not_eq_true', decide_eq_false_iff_not, List.not_lt]
      exact List.le_total a.1 b.1
  have hnodup : ((sortedFields values).map Sigma.fst).Nodup :=
    ((List.mergeSort_perm _ _).map _).nodup_iff.mpr values.nodupKeys
  rw [List.Nodup, List.pairwise_map] at hnodup
  rw [List.pairwise_map]
  refine (hsorted.and hnodup).imp fun {e e'} h => ?_
  simp only [Bool.not_eq_true', decide_eq_false_iff_not, List.not_lt] at h
  exact (List.le_iff_lt_or_eq.mp h.1).resolve_right h.2

theorem normal_writeMap (values : NameMap) : (writeMap values).Normal := by
  refine .object ?_ fun f hf => ?_
  · rw [List.map_map]
    exact pairwise_sortedFields values
  · obtain ⟨e, -, rfl⟩ := List.mem_map.mp hf
    exact .string _

theorem normal_stateDocument (state : StoreState) : (stateDocument state).Normal := by
  refine .object (by simp only [List.map_cons, List.map_nil]; decide +kernel) fun f hf => ?_
  simp only [List.mem_cons, List.not_mem_nil, or_false] at hf
  rcases hf with rfl | rfl | rfl
  · exact normal_writeMap _
  · exact normal_writeMap _
  · exact .unsigned 1 (by decide)

/-- **The state file keeps the state**: reading the file that was written gives the same maps. -/
theorem readState_stateDocument {codec : JsonCodec} {state : StoreState} {text : ByteString}
    (hcodec : codec.Lawful) (hdump : codec.dump (stateDocument state) = some text)
    (hactive : NamesNonempty state.activePackages)
    (hdrivers : NamesNonempty state.controllerDrivers) :
    ∃ state', readState codec .whole (some (.file (text ++ ofString "\n"))) = some state' ∧
      (∀ k, state'.activePackages.lookup k = state.activePackages.lookup k) ∧
      ∀ k, state'.controllerDrivers.lookup k = state.controllerDrivers.lookup k := by
  obtain ⟨active, hactive, hlookup⟩ := readMap_writeMap hactive
  obtain ⟨drivers, hdrivers, hlookup'⟩ := readMap_writeMap hdrivers
  refine ⟨⟨active, drivers⟩, ?_, hlookup, hlookup'⟩
  have hread : parseState (stateDocument state) = (readMap (writeMap state.activePackages)).bind
      fun active => (readMap (writeMap state.controllerDrivers)).bind
        fun drivers => some ⟨active, drivers⟩ := by
    have hversion : ((stateDocument state).field "schemaVersion").bind Json.asInt = some 1 := rfl
    rw [parseState, if_pos hversion]
    rfl
  have hparse := hcodec.parse_dump _ text (normal_stateDocument state) hdump
  rw [readState, hparse, Option.bind_some, hread, hactive, Option.bind_some, hdrivers,
    Option.bind_some]

/-! ## What a reading accepts -/

theorem forall_readFields {fields : List (ByteString × Json)} {values values' : NameMap}
    (hvalues : NamesNonempty values) (h : readFields fields values = some values') :
    NamesNonempty values' := by
  induction fields generalizing values with
  | nil =>
    cases h
    exact hvalues
  | cons f fields ih =>
    obtain ⟨value, hvalue, h⟩ := Option.bind_eq_some_iff.mp h
    split at h
    · cases h
    · rename_i hnonempty
      exact ih (Table.Forall.insert hvalues (not_or.mp hnonempty)) h

theorem forall_readMap {object : Json} {values : NameMap} (h : readMap object = some values) :
    NamesNonempty values := by
  obtain ⟨fields, -, h⟩ := Option.bind_eq_some_iff.mp h
  exact forall_readFields Table.forall_empty h

theorem namesNonempty_readState {codec : JsonCodec} {o : ReadOutcome}
    {entry : Option (FileEntry ByteString)} {state : StoreState}
    (h : readState codec o entry = some state) :
    NamesNonempty state.activePackages ∧ NamesNonempty state.controllerDrivers := by
  unfold readState at h
  split at h
  · cases h
    exact ⟨Table.forall_empty, Table.forall_empty⟩
  · cases h
    exact ⟨Table.forall_empty, Table.forall_empty⟩
  · obtain ⟨document, -, h⟩ := Option.bind_eq_some_iff.mp h
    unfold parseState at h
    split at h
    · simp only [Option.bind_eq_bind, Option.bind_eq_some_iff] at h
      obtain ⟨_, -, active, hactive, _, -, drivers, hdrivers, h⟩ := h
      cases h
      exact ⟨forall_readMap hactive, forall_readMap hdrivers⟩
    · cases h
  · cases h

end LiberaLaser.Plugin
