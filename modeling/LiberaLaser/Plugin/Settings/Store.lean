import LiberaLaser.Foundations.FileSystem
import LiberaLaser.Plugin.Settings.Document

/-!
# The settings store

The store keeps the values of the settings in memory and in a file, which it reads again under a
lock before each update. An update writes the whole document to a temporary file and renames it over
the old one. The serialisation of a document throws where a string is not valid UTF-8.

Nobody else changes the file here. What the system answers to each call is an input.
-/

namespace LiberaLaser.Plugin

open ByteString

structure SettingsStore where
  loadedPath : ByteString := []
  loadedFileValid : Bool := true
  values : SettingValues := ∅

/-- The store of the process and the file at the current path, which is empty when there is no
plugin directory. -/
structure Storage where
  store : SettingsStore := {}
  path : ByteString
  file : Option ByteString := none

/-- What the steps of writing the file do. A failure to create the directory or to rename comes with
the message of the system. -/
structure WriteOutcome where
  directory : Option ByteString := none
  opened : Bool := true
  written : Bool := true
  rename : Option ByteString := none

/-- What the steps of an update of the store do. -/
structure StoreOutcome where
  directory : Option ByteString := none
  lock : Option ByteString := none
  read : ReadOutcome := .whole
  write : WriteOutcome := {}

inductive SetResult
  | saved
  | failed (error : ByteString)
  | threw
  deriving DecidableEq

namespace Storage

variable (codec : JsonCodec)

/-- The values that a text gives, unless it is invalid. -/
def load (text : ByteString) : Option SettingValues := (codec.parse text).bind readDocument

/-- `ensureLoaded(true)`. -/
def reload (outcome : ReadOutcome) (s : Storage) : Storage :=
  if s.path = [] then { s with store := { loadedPath := s.path } }
  else
    match s.file, outcome with
    | none, _ | some _, .notOpened => { s with store := { loadedPath := s.path } }
    | some _, .broken =>
      { s with store := { loadedPath := s.path, loadedFileValid := false } }
    | some text, .whole =>
      match load codec text with
      | none => { s with store := { loadedPath := s.path, loadedFileValid := false } }
      | some values => { s with store := { loadedPath := s.path, values } }

def ensureLoaded (outcome : ReadOutcome) (s : Storage) : Storage :=
  if s.path = s.store.loadedPath then s else s.reload codec outcome

def get (outcome : ReadOutcome) (s : Storage) (address : SettingAddress) :
    Storage × Option ByteString :=
  let s := s.ensureLoaded codec outcome
  (s, s.store.values.lookup address)

def writeFile (o : WriteOutcome) (s : Storage) : Storage × SetResult :=
  match o.directory with
  | some message => (s, .failed (ofString "Failed to create settings directory: " ++ message))
  | none =>
    if o.opened then
      match codec.dump (document (sortedValues s.store.values)) with
      | none => (s, .threw)
      | some text =>
        if o.written then
          match o.rename with
          | some message =>
            (s, .failed (ofString "Failed to replace plugin settings file: " ++ message))
          | none => ({ s with file := some (text ++ ofString "\n") }, .saved)
        else (s, .failed (ofString "Failed to write plugin settings"))
    else (s, .failed (ofString "Failed to open temporary settings file"))

/-- The storage with other values in memory. -/
def withValues (s : Storage) (values : SettingValues) : Storage :=
  { s with store := { s.store with values } }

/-- `set`. -/
def set (o : StoreOutcome) (s : Storage) (address : SettingAddress) (value : ByteString) :
    Storage × SetResult :=
  if s.path = [] then (s, .failed (ofString "Plugin settings path is unavailable"))
  else
    match o.directory, o.lock with
    | some message, _ =>
      (s, .failed (ofString "Failed to create settings directory: " ++ message))
    | none, some message => (s, .failed message)
    | none, none =>
      let s := s.reload codec o.read
      if s.store.loadedFileValid then
        let previous := s.store.values.lookup address
        let s := s.withValues (s.store.values.insert address value)
        match s.writeFile codec o.write with
        | (s, .saved) => (s, .saved)
        | (s, .failed error) =>
          (s.withValues (match previous with
            | some previous => s.store.values.insert address previous
            | none => s.store.values.erase address), .failed error)
        -- the exception passes the restoration by
        | (s, .threw) => (s, .threw)
      else (s, .failed (ofString "Plugin settings.json is invalid; refusing to overwrite it"))

/-- The values in the file. -/
def fileValues (s : Storage) : SettingValues :=
  if s.path = [] then ∅ else (s.file.bind (load codec)).getD ∅

/-- The values in memory, once they are those of the current path, are the values in the file. -/
def Agrees (s : Storage) : Prop :=
  s.store.loadedPath = s.path →
    ∀ address, s.store.values.lookup address = (s.fileValues codec).lookup address

@[simp] theorem path_withValues (s : Storage) (values : SettingValues) :
    (s.withValues values).path = s.path := rfl

@[simp] theorem file_withValues (s : Storage) (values : SettingValues) :
    (s.withValues values).file = s.file := rfl

@[simp] theorem loadedPath_withValues (s : Storage) (values : SettingValues) :
    (s.withValues values).store.loadedPath = s.store.loadedPath := rfl

@[simp] theorem values_withValues (s : Storage) (values : SettingValues) :
    (s.withValues values).store.values = values := rfl

/-! ## The reading of the file -/

/-- The file has no values: it is missing, invalid or empty. -/
def NoFileValues (s : Storage) : Prop := ∀ address, (s.fileValues codec).lookup address = none

/-- A reading that gives a file which may be overwritten. -/
def ReadsValid (outcome : ReadOutcome) (s : Storage) : Prop :=
  match s.file, outcome with
  | some _, .broken => False
  | some text, .whole => (load codec text).isSome
  | _, _ => True

instance {outcome : ReadOutcome} {s : Storage} : Decidable (s.ReadsValid codec outcome) := by
  unfold ReadsValid
  split
  · infer_instance
  · infer_instance
  · infer_instance

variable {codec} {s s' : Storage} {outcome : ReadOutcome}

/-- A reading replaces the store alone. -/
theorem reload_eq (codec : JsonCodec) (s : Storage) (outcome : ReadOutcome) : ∃ valid values,
    s.reload codec outcome = { s with store := ⟨s.path, valid, values⟩ } := by
  unfold reload
  split
  · exact ⟨_, _, rfl⟩
  split
  · exact ⟨_, _, rfl⟩
  · exact ⟨_, _, rfl⟩
  · exact ⟨_, _, rfl⟩
  · split
    · exact ⟨_, _, rfl⟩
    · exact ⟨_, _, rfl⟩

@[simp] theorem path_reload : (s.reload codec outcome).path = s.path := by
  obtain ⟨_, _, h⟩ := reload_eq codec s outcome
  rw [h]

@[simp] theorem file_reload : (s.reload codec outcome).file = s.file := by
  obtain ⟨_, _, h⟩ := reload_eq codec s outcome
  rw [h]

@[simp] theorem loadedPath_reload : (s.reload codec outcome).store.loadedPath = s.path := by
  obtain ⟨_, _, h⟩ := reload_eq codec s outcome
  rw [h]

/-- The file is valid after a reading exactly when the reading gives a valid file. -/
theorem loadedFileValid_reload (hpath : s.path ≠ []) :
    (s.reload codec outcome).store.loadedFileValid = true ↔ s.ReadsValid codec outcome := by
  unfold reload ReadsValid
  rw [if_neg hpath]
  cases s.file with
  | none => simp
  | some text =>
    cases outcome with
    | whole => cases h : load codec text <;> simp [h]
    | notOpened => simp
    | broken => simp

/-- What a reading leaves in memory is nothing, or what is in the file. -/
theorem values_reload (codec : JsonCodec) (s : Storage) (outcome : ReadOutcome) :
    (s.reload codec outcome).store.values = ∅ ∨
      (s.reload codec outcome).store.values = s.fileValues codec := by
  unfold reload fileValues
  split
  · exact .inl rfl
  cases s.file with
  | none => exact .inl rfl
  | some text =>
    cases outcome with
    | whole => cases h : load codec text <;> simp [h]
    | notOpened => exact .inl rfl
    | broken => exact .inl rfl

theorem values_reload_whole :
    (s.reload codec .whole).store.values = s.fileValues codec := by
  unfold reload fileValues
  split
  · rfl
  cases s.file with
  | none => rfl
  | some text => cases h : load codec text <;> simp [h]

theorem values_reload_of_ne (h : outcome ≠ .whole) :
    (s.reload codec outcome).store.values = ∅ := by
  unfold reload
  split
  · rfl
  cases s.file with
  | none => rfl
  | some text =>
    cases outcome with
    | whole => exact absurd rfl h
    | notOpened => rfl
    | broken => rfl

theorem fileValues_congr (hpath : s'.path = s.path) (hfile : s'.file = s.file) :
    s'.fileValues codec = s.fileValues codec := by
  rw [fileValues, fileValues, hpath, hfile]

/-- After a reading the memory agrees with the file exactly when the reading gave the whole file or
there was nothing to give. -/
theorem agrees_reload :
    (s.reload codec outcome).Agrees codec ↔ outcome = .whole ∨ s.NoFileValues codec := by
  have hfile : (s.reload codec outcome).fileValues codec = s.fileValues codec :=
    fileValues_congr path_reload file_reload
  have hagrees : (s.reload codec outcome).Agrees codec ↔
      ∀ a, (s.reload codec outcome).store.values.lookup a = (s.fileValues codec).lookup a := by
    rw [Agrees, hfile, path_reload, loadedPath_reload]
    exact ⟨fun h => h rfl, fun h _ => h⟩
  rw [hagrees]
  by_cases h : outcome = .whole
  · rw [h, values_reload_whole]
    simp
  · rw [values_reload_of_ne h, NoFileValues]
    simp [h, eq_comm]

/-- The memory agrees with the file after a first use of the store. -/
def AgreesAfter (codec : JsonCodec) (outcome : ReadOutcome) (s : Storage) : Prop :=
  if s.path = s.store.loadedPath then s.Agrees codec else outcome = .whole ∨ s.NoFileValues codec

theorem agrees_ensureLoaded :
    (s.ensureLoaded codec outcome).Agrees codec ↔ s.AgreesAfter codec outcome := by
  unfold ensureLoaded AgreesAfter
  split
  · exact Iff.rfl
  · exact agrees_reload

@[simp] theorem path_ensureLoaded : (s.ensureLoaded codec outcome).path = s.path := by
  unfold ensureLoaded
  split
  · rfl
  · exact path_reload

@[simp] theorem file_ensureLoaded : (s.ensureLoaded codec outcome).file = s.file := by
  unfold ensureLoaded
  split
  · rfl
  · exact file_reload

theorem noFileValues_congr (hpath : s'.path = s.path) (hfile : s'.file = s.file) :
    s'.NoFileValues codec ↔ s.NoFileValues codec := by
  rw [NoFileValues, NoFileValues, fileValues_congr hpath hfile]

theorem forall_fileValues (hcodec : codec.Lawful) :
    (s.fileValues codec).Forall fun a value => a.Named ∧ a.Encoded value := by
  unfold fileValues load
  split
  · exact Table.forall_empty
  cases s.file with
  | none => exact Table.forall_empty
  | some text =>
    cases hparse : codec.parse text with
    | none =>
      rw [Option.bind_some, hparse]
      exact Table.forall_empty
    | some json =>
      rw [Option.bind_some, hparse, Option.bind_some]
      cases hread : readDocument json with
      | none => exact Table.forall_empty
      | some values =>
        exact fun a value h => ⟨forall_named_readDocument hread a value h,
          forall_encoded_readDocument (hcodec.encoded_parse text json hparse) hread a value h⟩

theorem forall_reload (hcodec : codec.Lawful) :
    (s.reload codec outcome).store.values.Forall fun a value => a.Named ∧ a.Encoded value := by
  rcases values_reload codec s outcome with h | h
  · rw [h]
    exact Table.forall_empty
  · rw [h]
    exact forall_fileValues hcodec

/-! ## An update of the store -/

/-- The update reaches the reading of the file. -/
def Reaches (o : StoreOutcome) (s : Storage) : Prop :=
  s.path ≠ [] ∧ o.directory = none ∧ o.lock = none

/-- The update reaches the serialisation of the document. -/
def Serialises (codec : JsonCodec) (o : StoreOutcome) (s : Storage) : Prop :=
  s.Reaches o ∧ s.ReadsValid codec o.read ∧ o.write.directory = none ∧ o.write.opened = true

/-- The document reaches its place. -/
def Persists (codec : JsonCodec) (o : StoreOutcome) (s : Storage) (address : SettingAddress)
    (value : ByteString) : Prop :=
  s.Serialises codec o ∧ address.Encoded value ∧ o.write.written = true ∧ o.write.rename = none

instance {o : StoreOutcome} : Decidable (s.Reaches o) := inferInstanceAs (Decidable (_ ∧ _))

instance {o : StoreOutcome} : Decidable (s.Serialises codec o) :=
  inferInstanceAs (Decidable (_ ∧ _))

instance {o : StoreOutcome} {address : SettingAddress} {value : ByteString} :
    Decidable (s.Persists codec o address value) :=
  inferInstanceAs (Decidable (_ ∧ _))

/-- How an update of the store ends. -/
inductive SetCase (codec : JsonCodec) (o : StoreOutcome) (s : Storage) (address : SettingAddress)
    (value : ByteString) : Storage × SetResult → Prop
  | unreached (error : ByteString) (h : ¬s.Reaches o) :
      SetCase codec o s address value (s, .failed error)
  | refused (error : ByteString) (hreaches : s.Reaches o) (h : ¬s.ReadsValid codec o.read) :
      SetCase codec o s address value (s.reload codec o.read, .failed error)
  | restored (error : ByteString) (values : SettingValues) (hreaches : s.Reaches o)
      (hvalues : ∀ a, values.lookup a = (s.reload codec o.read).store.values.lookup a)
      (h : s.Serialises codec o → address.Encoded value ∧ ¬s.Persists codec o address value) :
      SetCase codec o s address value
        ((s.reload codec o.read).withValues values, .failed error)
  | threw (h : s.Serialises codec o) (hencoded : ¬address.Encoded value) :
      SetCase codec o s address value
        ((s.reload codec o.read).withValues
          ((s.reload codec o.read).store.values.insert address value), .threw)
  | saved (text : ByteString) (h : s.Persists codec o address value)
      (htext : codec.dump (document (sortedValues
        ((s.reload codec o.read).store.values.insert address value))) = some text) :
      SetCase codec o s address value
        ({ (s.reload codec o.read).withValues
            ((s.reload codec o.read).store.values.insert address value) with
          file := some (text ++ ofString "\n") }, .saved)

variable {o : StoreOutcome} {address : SettingAddress} {value : ByteString}

theorem reaches_congr (hpath : s'.path = s.path) : s'.Reaches o ↔ s.Reaches o := by
  rw [Reaches, Reaches, hpath]

theorem serialises_congr (codec : JsonCodec) (o : StoreOutcome) (hpath : s'.path = s.path)
    (hfile : s'.file = s.file) :
    s'.Serialises codec o ↔ s.Serialises codec o := by
  have hread : s'.ReadsValid codec o.read ↔ s.ReadsValid codec o.read := by
    unfold ReadsValid
    rw [hfile]
  rw [Serialises, Serialises, reaches_congr hpath, hread]

theorem persists_congr (codec : JsonCodec) (o : StoreOutcome) (address : SettingAddress)
    (value : ByteString) (hpath : s'.path = s.path) (hfile : s'.file = s.file) :
    s'.Persists codec o address value ↔ s.Persists codec o address value := by
  rw [Persists, Persists, serialises_congr codec o hpath hfile]

/-- The document with the new value serialises exactly when the new entry does, since everything
that was loaded does. -/
theorem isSome_dump_insert (hcodec : codec.Lawful) (s : Storage) (outcome : ReadOutcome)
    (address : SettingAddress) (value : ByteString) :
    (codec.dump (document (sortedValues
      ((s.reload codec outcome).store.values.insert address value)))).isSome ↔
      address.Encoded value := by
  rw [hcodec.isSome_dump, encoded_document]
  constructor
  · intro h
    exact h ⟨address, value⟩ (mem_sortedValues.mpr (AList.lookup_insert _))
  · intro h e he
    rcases Table.lookup_insert_eq_some.mp (mem_sortedValues.mp he) with ⟨haddress, hvalue⟩ | ⟨-, he⟩
    · rw [haddress, ← hvalue]
      exact h
    · exact (forall_reload hcodec _ _ he).2

/-- Writing the file fails and changes nothing, throws, or replaces the file. -/
theorem writeFile_cases (codec : JsonCodec) (o : WriteOutcome) (s : Storage) :
    (∃ error, s.writeFile codec o = (s, .failed error) ∧
      (o.directory = none → o.opened = true →
        (codec.dump (document (sortedValues s.store.values))).isSome ∧
          ¬(o.written = true ∧ o.rename = none))) ∨
    (s.writeFile codec o = (s, .threw) ∧ o.directory = none ∧ o.opened = true ∧
      codec.dump (document (sortedValues s.store.values)) = none) ∨
    ∃ text, s.writeFile codec o = ({ s with file := some (text ++ ofString "\n") }, .saved) ∧
      o.directory = none ∧ o.opened = true ∧
      codec.dump (document (sortedValues s.store.values)) = some text ∧
      o.written = true ∧ o.rename = none := by
  unfold writeFile
  split
  · rename_i message hdirectory
    exact .inl ⟨_, rfl, fun h => by rw [h] at hdirectory; cases hdirectory⟩
  rename_i hdirectory
  split
  · rename_i hopened
    split
    · rename_i hdump
      exact .inr (.inl ⟨rfl, hdirectory, hopened, hdump⟩)
    · rename_i text hdump
      split
      · rename_i hwritten
        split
        · rename_i message hrename
          refine .inl ⟨_, rfl, fun _ _ => ⟨by rw [hdump]; rfl, fun h => ?_⟩⟩
          rw [h.2] at hrename
          cases hrename
        · rename_i hrename
          exact .inr (.inr ⟨text, rfl, hdirectory, hopened, hdump, hwritten, hrename⟩)
      · rename_i hwritten
        exact .inl ⟨_, rfl, fun _ _ => ⟨by rw [hdump]; rfl, fun h => hwritten h.1⟩⟩
  · rename_i hopened
    exact .inl ⟨_, rfl, fun _ h => absurd h hopened⟩

theorem lookup_restored (values : SettingValues) (a : SettingAddress) :
    (match values.lookup address with
      | some previous => (values.insert address value).insert address previous
      | none => (values.insert address value).erase address : SettingValues).lookup a =
      values.lookup a := by
  cases h : values.lookup address with
  | some previous =>
    simp only [Table.lookup_insert]
    split
    · rename_i ha
      rw [ha, h]
    · rfl
  | none =>
    simp only [Table.lookup_erase, Table.lookup_insert]
    split
    · rename_i ha
      rw [ha, h]
    · rfl

theorem set_cases (hcodec : codec.Lawful) (o : StoreOutcome) (s : Storage)
    (address : SettingAddress) (value : ByteString) :
    SetCase codec o s address value (s.set codec o address value) := by
  unfold set
  split
  · rename_i hpath
    exact .unreached _ fun h => h.1 hpath
  rename_i hpath
  split
  · rename_i _ hdirectory
    exact .unreached _ fun h => by rw [h.2.1] at hdirectory; cases hdirectory
  · rename_i _ hdirectory hlock
    exact .unreached _ fun h => by rw [h.2.2] at hlock; cases hlock
  rename_i hdirectory hlock
  have hreaches : s.Reaches o := ⟨hpath, hdirectory, hlock⟩
  simp only []
  split
  · rename_i hvalid
    have hread : s.ReadsValid codec o.read := (loadedFileValid_reload hpath).mp hvalid
    have hdump := isSome_dump_insert hcodec s o.read address value
    obtain ⟨error, hwrite, herror⟩ | ⟨hwrite, hdirectory, hopened, hnone⟩ |
        ⟨text, hwrite, hdirectory, hopened, htext, hcompletes⟩ :=
      writeFile_cases codec o.write ((s.reload codec o.read).withValues
        ((s.reload codec o.read).store.values.insert address value))
    · rw [hwrite]
      refine .restored error _ hreaches (fun a => lookup_restored _ a) fun hserialises => ?_
      obtain ⟨hsome, hstops⟩ := herror hserialises.2.2.1 hserialises.2.2.2
      exact ⟨hdump.mp hsome, fun hpersists => hstops hpersists.2.2⟩
    · rw [hwrite]
      refine .threw ⟨hreaches, hread, hdirectory, hopened⟩ fun hencoded => ?_
      have hsome := hdump.mpr hencoded
      rw [values_withValues] at hnone
      rw [hnone] at hsome
      cases hsome
    · rw [hwrite]
      rw [values_withValues] at htext
      refine .saved text ⟨⟨hreaches, hread, hdirectory, hopened⟩, hdump.mp ?_, hcompletes⟩ htext
      rw [htext]
      rfl
  · rename_i hvalid
    exact .refused _ hreaches fun h => hvalid ((loadedFileValid_reload hpath).mpr h)

theorem agrees_withValues {values : SettingValues}
    (h : ∀ a, values.lookup a = s.store.values.lookup a) :
    (s.withValues values).Agrees codec ↔ s.Agrees codec := by
  have hfile : (s.withValues values).fileValues codec = s.fileValues codec :=
    fileValues_congr rfl rfl
  simp only [Agrees, hfile, path_withValues, loadedPath_withValues, values_withValues, h]

/-- The memory after an update that reports a failure agrees with the file exactly when the last
reading gave the whole file or there was nothing to give. -/
theorem set_failed {error : ByteString} (hcodec : codec.Lawful)
    (h : s.set codec o address value = (s', .failed error)) :
    s'.path = s.path ∧ s'.file = s.file ∧ ¬s.Persists codec o address value ∧
      (s.Serialises codec o → address.Encoded value) ∧
      (s'.Agrees codec ↔
        if s.Reaches o then o.read = .whole ∨ s.NoFileValues codec else s.Agrees codec) := by
  have hcase := set_cases hcodec o s address value
  rw [h] at hcase
  cases hcase with
  | unreached _ hunreached =>
    rw [if_neg hunreached]
    exact ⟨rfl, rfl, fun hp => hunreached hp.1.1, fun hs => absurd hs.1 hunreached, Iff.rfl⟩
  | refused _ hreaches hrefused =>
    rw [if_pos hreaches]
    exact ⟨path_reload, file_reload, fun hp => hrefused hp.1.2.1, fun hs => absurd hs.2.1 hrefused,
      agrees_reload⟩
  | restored _ values hreaches hvalues hstops =>
    rw [if_pos hreaches, agrees_withValues hvalues]
    exact ⟨path_reload, file_reload, fun hp => (hstops hp.1).2 hp, fun hs => (hstops hs).1,
      agrees_reload⟩

/-- The memory after an update that throws does not agree with the file. -/
theorem set_threw (hcodec : codec.Lawful)
    (h : s.set codec o address value = (s', .threw)) :
    s.Serialises codec o ∧ ¬address.Encoded value ∧ ¬s'.Agrees codec := by
  have hcase := set_cases hcodec o s address value
  rw [h] at hcase
  cases hcase with
  | threw hserialises hencoded =>
    refine ⟨hserialises, hencoded, fun hagrees => hencoded ?_⟩
    have hlookup := hagrees (by simp) address
    rw [values_withValues, AList.lookup_insert] at hlookup
    exact (forall_fileValues hcodec _ _ hlookup.symm).2

/-- An update that reports success leaves the new value in memory and in the file. -/
theorem set_saved (hcodec : codec.Lawful) (hnamed : address.Named)
    (h : s.set codec o address value = (s', .saved)) :
    s.Persists codec o address value ∧ s'.path = s.path ∧
      s'.store.values.lookup address = some value ∧
      (s'.fileValues codec).lookup address = some value := by
  have hcase := set_cases hcodec o s address value
  rw [h] at hcase
  cases hcase with
  | saved text hpersists htext =>
    have hvalues : Table.Forall (fun a _ => a.Named)
        ((s.reload codec o.read).store.values.insert address value) :=
      ((forall_reload hcodec).mono fun _ _ _ h => h.1).insert hnamed
    obtain ⟨values, hread, hlookup⟩ := readDocument_document hvalues
    refine ⟨hpersists, path_reload, AList.lookup_insert _, ?_⟩
    have hfile : load codec (text ++ ofString "\n") = some values := by
      rw [load, hcodec.parse_dump _ _ (normal_document _) htext]
      exact hread
    rw [fileValues, if_neg (by simpa using hpersists.1.1.1), Option.bind_some, hfile,
      Option.getD_some, hlookup, AList.lookup_insert]

end Storage

end LiberaLaser.Plugin
