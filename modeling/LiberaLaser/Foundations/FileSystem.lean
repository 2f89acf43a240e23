import LiberaLaser.Foundations.ByteString
import LiberaLaser.Foundations.Programs
import Mathlib.Data.List.Infix
import Mathlib.Logic.Function.Basic

/-!
# File systems

A file system is a finite tree of files and directories, given by the entry at each path. The calls
here are those of the operating system; each may fail, with the message that the system gives, and a
call on many entries may fail halfway. What a call leaves alone is stated by subtrees: a subtree is
the same when no path in it has another entry (`SameWithin`).
-/

/-- What reading an existing file does: it gives the whole file, the file does not open, or reading
stops with an error. -/
inductive ReadOutcome
  | whole
  | notOpened
  | broken
  deriving DecidableEq

/-- What stands at a path. -/
inductive FileEntry (β : Type)
  | file (content : β)
  | directory
  deriving DecidableEq

structure FileSystem (ν β : Type) where
  entry : List ν → Option (FileEntry β)
  /-- The paths where something may stand. -/
  paths : List (List ν)
  mem_paths : ∀ p, entry p ≠ none → p ∈ paths

/-- A file system whose names and contents are byte strings. -/
abbrev Files := FileSystem ByteString ByteString

namespace FileSystem

open ByteString

/-- Nothing stands anywhere. -/
def empty {ν β : Type} : FileSystem ν β := ⟨fun _ => none, [], fun _ h => absurd rfl h⟩

section Subtrees

variable {ν β : Type} {fs fs' : FileSystem ν β} {p q : List ν}

/-! ## Questions -/

def isDirectory (fs : FileSystem ν β) (p : List ν) : Bool := fs.entry p matches some .directory

theorem isDirectory_iff : fs.isDirectory p = true ↔ fs.entry p = some .directory := by
  unfold isDirectory
  split
  · rename_i h
    exact ⟨fun _ => h, fun _ => rfl⟩
  · rename_i h
    exact ⟨nofun, fun hentry => absurd hentry h⟩

def contentAt (fs : FileSystem ν β) (p : List ν) : Option β :=
  match fs.entry p with
  | some (.file content) => some content
  | _ => none

def isRegularFile (fs : FileSystem ν β) (p : List ν) : Bool := fs.entry p matches some (.file _)

theorem isDirectory_congr (h : fs'.entry p = fs.entry p) :
    fs'.isDirectory p = fs.isDirectory p := by
  rw [isDirectory, h, ← isDirectory]

theorem isRegularFile_congr (h : fs'.entry p = fs.entry p) :
    fs'.isRegularFile p = fs.isRegularFile p := by
  rw [isRegularFile, h, ← isRegularFile]

theorem isRegularFile_eq_isSome : fs.isRegularFile p = (fs.contentAt p).isSome := by
  rw [isRegularFile, contentAt]
  rcases fs.entry p with _ | _ | _ <;> rfl

/-! ## Subtrees -/

/-- Two subtrees have no path in common. -/
def Apart (p q : List ν) : Prop := ¬p <+: q ∧ ¬q <+: p

/-- The subtree at a path is the same in another file system. -/
def SameWithin (p : List ν) (fs fs' : FileSystem ν β) : Prop :=
  ∀ q, p <+: q → fs'.entry q = fs.entry q

instance : Std.Refl (SameWithin p : FileSystem ν β → FileSystem ν β → Prop) :=
  ⟨fun _ _ _ => rfl⟩

instance : IsTrans (FileSystem ν β) (SameWithin p) :=
  ⟨fun _ _ _ h h' q hq => (h' q hq).trans (h q hq)⟩

theorem SameWithin.entry_eq (h : SameWithin p fs fs') : fs'.entry p = fs.entry p :=
  h p (List.prefix_refl p)

theorem SameWithin.isDirectory_iff (h : SameWithin p fs fs') :
    fs'.isDirectory p = true ↔ fs.isDirectory p = true := by
  rw [FileSystem.isDirectory_iff, FileSystem.isDirectory_iff, h.entry_eq]

theorem Apart.symm (h : Apart p q) : Apart q p := ⟨h.2, h.1⟩

/-- A proper prefix leaves out the last element. -/
theorem prefix_dropLast (h : p <+: q) (hne : p ≠ q) : p <+: q.dropLast := by
  obtain ⟨tail, rfl⟩ := h
  have htail : tail ≠ [] := by
    rintro rfl
    exact hne (List.append_nil p).symm
  rw [List.dropLast_append_of_ne_nil htail]
  exact List.prefix_append p _

theorem Apart.not_prefix (h : Apart p q) {r : List ν} (hp : p <+: r) : ¬q <+: r := fun hq =>
  (List.prefix_or_prefix_of_prefix hp hq).elim h.1 h.2

theorem apart_cons {a b : ν} (h : a ≠ b) : Apart (a :: p) (b :: q) :=
  ⟨fun hp => h (List.cons_prefix_cons.mp hp).1, fun hq => h (List.cons_prefix_cons.mp hq).1.symm⟩

theorem Apart.append_left (h : Apart p q) (r : List ν) : Apart (r ++ p) (r ++ q) := by
  rw [Apart, List.prefix_append_right_inj, List.prefix_append_right_inj]
  exact h

/-- What is apart from a subtree is apart from its parts. -/
theorem Apart.append_right (h : Apart p q) (r : List ν) : Apart p (q ++ r) :=
  ⟨fun hp => h.not_prefix hp (List.prefix_append q r),
    fun hq => h.2 ((List.prefix_append q r).trans hq)⟩

end Subtrees

variable {ν β : Type} [DecidableEq ν]

/-! ## Changes -/

/-- The file system with a new entry at a path. -/
def put (fs : FileSystem ν β) (p : List ν) (e : FileEntry β) : FileSystem ν β where
  entry := Function.update fs.entry p (some e)
  paths := p :: fs.paths
  mem_paths q h := by
    by_cases hq : q = p
    · rw [hq]
      exact List.mem_cons_self
    · rw [Function.update_of_ne hq] at h
      exact List.mem_cons_of_mem _ (fs.mem_paths q h)

/-- The file system without the subtree at a path, except for what is kept of it. -/
def removeAll (fs : FileSystem ν β) (p : List ν) (keep : List ν → Bool) : FileSystem ν β where
  entry q := if p <+: q ∧ keep q = false then none else fs.entry q
  paths := fs.paths
  mem_paths q h := by
    split at h
    · exact absurd rfl h
    · exact fs.mem_paths q h

/-- The file system with a directory at every path above a path, and at the path, where nothing
stood. -/
def addDirectories (fs : FileSystem ν β) (p : List ν) : FileSystem ν β where
  entry q := if q <+: p ∧ fs.entry q = none then some .directory else fs.entry q
  paths := p.inits ++ fs.paths
  mem_paths q h := by
    split at h
    · rename_i hq
      exact List.mem_append_left _ ((List.mem_inits q p).mpr hq.1)
    · exact List.mem_append_right _ (fs.mem_paths q h)

/-- The file system with a subtree moved to another place, in place of what stood there. -/
def move (fs : FileSystem ν β) (src dst : List ν) : FileSystem ν β where
  entry q :=
    if dst <+: q then fs.entry (src ++ q.drop dst.length)
    else if src <+: q then none else fs.entry q
  paths := fs.paths ++ fs.paths.map fun p => dst ++ p.drop src.length
  mem_paths q h := by
    split at h
    · rename_i hq
      obtain ⟨tail, rfl⟩ := hq
      refine List.mem_append_right _ (List.mem_map.mpr ⟨src ++ tail, ?_, by rw [List.drop_left]⟩)
      rw [List.drop_left] at h
      exact fs.mem_paths _ h
    · split at h
      · exact absurd rfl h
      · exact List.mem_append_left _ (fs.mem_paths q h)

/-- Nothing stands below a path. -/
def emptyAt (fs : FileSystem ν β) (p : List ν) : Bool :=
  fs.paths.all fun q => !(p.isPrefixOf q) || q = p || (fs.entry q).isNone

/-- No file stands on the way to a path, nor at it. -/
def Clear (fs : FileSystem ν β) (p : List ν) : Prop := ∀ q, q <+: p → fs.isRegularFile q = false

/-- What stands at a path can take the place of what stands at another: a file that of a file, a
directory that of an empty directory. -/
def Movable (fs : FileSystem ν β) (src dst : List ν) : Prop :=
  match fs.entry src, fs.entry dst with
  | some _, none => fs.isDirectory dst.dropLast = true
  | some (.file _), some (.file _) => True
  | some .directory, some .directory => fs.emptyAt dst = true
  | _, _ => False

/-! ## Calls -/

/-- `create_directories`, which may fail after some levels. -/
def createDirectories (failure : Option (ℕ × ByteString)) (p : List ν) :
    EStateM ByteString (FileSystem ν β) Unit := fun fs =>
  match failure with
  | some (levels, message) => .error message (fs.addDirectories (p.take levels))
  | none =>
    if p.inits.any fs.isRegularFile then .error (ofString "Not a directory") fs
    else .ok () (fs.addDirectories p)

/-- `create_directory`, which succeeds where there is a directory already. -/
def createDirectory (failure : Option ByteString) (p : List ν) :
    EStateM ByteString (FileSystem ν β) Unit := fun fs =>
  match failure, fs.entry p with
  | some message, _ => .error message fs
  | none, some .directory => .ok () fs
  | none, some (.file _) => .error (ofString "File exists") fs
  | none, none =>
    if fs.isDirectory p.dropLast then .ok () (fs.put p .directory)
    else .error (ofString "No such file or directory") fs

/-- A new or overwritten file. Writing may fail before the file is opened, or with some other
content written. -/
def writeFile (failure : Option (Option β × ByteString)) (content : β) (p : List ν) :
    EStateM ByteString (FileSystem ν β) Unit := fun fs =>
  if fs.isDirectory p then .error (ofString "Is a directory") fs
  else if !fs.isDirectory p.dropLast then .error (ofString "No such file or directory") fs
  else
    match failure with
    | some (some written, message) => .error message (fs.put p (.file written))
    | some (none, message) => .error message fs
    | none => .ok () (fs.put p (.file content))

/-- `copy_file` of some content to a place where nothing stands. -/
def copyFile (failure : Option (Option β × ByteString)) (content : β) (p : List ν) :
    EStateM ByteString (FileSystem ν β) Unit := fun fs =>
  if (fs.entry p).isSome then .error (ofString "File exists") fs
  else writeFile failure content p fs

/-- `rename`, which replaces a file by a file and an empty directory by a directory. -/
def rename (failure : Option ByteString) (src dst : List ν) :
    EStateM ByteString (FileSystem ν β) Unit := fun fs =>
  match failure, fs.entry src, fs.entry dst with
  | some message, _, _ => .error message fs
  | none, none, _ => .error (ofString "No such file or directory") fs
  | none, some (.file _), some .directory => .error (ofString "Is a directory") fs
  | none, some .directory, some (.file _) => .error (ofString "Not a directory") fs
  | none, some .directory, some .directory =>
    if fs.emptyAt dst then .ok () (fs.move src dst)
    else .error (ofString "Directory not empty") fs
  | none, some (.file _), some (.file _) => .ok () (fs.move src dst)
  | none, some _, none =>
    if fs.isDirectory dst.dropLast then .ok () (fs.move src dst)
    else .error (ofString "No such file or directory") fs

/-! ## What a change leaves alone -/

variable {fs fs' : FileSystem ν β} {p q src dst : List ν}

theorem sameWithin_put {e : FileEntry β} (h : ¬p <+: q) : SameWithin p fs (fs.put q e) := by
  intro r hr
  have hne : r ≠ q := by
    rintro rfl
    exact h hr
  exact Function.update_of_ne hne _ _

@[simp] theorem entry_put {e : FileEntry β} : (fs.put p e).entry p = some e :=
  Function.update_self (β := fun _ => Option (FileEntry β)) p (some e) fs.entry

theorem sameWithin_addDirectories (h : ¬p <+: q) : SameWithin p fs (fs.addDirectories q) := by
  intro r hr
  exact if_neg fun hadd => h (hr.trans hadd.1)

theorem sameWithin_removeAll {keep : List ν → Bool} (h : Apart p q) :
    SameWithin p fs (fs.removeAll q keep) := by
  intro r hr
  exact if_neg fun hremove => h.not_prefix hr hremove.1

/-- Elsewhere a move changes nothing. -/
theorem entry_move_off (hsrc : ¬src <+: p) (hdst : ¬dst <+: p) :
    (fs.move src dst).entry p = fs.entry p := by
  have hmove : (fs.move src dst).entry p = if dst <+: p then fs.entry (src ++ p.drop dst.length)
      else if src <+: p then none else fs.entry p := rfl
  rw [hmove, if_neg hdst, if_neg hsrc]

theorem sameWithin_move (hsrc : Apart p src) (hdst : Apart p dst) :
    SameWithin p fs (fs.move src dst) := by
  intro r hr
  exact entry_move_off (hsrc.not_prefix hr) (hdst.not_prefix hr)

/-! ## What a call returns -/

theorem entry_addDirectories : (fs.addDirectories p).entry q =
    if q <+: p ∧ fs.entry q = none then some .directory else fs.entry q := rfl

theorem isRegularFile_addDirectories :
    (fs.addDirectories p).isRegularFile q = fs.isRegularFile q := by
  rw [isRegularFile, isRegularFile, entry_addDirectories]
  split_ifs with h
  · rw [h.2]
  · rfl

theorem contentAt_addDirectories : (fs.addDirectories p).contentAt q = fs.contentAt q := by
  rw [contentAt, contentAt, entry_addDirectories]
  split_ifs with h
  · rw [h.2]
  · rfl

theorem clear_addDirectories : (fs.addDirectories p).Clear q ↔ fs.Clear q := by
  simp only [Clear, isRegularFile_addDirectories]

theorem isDirectory_addDirectories (h : fs.Clear p) :
    (fs.addDirectories p).isDirectory q = true ↔ fs.isDirectory q = true ∨ q <+: p := by
  rw [isDirectory_iff, isDirectory_iff, entry_addDirectories]
  constructor
  · intro hentry
    split_ifs at hentry with hq
    · exact .inr hq.1
    · exact .inl hentry
  · intro hq
    split_ifs with hnew
    · rfl
    · refine hq.elim id fun hleads => ?_
      have hfile := h q hleads
      cases hentry : fs.entry q with
      | none => exact absurd ⟨hleads, hentry⟩ hnew
      | some e =>
        cases e with
        | directory => rfl
        | file content =>
          rw [isRegularFile, hentry] at hfile
          cases hfile

theorem isRegularFile_put_file {content : β} :
    (fs.put p (.file content)).isRegularFile q = true ↔ q = p ∨ fs.isRegularFile q = true := by
  by_cases hq : q = p
  · rw [hq, isRegularFile, entry_put]
    exact ⟨fun _ => .inl rfl, fun _ => rfl⟩
  · have hentry : (fs.put p (.file content)).entry q = fs.entry q := Function.update_of_ne hq _ _
    rw [isRegularFile, hentry, ← isRegularFile]
    exact ⟨.inr, fun h => h.resolve_left hq⟩

theorem isDirectory_put_file {content : β} (h : fs.isDirectory p = false) :
    (fs.put p (.file content)).isDirectory q = fs.isDirectory q := by
  by_cases hq : q = p
  · rw [hq, h, isDirectory, entry_put]
  · have hentry : (fs.put p (.file content)).entry q = fs.entry q := Function.update_of_ne hq _ _
    rw [isDirectory, hentry, ← isDirectory]

theorem createDirectories_eq_ok {failure : Option (ℕ × ByteString)} :
    createDirectories failure p fs = .ok () fs' ↔
      failure = none ∧ fs.Clear p ∧ fs' = fs.addDirectories p := by
  cases failure with
  | some f => exact ⟨nofun, fun h => nomatch h.1⟩
  | none =>
    have hclear : ¬p.inits.any fs.isRegularFile = true ↔ fs.Clear p := by
      simp only [List.any_eq_true, List.mem_inits, not_exists, not_and, Bool.not_eq_true, Clear]
    have happly : (createDirectories none p : EStateM ByteString (FileSystem ν β) Unit) fs =
        if p.inits.any fs.isRegularFile then .error (ofString "Not a directory") fs
        else .ok () (fs.addDirectories p) := rfl
    rw [happly, ← hclear]
    split
    · rename_i hany
      exact ⟨nofun, fun h => absurd hany h.2.1⟩
    · rename_i hany
      exact ⟨fun h => by cases h; exact ⟨rfl, hany, rfl⟩, fun h => by rw [h.2.2]⟩

theorem succeeds_createDirectories {failure : Option (ℕ × ByteString)} :
    EStateM.Succeeds (createDirectories failure p) fs ↔ failure = none ∧ fs.Clear p := by
  simp only [EStateM.succeeds_unit, createDirectories_eq_ok, exists_and_left, exists_eq, and_true]

theorem createDirectory_eq_ok {failure : Option ByteString} :
    createDirectory failure p fs = .ok () fs' ↔ failure = none ∧
      (fs.entry p = some .directory ∧ fs' = fs ∨
        fs.entry p = none ∧ fs.isDirectory p.dropLast = true ∧ fs' = fs.put p .directory) := by
  unfold createDirectory
  split
  · exact ⟨nofun, fun h => nomatch h.1⟩
  · rename_i hentry
    rw [EStateM.ok_eq_ok]
    simp [hentry]
  · rename_i hentry
    simp [hentry]
  · rename_i hentry
    simp [EStateM.ite_eq_ok, hentry]

theorem succeeds_createDirectory (failure : Option ByteString)
    (hparent : fs.isDirectory p.dropLast = true) :
    EStateM.Succeeds (createDirectory failure p) fs ↔
      failure = none ∧ fs.isRegularFile p = false := by
  have hentry : fs.isRegularFile p = false ↔
      fs.entry p = some .directory ∨ fs.entry p = none := by
    rw [isRegularFile]
    rcases fs.entry p with _ | _ | _ <;> simp
  rw [EStateM.succeeds_unit, hentry]
  constructor
  · rintro ⟨fs', h⟩
    obtain ⟨hfailure, ⟨hentry, -⟩ | ⟨hentry, -⟩⟩ := createDirectory_eq_ok.mp h
    · exact ⟨hfailure, .inl hentry⟩
    · exact ⟨hfailure, .inr hentry⟩
  · rintro ⟨hfailure, hentry | hentry⟩
    · exact ⟨fs, createDirectory_eq_ok.mpr ⟨hfailure, .inl ⟨hentry, rfl⟩⟩⟩
    · exact ⟨_, createDirectory_eq_ok.mpr ⟨hfailure, .inr ⟨hentry, hparent, rfl⟩⟩⟩

/-- A directory was there, or is all that is new. -/
theorem entry_createDirectory {failure : Option ByteString}
    (h : createDirectory failure p fs = .ok () fs') :
    fs'.isDirectory p = true ∧ (∀ q ≠ p, fs'.entry q = fs.entry q) ∧
      ∀ q, fs'.contentAt q = fs.contentAt q := by
  obtain ⟨-, ⟨hentry, rfl⟩ | ⟨hentry, -, rfl⟩⟩ := createDirectory_eq_ok.mp h
  · exact ⟨isDirectory_iff.mpr hentry, fun _ _ => rfl, fun _ => rfl⟩
  · have hother (q : List ν) (hq : q ≠ p) : (fs.put p .directory).entry q = fs.entry q :=
      Function.update_of_ne hq _ _
    refine ⟨isDirectory_iff.mpr entry_put, hother, fun q => ?_⟩
    by_cases hq : q = p
    · rw [hq, contentAt, contentAt, entry_put, hentry]
    · rw [contentAt, contentAt, hother q hq]

theorem writeFile_eq_ok {failure : Option (Option β × ByteString)} {content : β} :
    writeFile failure content p fs = .ok () fs' ↔ failure = none ∧ fs.isDirectory p = false ∧
      fs.isDirectory p.dropLast = true ∧ fs' = fs.put p (.file content) := by
  unfold writeFile
  split
  · rename_i hdirectory
    exact ⟨nofun, fun h => absurd hdirectory (by rw [h.2.1]; exact Bool.false_ne_true)⟩
  rename_i hdirectory
  split
  · rename_i hparent
    exact ⟨nofun, fun h => absurd hparent (by rw [h.2.2.1]; exact Bool.false_ne_true)⟩
  rename_i hparent
  split
  · exact ⟨nofun, fun h => nomatch h.1⟩
  · exact ⟨nofun, fun h => nomatch h.1⟩
  · constructor
    · intro h
      cases h
      exact ⟨rfl, Bool.eq_false_iff.mpr hdirectory, by simpa using hparent, rfl⟩
    · rintro ⟨-, -, -, rfl⟩
      rfl

theorem succeeds_writeFile {failure : Option (Option β × ByteString)} {content : β} :
    EStateM.Succeeds (writeFile failure content p) fs ↔
      failure = none ∧ fs.isDirectory p = false ∧ fs.isDirectory p.dropLast = true := by
  simp only [EStateM.succeeds_unit, writeFile_eq_ok, exists_and_left, exists_eq, and_true]

theorem copyFile_eq_ok {failure : Option (Option β × ByteString)} {content : β} :
    copyFile failure content p fs = .ok () fs' ↔ failure = none ∧ fs.entry p = none ∧
      fs.isDirectory p.dropLast = true ∧ fs' = fs.put p (.file content) := by
  unfold copyFile
  split
  · rename_i hsome
    exact ⟨nofun, fun h => absurd hsome (by rw [h.2.1]; exact Bool.false_ne_true)⟩
  · rename_i hnone
    have hentry : fs.entry p = none := Option.not_isSome_iff_eq_none.mp hnone
    have hdirectory : fs.isDirectory p = false := by rw [isDirectory, hentry]
    rw [writeFile_eq_ok]
    exact ⟨fun h => ⟨h.1, hentry, h.2.2⟩, fun h => ⟨h.1, hdirectory, h.2.2⟩⟩

/-- A directory that is replaced is empty. -/
theorem Movable.emptyAt (h : fs.Movable src dst) (hdst : fs.entry dst = some .directory) :
    fs.emptyAt dst = true := by
  rw [Movable, hdst] at h
  split at h
  · rename_i hnone
    cases hnone
  · rename_i hfile
    cases hfile
  · exact h
  · exact h.elim

theorem succeeds_copyFile {failure : Option (Option β × ByteString)} {content : β} :
    EStateM.Succeeds (copyFile failure content p) fs ↔
      failure = none ∧ fs.entry p = none ∧ fs.isDirectory p.dropLast = true := by
  simp only [EStateM.succeeds_unit, copyFile_eq_ok, exists_and_left, exists_eq, and_true]

/-- A file can be moved to where no directory stands. -/
theorem movable_file_iff {content : β} (hsrc : fs.entry src = some (.file content))
    (hparent : fs.isDirectory dst.dropLast = true) :
    fs.Movable src dst ↔ fs.isDirectory dst = false := by
  rw [Movable, hsrc]
  cases hdst : fs.entry dst with
  | none => exact iff_of_true hparent (by rw [isDirectory, hdst])
  | some e =>
    cases e with
    | file content' => exact iff_of_true trivial (by rw [isDirectory, hdst])
    | directory => exact iff_of_false id (by rw [isDirectory, hdst]; exact Bool.true_eq_false.mp)

/-- A directory can be moved to where nothing stands, or an empty directory. -/
theorem movable_directory_iff (hsrc : fs.isDirectory src = true)
    (hparent : fs.isDirectory dst.dropLast = true) :
    fs.Movable src dst ↔
      fs.entry dst = none ∨ fs.isDirectory dst = true ∧ fs.emptyAt dst = true := by
  rw [Movable, isDirectory_iff.mp hsrc]
  cases hdst : fs.entry dst with
  | none => exact iff_of_true hparent (.inl rfl)
  | some e =>
    cases e with
    | file content => simp [isDirectory, hdst]
    | directory => simp [isDirectory, hdst]

/-- A rename moves a subtree to where it can stand. -/
theorem rename_eq_ok {failure : Option ByteString} : rename failure src dst fs = .ok () fs' ↔
    failure = none ∧ fs.Movable src dst ∧ fs' = fs.move src dst := by
  unfold rename
  split
  · exact ⟨nofun, fun h => nomatch h.1⟩
  · rename_i hsrc
    simp [Movable, hsrc]
  · rename_i hsrc hdst
    simp [Movable, hsrc, hdst]
  · rename_i hsrc hdst
    simp [Movable, hsrc, hdst]
  · rename_i hsrc hdst
    simp [EStateM.ite_eq_ok, Movable, hsrc, hdst]
  · rename_i hsrc hdst
    rw [EStateM.ok_eq_ok]
    simp [Movable, hsrc, hdst]
  · rename_i hsrc hdst
    simp [EStateM.ite_eq_ok, Movable, hsrc, hdst]

/-! ## What a call leaves alone -/

theorem keeps_createDirectories {failure : Option (ℕ × ByteString)} (h : ¬p <+: q) :
    EStateM.Keeps (SameWithin p)
      (createDirectories failure q : EStateM ByteString (FileSystem ν β) Unit) := by
  intro fs
  unfold createDirectories
  split
  · exact sameWithin_addDirectories fun hp => h (hp.trans (List.take_prefix _ _))
  split
  · exact Std.Refl.refl fs
  · exact sameWithin_addDirectories h

theorem keeps_createDirectory {failure : Option ByteString} (h : ¬p <+: q) :
    EStateM.Keeps (SameWithin p)
      (createDirectory failure q : EStateM ByteString (FileSystem ν β) Unit) := by
  intro fs
  unfold createDirectory
  split
  · exact Std.Refl.refl fs
  · exact Std.Refl.refl fs
  · exact Std.Refl.refl fs
  split
  · exact sameWithin_put h
  · exact Std.Refl.refl fs

theorem keeps_writeFile {failure : Option (Option β × ByteString)} {content : β}
    (h : ¬p <+: q) : EStateM.Keeps (SameWithin p) (writeFile failure content q) := by
  intro fs
  unfold writeFile
  split
  · exact Std.Refl.refl fs
  split
  · exact Std.Refl.refl fs
  split
  · exact sameWithin_put h
  · exact Std.Refl.refl fs
  · exact sameWithin_put h

theorem keeps_copyFile {failure : Option (Option β × ByteString)} {content : β}
    (h : ¬p <+: q) : EStateM.Keeps (SameWithin p) (copyFile failure content q) := by
  intro fs
  unfold copyFile
  split
  · exact Std.Refl.refl fs
  · exact keeps_writeFile h fs

theorem succeeds_rename {failure : Option ByteString} :
    EStateM.Succeeds (rename failure src dst) fs ↔ failure = none ∧ fs.Movable src dst := by
  simp only [EStateM.succeeds_unit, rename_eq_ok, exists_and_left, exists_eq, and_true]

/-- A rename that fails leaves the file system as it was. -/
theorem rename_eq_error {failure : Option ByteString} {message : ByteString}
    (h : rename failure src dst fs = .error message fs') : fs' = fs := by
  unfold rename at h
  split at h
  · cases h
    rfl
  · cases h
    rfl
  · cases h
    rfl
  · cases h
    rfl
  · split at h
    · cases h
    · cases h
      rfl
  · cases h
  · split at h
    · cases h
    · cases h
      rfl

theorem keeps_rename {failure : Option ByteString} (hsrc : Apart p src) (hdst : Apart p dst) :
    EStateM.Keeps (SameWithin p)
      (rename failure src dst : EStateM ByteString (FileSystem ν β) Unit) := by
  intro fs
  cases h : rename failure src dst fs with
  | ok _ fs' =>
    rw [(rename_eq_ok.mp h).2.2]
    exact sameWithin_move hsrc hdst
  | error message fs' =>
    rw [rename_eq_error h]
    exact Std.Refl.refl fs

/-- What was at the old path of a subtree is at its new path. -/
theorem entry_move : (fs.move src dst).entry dst = fs.entry src := by
  have hmove : (fs.move src dst).entry dst = if dst <+: dst then
      fs.entry (src ++ dst.drop dst.length)
      else if src <+: dst then none else fs.entry dst := rfl
  rw [hmove, if_pos (List.prefix_refl dst), List.drop_length, List.append_nil]

theorem entry_move_append (tail : List ν) :
    (fs.move src dst).entry (dst ++ tail) = fs.entry (src ++ tail) := by
  have hmove : (fs.move src dst).entry (dst ++ tail) = if dst <+: dst ++ tail then
      fs.entry (src ++ (dst ++ tail).drop dst.length)
      else if src <+: dst ++ tail then none else fs.entry (dst ++ tail) := rfl
  rw [hmove, if_pos (List.prefix_append dst tail), List.drop_left]

theorem emptyAt_iff : fs.emptyAt p = true ↔ ∀ q, p <+: q → q ≠ p → fs.entry q = none := by
  simp only [emptyAt, List.all_eq_true, Bool.or_eq_true, Bool.not_eq_true', decide_eq_true_eq,
    Option.isNone_iff_eq_none]
  constructor
  · intro h q hleads hne
    by_contra hentry
    rcases h q (fs.mem_paths q hentry) with (hp | hp) | hp
    · rw [← Bool.not_eq_true, List.isPrefixOf_iff_prefix] at hp
      exact hp hleads
    · exact hne hp
    · exact hentry hp
  · intro h q _
    by_cases hleads : p <+: q
    · by_cases hne : q = p
      · exact .inl (.inr hne)
      · exact .inr (h q hleads hne)
    · refine .inl (.inl ?_)
      rw [← Bool.not_eq_true, List.isPrefixOf_iff_prefix]
      exact hleads

end FileSystem
