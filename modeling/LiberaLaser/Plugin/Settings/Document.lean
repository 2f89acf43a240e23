import LiberaLaser.Foundations.Json
import LiberaLaser.Foundations.Table

/-!
# The settings document

The values of all settings are kept in one JSON document: an object with a schema version and a list
of items, each with the address of a setting and its value. `readDocument` is the reading of a
document by the store, which accepts any order and any other fields; `document` is the document that
the store writes. Reading back what was written gives the same values (`readDocument_document`).
-/

namespace LiberaLaser.Plugin

open ByteString

structure SettingAddress where
  pluginId : ByteString
  controllerId : ByteString
  key : ByteString
  deriving DecidableEq

namespace SettingAddress

variable {a : SettingAddress} {value : ByteString}

/-- The store loads no entry without a plugin or without a key. -/
def Named (a : SettingAddress) : Prop := a.pluginId ≠ [] ∧ a.key ≠ []

/-- The entry can be serialised. -/
def Encoded (a : SettingAddress) (value : ByteString) : Prop :=
  a.pluginId.Utf8 ∧ a.controllerId.Utf8 ∧ a.key.Utf8 ∧ value.Utf8

instance : Decidable a.Named := inferInstanceAs (Decidable (_ ∧ _))

instance : Decidable (a.Encoded value) := inferInstanceAs (Decidable (_ ∧ _))

/-- The order of the entries in the document. -/
def before (a b : SettingAddress) : Bool :=
  a.pluginId < b.pluginId ||
    (a.pluginId = b.pluginId && (a.controllerId < b.controllerId ||
      (a.controllerId = b.controllerId && a.key < b.key)))

end SettingAddress

/-- The values of the settings, in memory. -/
abbrev SettingValues := Table SettingAddress ByteString

/-- One entry of a map, as a pair. -/
abbrev SettingEntry := Sigma fun _ : SettingAddress => ByteString

/-! ## Reading -/

/-- The entry that an item of the document gives. -/
def readItem (item : Json) : Option SettingEntry := do
  let pluginId ← (← item.field "pluginId").asString
  let controllerId ← (← item.field "controllerId").asString
  let key ← (← item.field "key").asString
  let value ← (← item.field "value").asString
  if pluginId = [] ∨ key = [] then none else some ⟨⟨pluginId, controllerId, key⟩, value⟩

/-- The values of the items, the last one for each address. -/
def readItems : List Json → SettingValues → Option SettingValues
  | [], values => some values
  | item :: items, values => do
    let entry ← readItem item
    readItems items (values.insert entry.1 entry.2)

def readDocument (document : Json) : Option SettingValues := do
  if ((document.field "schemaVersion").bind Json.asInt) = some 1 then
    readItems (← (← document.field "values").asArray) ∅
  else none

/-! ## Writing -/

def writeItem (entry : SettingEntry) : Json :=
  .object [(ofString "controllerId", .string entry.1.controllerId),
    (ofString "key", .string entry.1.key), (ofString "pluginId", .string entry.1.pluginId),
    (ofString "value", .string entry.2)]

def document (entries : List SettingEntry) : Json :=
  .object [(ofString "schemaVersion", .unsigned 1),
    (ofString "values", .array (entries.map writeItem))]

theorem normal_document (entries : List SettingEntry) : (document entries).Normal := by
  have hitem (e : SettingEntry) : (writeItem e).Normal := by
    refine .object (by simp only [List.map_cons, List.map_nil]; decide +kernel) fun f hf => ?_
    simp only [List.mem_cons, List.not_mem_nil, or_false] at hf
    rcases hf with rfl | rfl | rfl | rfl
    · exact .string _
    · exact .string _
    · exact .string _
    · exact .string _
  refine .object (by simp only [List.map_cons, List.map_nil]; decide +kernel) fun f hf => ?_
  simp only [List.mem_cons, List.not_mem_nil, or_false] at hf
  rcases hf with rfl | rfl
  · exact .unsigned 1 (by decide)
  · refine .array fun item hmem => ?_
    obtain ⟨e, -, rfl⟩ := List.mem_map.mp hmem
    exact hitem e

theorem encoded_document {entries : List SettingEntry} :
    (document entries).Encoded ↔ ∀ e ∈ entries, e.1.Encoded e.2 := by
  have hitem (e : SettingEntry) : (writeItem e).Encoded ↔ e.1.Encoded e.2 := by
    have hnames : (ofString "controllerId").Utf8 ∧ (ofString "key").Utf8 ∧
        (ofString "pluginId").Utf8 ∧ (ofString "value").Utf8 := by decide +kernel
    simp only [writeItem, Json.encoded_object, Json.encoded_string, List.forall_mem_cons,
      List.not_mem_nil, false_implies, implies_true, hnames, true_and, and_true,
      SettingAddress.Encoded]
    tauto
  have hnames : (ofString "schemaVersion").Utf8 ∧ (ofString "values").Utf8 := by decide +kernel
  have hversion : (Json.unsigned 1).Encoded := nofun
  simp only [document, Json.encoded_object, Json.encoded_array, List.forall_mem_cons,
    List.not_mem_nil, false_implies, implies_true, hnames, hversion, true_and, and_true,
    List.forall_mem_map, hitem]

/-- The entries in the order of the document. -/
def sortedValues (values : SettingValues) : List SettingEntry :=
  values.entries.mergeSort fun e e' => !e'.1.before e.1

/-! ## Reading back what was written -/

theorem readItem_writeItem {entry : SettingEntry} (h : entry.1.Named) :
    readItem (writeItem entry) = some entry := by
  have hread : readItem (writeItem entry) =
      if entry.1.pluginId = [] ∨ entry.1.key = [] then none else some entry := rfl
  rw [hread, if_neg (not_or.mpr h)]

theorem readItems_writeItem {entries : List SettingEntry} (values : SettingValues)
    (h : ∀ e ∈ entries, e.1.Named) :
    readItems (entries.map writeItem) values =
      some (entries.foldl (fun values e => values.insert e.1 e.2) values) := by
  induction entries generalizing values with
  | nil => rfl
  | cons entry entries ih =>
    rw [List.map_cons, readItems, readItem_writeItem (h entry List.mem_cons_self)]
    exact ih _ fun e he => h e (List.mem_cons_of_mem _ he)

theorem mem_sortedValues {values : SettingValues} {e : SettingEntry} :
    e ∈ sortedValues values ↔ values.lookup e.1 = some e.2 := by
  rw [sortedValues, List.mem_mergeSort]
  exact AList.mem_lookup_iff.symm

/-- **The document keeps the values**: reading the document of some values gives these values. -/
theorem readDocument_document {values : SettingValues}
    (h : values.Forall fun a _ => a.Named) :
    ∃ values', readDocument (document (sortedValues values)) = some values' ∧
      ∀ a, values'.lookup a = values.lookup a := by
  refine ⟨(sortedValues values).foldl (fun values e => values.insert e.1 e.2) ∅, ?_, fun a => ?_⟩
  · exact readItems_writeItem ∅ fun e he => h _ _ (mem_sortedValues.mp he)
  · exact Table.lookup_foldl_perm (List.mergeSort_perm _ _) a

/-! ## What the values of a document satisfy -/

theorem readItem_some {item : Json} {entry : SettingEntry} (h : readItem item = some entry) :
    entry.1.Named ∧ (item.Encoded → entry.1.Encoded entry.2) := by
  unfold readItem at h
  simp only [Option.bind_eq_bind, Option.bind_eq_some_iff] at h
  obtain ⟨_, hfield, pluginId, hpluginId, _, hfield', controllerId, hcontrollerId, _, hfield'', key,
    hkey, _, hfield''', value, hvalue, h⟩ := h
  split at h
  · cases h
  · rename_i hnamed
    cases h
    exact ⟨not_or.mp hnamed, fun hitem => ⟨(hitem.field hfield).asString hpluginId,
      (hitem.field hfield').asString hcontrollerId, (hitem.field hfield'').asString hkey,
      (hitem.field hfield''').asString hvalue⟩⟩

theorem forall_readItems {P : SettingAddress → ByteString → Prop} {items : List Json}
    {values values' : SettingValues}
    (hitems : ∀ item ∈ items, ∀ entry, readItem item = some entry → P entry.1 entry.2)
    (hvalues : values.Forall P) (h : readItems items values = some values') :
    values'.Forall P := by
  induction items generalizing values with
  | nil =>
    cases h
    exact hvalues
  | cons item items ih =>
    obtain ⟨entry, hentry, h⟩ := Option.bind_eq_some_iff.mp h
    refine ih (fun i hi => hitems i (List.mem_cons_of_mem _ hi)) ?_ h
    exact hvalues.insert (hitems item List.mem_cons_self entry hentry)

theorem readDocument_some {json : Json} {values : SettingValues}
    (h : readDocument json = some values) :
    ∃ list items, json.field "values" = some list ∧ list.asArray = some items ∧
      readItems items ∅ = some values := by
  unfold readDocument at h
  split at h
  · obtain ⟨list, hlist, h⟩ := Option.bind_eq_some_iff.mp h
    obtain ⟨items, hitems, h⟩ := Option.bind_eq_some_iff.mp h
    exact ⟨list, items, hlist, hitems, h⟩
  · cases h

theorem forall_named_readDocument {json : Json} {values : SettingValues}
    (h : readDocument json = some values) : values.Forall fun a _ => a.Named := by
  obtain ⟨list, items, -, -, hread⟩ := readDocument_some h
  exact forall_readItems (fun _ _ _ hentry => (readItem_some hentry).1) Table.forall_empty hread

theorem forall_encoded_readDocument {json : Json} {values : SettingValues} (hjson : json.Encoded)
    (h : readDocument json = some values) : values.Forall SettingAddress.Encoded := by
  obtain ⟨list, items, hlist, hitems, hread⟩ := readDocument_some h
  have hencoded := (hjson.field hlist).asArray hitems
  exact forall_readItems (fun item hitem _ hentry => (readItem_some hentry).2 (hencoded item hitem))
    Table.forall_empty hread

end LiberaLaser.Plugin
