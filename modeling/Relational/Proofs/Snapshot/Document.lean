import Relational.Proofs.Ascending
import Relational.Proofs.Json.Reading
import Relational.Snapshot.Document

/-!
# Documents of snapshots are read back

A snapshot is read back from its document as it was kept, except for floats that
are not finite, which come back as nulls.  The names of a row's cells and of the
tables are in order, so that building the maps again changes nothing.

That a finite float is read back from its numeral is not so for every float; it
is asked of the floats that are kept.
-/

namespace Relational

/-! ### Entries with different names -/

/-- Under different keys every entry is found. -/
theorem lookup_eq_some_of_mem {κ α : Type} [DecidableEq κ] {entries : List (κ × α)}
    (differ : (entries.map Prod.fst).Nodup) {key : κ} {value : α}
    (member : (key, value) ∈ entries) : entries.lookup key = some value := by
  induction entries with
  | nil => cases member
  | cons entry rest ih =>
      obtain ⟨other, kept⟩ := entry
      obtain ⟨absent, following⟩ := List.nodup_cons.mp differ
      rw [lookup_cons_eq_ite]
      rcases List.mem_cons.mp member with same | later
      · cases same
        rw [if_pos rfl]
      · rw [if_neg, ih following later]
        rintro rfl
        exact absent (List.mem_map.mpr ⟨_, later, rfl⟩)

namespace NameMap

variable {α β : Type}

/-- Under different names the order of insertion does not matter. -/
theorem get?_ofList {entries : List (String × α)} (differ : (entries.map Prod.fst).Nodup)
    (name : String) : (ofList entries).get? name = entries.lookup name := by
  have inserted : ∀ map : NameMap α,
      (entries.foldl (fun built entry => built.insert entry.1 entry.2) map).get? name =
        (entries.lookup name).or (map.get? name) := by
    induction entries with
    | nil => exact fun map => rfl
    | cons entry rest ih =>
        intro map
        obtain ⟨other, kept⟩ := entry
        obtain ⟨absent, following⟩ := List.nodup_cons.mp differ
        rw [List.foldl_cons, ih following, get?_insert, lookup_cons_eq_ite]
        by_cases here : name = other
        · subst here
          have unfound : rest.lookup name = none :=
            List.lookup_eq_none_iff.mpr fun entry member =>
              bne_iff_ne.mpr fun same => absent (List.mem_map.mpr ⟨entry, member, same.symm⟩)
          simp [unfound]
        · simp [here]
  exact (inserted NameMap.empty).trans (Option.or_none)

/-- An ordered map is built again from its entries. -/
theorem ofList_entries {map : NameMap α} (ordered : map.Ordered) : ofList map.entries = map := by
  have same : (ofList map.entries).entries = map.entries := by
    refine Ascending.ext (ofList_ordered map.entries) ordered fun name => ?_
    exact get?_ofList ordered.keys_nodup name
  exact congrArg NameMap.mk same

theorem Ordered.map {map : NameMap α} (ordered : map.Ordered) (change : α → β) :
    (map.map change).Ordered :=
  Ascending.map ordered _ fun _ => rfl

end NameMap

/-! ### Lists and records -/

/-- Items that are each decoded from their code are decoded together. -/
theorem mapM_map_eq_some {α β γ : Type} {encode : α → β} {decode : β → Option γ} {change : α → γ}
    {items : List α} (decodes : ∀ item ∈ items, decode (encode item) = some (change item)) :
    (items.map encode).mapM decode = some (items.map change) := by
  induction items with
  | nil => rfl
  | cons item rest ih =>
      have first := decodes item List.mem_cons_self
      have others := ih fun other member => decodes other (List.mem_cons_of_mem _ member)
      simp only [List.map_cons, List.mapM_cons, first, others, Option.bind_eq_bind,
        Option.bind_some]
      rfl

namespace Json

/-- An object can be read if the values of its members can. -/
theorem ofMembers_legible {members : List (String × Json)}
    (each : ∀ member ∈ members, Legible member.2) : Legible (ofMembers members) := by
  refine .object (fun member among => ?_) (fun member among => ?_)
  · obtain ⟨entry, -, rfl⟩ := List.mem_map.mp among
    rfl
  · obtain ⟨entry, listed, rfl⟩ := List.mem_map.mp among
    exact each entry listed

/-- An array can be read if each of its items can. -/
theorem arrayOf_legible {α : Type} {encode : α → Json} {items : List α}
    (each : ∀ item ∈ items, Legible (encode item)) : Legible (.array (items.map encode)) := by
  refine .array fun json member => ?_
  obtain ⟨item, among, rfl⟩ := List.mem_map.mp member
  exact each item among

/-- The members of an object are those that it was made of. -/
theorem entries?_ofMembers (members : List (String × Json)) :
    (ofMembers members).entries? = some members := by
  have decoded : (members.map fun entry => (some entry.1, entry.2)).mapM
      (fun member => member.1.map fun name => (name, member.2)) = some (members.map id) :=
    mapM_map_eq_some fun _ _ => rfl
  rwa [List.map_id] at decoded

/-- A record is read back from the members that give its fields. -/
theorem fields?_ofMembers {names : List String} {members : List (String × Json)}
    (differ : names.Nodup) (named : members.map Prod.fst = names) :
    fields? names (ofMembers members) = some (members.map fun entry => some entry.2) := by
  subst named
  have single : ∀ name ∈ members.map Prod.fst,
      decide (members.countP (fun entry => entry.1 = name) ≤ 1) = true := by
    intro name _
    have once := List.nodup_iff_count_le_one.mp differ name
    rw [List.count, List.countP_map] at once
    refine decide_eq_true (le_of_eq_of_le (List.countP_congr fun entry _ => ?_) once)
    simp
  change (ofMembers members).entries?.bind (namedFields? (members.map Prod.fst)) = _
  rw [entries?_ofMembers, Option.bind_some, namedFields?, if_pos (List.all_eq_true.mpr single),
    List.map_map]
  exact congrArg some (List.map_congr_left fun entry member => lookup_eq_some_of_mem differ member)

end Json

/-! ### Cells -/

namespace Value

/-- A finite float is read back from its numeral. -/
def Readable : Value → Prop
  | .float x => x.isFinite = true → (Numeral.ofBinary64 x).float? = some x
  | _ => True

instance : DecidablePred Readable := fun value => by
  cases value <;> unfold Readable <;> infer_instance

/-- What comes back of a cell: a float that is not finite is lost. -/
def kept : Value → Value
  | .float x => if x.isFinite then .float x else .null
  | value => value

/-- A cell is written so that it can be read. -/
theorem toJson_legible (value : Value) : value.toJson.Legible := by
  cases value with
  | null => exact .null
  | integer n => exact .number (Numeral.ofInt_proper _)
  | float x =>
      rw [toJson]
      split
      · rename_i finite
        exact .number (Numeral.ofBinary64_proper finite).1
      · exact .null
  | boolean b => exact .boolean b
  | text s => exact .string s

/-- A cell is read back as what is kept of it. -/
theorem ofJson?_toJson {value : Value} (readable : value.Readable) :
    ofJson? value.toJson = some value.kept := by
  cases value with
  | null => rfl
  | integer n => simp only [toJson, ofJson?, ofNumeral?, Numeral.integer?_ofInt, kept]
  | float x =>
      rw [toJson, kept]
      split
      · rename_i finite
        simp only [ofJson?, ofNumeral?, (Numeral.ofBinary64_proper finite).2, readable finite,
          Option.map_some]
      · rfl
  | boolean b => rfl
  | text s => rfl

end Value

/-! ### Columns and index declarations -/

theorem ColumnType.ofJson?_toJson (type : ColumnType) : ofJson? type.toJson = some type := by
  cases type <;> rfl

/-- A reference is decoded from what it is encoded as. -/
theorem Reference.ofJson?_toJson (target : Reference) : ofJson? target.toJson = some target := by
  rw [ofJson?, toJson, Json.fields?_ofMembers]
  · rfl
  · decide
  · rfl

theorem Reference.toJson_legible (target : Reference) : target.toJson.Legible :=
  Json.ofMembers_legible (by simpa using ⟨.string _, .string _⟩)

namespace Column

/-- A column is written so that it can be read. -/
theorem toJson_legible (column : Column) : column.toJson.Legible := by
  refine Json.ofMembers_legible ?_
  simp only [List.forall_mem_cons]
  refine ⟨.string _, .string _, .boolean _, ?_, by simp⟩
  cases column.references with
  | none => exact .null
  | some target => exact target.toJson_legible

/-- A column is decoded from what it is encoded as. -/
theorem ofJson?_toJson (column : Column) : ofJson? column.toJson = some column := by
  obtain ⟨name, type, primaryKey, references⟩ := column
  have target : Json.orNull Reference.ofJson? ((references.map Reference.toJson).getD .null) =
      some references := by
    cases references with
    | none => rfl
    | some target =>
        change (Reference.ofJson? target.toJson).map some = _
        rw [target.ofJson?_toJson]
        rfl
  rw [ofJson?, toJson, Json.fields?_ofMembers]
  · simp [target, type.ofJson?_toJson, Json.text?, Json.ofString, Json.orDefault, Json.boolean?]
  · decide
  · rfl

end Column

namespace IndexDeclaration

theorem toJson_legible (declared : IndexDeclaration) : declared.toJson.Legible :=
  Json.ofMembers_legible (by simpa using ⟨.string _, .string _⟩)

/-- The declaration of an index is decoded from what it is encoded as. -/
theorem ofJson?_toJson (declared : IndexDeclaration) :
    ofJson? declared.toJson = some declared := by
  rw [ofJson?, toJson, Json.fields?_ofMembers]
  · rfl
  · decide
  · rfl

end IndexDeclaration

/-! ### Tables -/

namespace StoredTable

/-- A list is read back from the array of its items. -/
theorem listOfJson?_array {α β : Type} {encode : α → Json} {decode : Json → Option β}
    {change : α → β} {items : List α}
    (decodes : ∀ item ∈ items, decode (encode item) = some (change item)) :
    listOfJson? decode (.array (items.map encode)) = some (items.map change) :=
  mapM_map_eq_some decodes

/-- A map in order is read back from the object of its values. -/
theorem mapOfJson?_ofMembers {α β : Type} {encode : α → Json} {decode : Json → Option β}
    {change : α → β} {map : NameMap α} (ordered : map.Ordered)
    (decodes : ∀ entry ∈ map.entries, decode (encode entry.2) = some (change entry.2)) :
    mapOfJson? decode (Json.ofMembers (map.map encode).entries) = some (map.map change) := by
  have decoded : (map.entries.map fun entry => (entry.1, encode entry.2)).mapM
      (fun entry => (decode entry.2).map fun value => (entry.1, value)) =
        some (map.entries.map fun entry => (entry.1, change entry.2)) :=
    mapM_map_eq_some fun entry member => by rw [decodes entry member, Option.map_some]
  rw [mapOfJson?, Json.entries?_ofMembers, NameMap.map]
  simp only [Option.bind_eq_bind, Option.bind_some, decoded]
  exact congrArg some (NameMap.ofList_entries (ordered.map change))

/-- What is kept of a table can be read back from its document. -/
structure Readable (stored : StoredTable) : Prop where
  ordered : ∀ row ∈ stored.rows, row.Ordered
  cells : ∀ row ∈ stored.rows, ∀ entry ∈ row.entries, entry.2.Readable

/-- What comes back of a table. -/
def kept (stored : StoredTable) : StoredTable :=
  { stored with rows := stored.rows.map fun row => row.map Value.kept }

/-- A row is written so that it can be read. -/
theorem rowToJson_legible (row : NameMap Value) : (rowToJson row).Legible := by
  refine Json.ofMembers_legible fun member among => ?_
  obtain ⟨entry, -, rfl⟩ := List.mem_map.mp among
  exact entry.2.toJson_legible

/-- A table is written so that it can be read. -/
theorem toJson_legible (stored : StoredTable) : stored.toJson.Legible := by
  refine Json.ofMembers_legible ?_
  simp only [List.forall_mem_cons]
  exact ⟨Json.arrayOf_legible fun column _ => column.toJson_legible,
    Json.arrayOf_legible fun declared _ => declared.toJson_legible,
    Json.arrayOf_legible fun row _ => rowToJson_legible row, by simp⟩

/-- What is kept of a table is decoded from what it is encoded as. -/
theorem ofJson?_toJson {stored : StoredTable} (readable : stored.Readable) :
    ofJson? stored.toJson = some stored.kept := by
  have columns : listOfJson? Column.ofJson? (.array (stored.columns.map Column.toJson)) =
      some (stored.columns.map id) :=
    listOfJson?_array fun column _ => column.ofJson?_toJson
  have indexes : listOfJson? IndexDeclaration.ofJson?
      (.array (stored.indexes.map IndexDeclaration.toJson)) = some (stored.indexes.map id) :=
    listOfJson?_array fun declared _ => declared.ofJson?_toJson
  rw [List.map_id] at columns indexes
  have rows : listOfJson? (mapOfJson? Value.ofJson?) (.array (stored.rows.map rowToJson)) =
      some (stored.rows.map fun row => row.map Value.kept) :=
    listOfJson?_array fun row member => mapOfJson?_ofMembers (readable.ordered row member)
      fun entry among => Value.ofJson?_toJson (readable.cells row member entry among)
  rw [ofJson?, toJson, Json.fields?_ofMembers]
  · simp only [List.map_cons, List.map_nil, Json.orDefault, columns, indexes, rows,
      Option.bind_eq_bind, Option.bind_some]
    rfl
  · decide
  · rfl

end StoredTable

/-! ### Databases -/

namespace Snapshot

/-- What is kept of a database can be read back from its document. -/
structure Readable (snapshot : Snapshot) : Prop where
  ordered : snapshot.tables.Ordered
  tables : ∀ entry ∈ snapshot.tables.entries, entry.2.Readable

/-- What comes back of a database. -/
def kept (snapshot : Snapshot) : Snapshot :=
  ⟨snapshot.tables.map StoredTable.kept⟩

/-- A snapshot is written so that it can be read. -/
theorem toJson_legible (snapshot : Snapshot) : snapshot.toJson.Legible := by
  refine Json.ofMembers_legible ?_
  simp only [List.forall_mem_cons]
  refine ⟨Json.ofMembers_legible fun member among => ?_, by simp⟩
  obtain ⟨entry, -, rfl⟩ := List.mem_map.mp among
  exact entry.2.toJson_legible

/-- What is kept of a snapshot is decoded from what it is encoded as. -/
theorem ofJson?_toJson {snapshot : Snapshot} (readable : snapshot.Readable) :
    ofJson? snapshot.toJson = some snapshot.kept := by
  have tables := StoredTable.mapOfJson?_ofMembers readable.ordered fun entry member =>
    StoredTable.ofJson?_toJson (readable.tables entry member)
  rw [ofJson?, toJson, Json.fields?_ofMembers]
  · simp only [List.map_cons, List.map_nil, Json.orDefault, tables, Option.bind_eq_bind,
      Option.bind_some]
    rfl
  · decide
  · rfl

/-- A snapshot is read back from its document. -/
theorem ofText?_text {snapshot : Snapshot} (readable : snapshot.Readable) :
    ofText? snapshot.text = some snapshot.kept := by
  rw [ofText?, text, Json.ofText?_pretty snapshot.toJson_legible, Option.bind_some,
    ofJson?_toJson readable]

end Snapshot

end Relational
