import Relational.Proofs.Table.WellTyped
import Relational.Snapshot.Document

/-!
# Tables read from snapshots

A document of a snapshot may say anything.  As far as it is accepted, the tables
built from it are well typed and filed under the names of their schemas: every
row passes through the same insertion as the rows of statements, and every
index through the same declaration.
-/

namespace Relational

namespace StoredTable

variable {table built : Table}

/-- Inserting kept rows keeps a table well typed, and its schema. -/
theorem insertRows_wellTyped {rows : List (NameMap Value)} (wellTyped : table.WellTyped)
    (inserts : insertRows table rows = .ok built) :
    built.WellTyped ∧ built.schema = table.schema := by
  induction rows generalizing table with
  | nil =>
      cases inserts
      exact ⟨wellTyped, rfl⟩
  | cons stored rest ih =>
      obtain ⟨row, read, inserts⟩ := bind_eq_ok.mp inserts
      obtain ⟨⟨extended, id⟩, inserted, inserts⟩ := bind_eq_ok.mp inserts
      obtain ⟨wellTyped', schema⟩ := ih (wellTyped.insert (row_typed read) inserted) inserts
      refine ⟨wellTyped', schema.trans ?_⟩
      obtain ⟨-, -, -, rfl⟩ := Table.insert_eq_ok inserted
      rfl

/-- Declaring kept indexes keeps a table well typed, and its columns. -/
theorem declareIndexes_wellTyped {declarations : List IndexDeclaration}
    (wellTyped : table.WellTyped) (declares : declareIndexes table declarations = .ok built) :
    built.WellTyped ∧ table.schema.SameColumns built.schema := by
  induction declarations generalizing table with
  | nil =>
      cases declares
      exact ⟨wellTyped, rfl, rfl⟩
  | cons declared rest ih =>
      obtain ⟨extended, creates, declares⟩ := bind_eq_ok.mp declares
      obtain ⟨wellTyped', same⟩ := ih (wellTyped.createIndex creates) declares
      obtain ⟨-, -, schema, -, -⟩ := Table.createIndex_eq_ok creates
      rw [schema] at same
      exact ⟨wellTyped', same.name, same.columns⟩

/-- A table that can be built again is well typed and has its name. -/
theorem toTable_wellTyped {name : String} {stored : StoredTable}
    (builds : stored.toTable name = .ok built) : built.WellTyped ∧ built.schema.name = name := by
  obtain ⟨schema, created, builds⟩ := bind_eq_ok.mp builds
  obtain ⟨filled, inserts, declares⟩ := bind_eq_ok.mp builds
  obtain ⟨rfl, valid⟩ := Schema.create_eq_ok_iff.mp created
  obtain ⟨wellTyped, schema⟩ := insertRows_wellTyped (Table.create_wellTyped valid) inserts
  obtain ⟨wellTyped', same⟩ := declareIndexes_wellTyped wellTyped declares
  refine ⟨wellTyped', ?_⟩
  rw [same.name, schema, (Table.create_sound valid).2.name]

end StoredTable

namespace Snapshot

/-- The tables built from kept ones have their names, in the same order. -/
theorem restoreEntries_eq_ok {path : String} {entries : List (String × StoredTable)}
    {tables : List (String × Table)} (builds : restoreEntries path entries = .ok tables) :
    tables.map Prod.fst = entries.map Prod.fst ∧
      ∀ entry ∈ tables, entry.2.WellTyped ∧ entry.2.schema.name = entry.1 := by
  induction entries generalizing tables with
  | nil =>
      cases builds
      exact ⟨rfl, by simp⟩
  | cons entry rest ih =>
      obtain ⟨name, stored⟩ := entry
      rw [restoreEntries] at builds
      split at builds
      · cases builds
      · rename_i table built
        obtain ⟨others, builds', result⟩ := bind_eq_ok.mp builds
        obtain ⟨names, each⟩ := ih builds'
        cases result
        refine ⟨congrArg (name :: ·) names, ?_⟩
        rw [List.forall_mem_cons]
        exact ⟨StoredTable.toTable_wellTyped built, each⟩

/-- What a document describes is in order, whatever the order of its members. -/
theorem ofJson?_ordered {json : Json} {snapshot : Snapshot}
    (described : ofJson? json = some snapshot) : snapshot.tables.Ordered := by
  obtain ⟨fields, -, described⟩ := Option.bind_eq_some_iff.mp described
  split at described
  · rename_i tables
    obtain ⟨kept, decoded, result⟩ := Option.bind_eq_some_iff.mp described
    cases result
    cases tables with
    | none =>
        cases decoded
        exact NameMap.Ordered.empty
    | some member =>
        obtain ⟨items, -, decoded⟩ := Option.bind_eq_some_iff.mp decoded
        obtain ⟨entries, -, result⟩ := Option.bind_eq_some_iff.mp decoded
        cases result
        exact NameMap.ofList_ordered entries
  · cases described

/-- The tables of an accepted document are well typed and filed under the names
of their schemas. -/
theorem read_wellTyped {path text : String} {tables : NameMap Table}
    (accepted : read path text = .ok tables) : tables.Ordered ∧
      ∀ entry ∈ tables.entries, entry.2.WellTyped ∧ entry.2.schema.name = entry.1 := by
  unfold read at accepted
  split at accepted
  · rename_i snapshot described
    obtain ⟨json, -, described⟩ := Option.bind_eq_some_iff.mp described
    obtain ⟨entries, builds, result⟩ := bind_eq_ok.mp accepted
    cases result
    obtain ⟨names, each⟩ := restoreEntries_eq_ok builds
    refine ⟨?_, each⟩
    have ordered := List.pairwise_map.mpr (ofJson?_ordered described)
    rw [← names] at ordered
    exact List.pairwise_map.mp ordered
  · cases accepted

end Snapshot

end Relational
