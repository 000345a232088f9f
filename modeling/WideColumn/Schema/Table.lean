/-
  WideColumn.Schema.Table — a table: its name and its columns.

  Partition key, clustering and regular columns stand in three lists. Each keeps the order
  in which columns were added, which for the first two is the order of the primary key.
-/

import WideColumn.Schema.Column

namespace WideColumn.Schema

structure Table where
  name : Identifier
  partitionKey : List Column
  clustering : List Column
  regular : List Column
  deriving DecidableEq

namespace Table

def empty (name : Identifier) : Table := ⟨name, [], [], []⟩

/-- Add a column at the end of the list that its kind names. -/
def push (t : Table) (c : Column) : Table :=
  match c.kind with
  | .partitionKey => { t with partitionKey := t.partitionKey ++ [c] }
  | .clustering _ => { t with clustering := t.clustering ++ [c] }
  | .regular => { t with regular := t.regular ++ [c] }

def primaryKey (t : Table) : List Column := t.partitionKey ++ t.clustering

/-- Every column: partition key, clustering, regular. -/
def columns (t : Table) : List Column := t.partitionKey ++ t.clustering ++ t.regular

def column? (t : Table) (name : Identifier) : Option Column := t.columns.find? fun c => c.name = name

theorem name_push (t : Table) (c : Column) : (t.push c).name = t.name := by
  unfold push
  split <;> rfl

theorem partitionKey_push (t : Table) (c : Column) :
    (t.push c).partitionKey = t.partitionKey ++ [c].filter fun c => c.kind = .partitionKey := by
  unfold push
  split <;> simp [*]

theorem clustering_push (t : Table) (c : Column) :
    (t.push c).clustering = t.clustering ++ [c].filter fun c => c.order?.isSome := by
  unfold push Column.order?
  split <;> simp [*]

theorem regular_push (t : Table) (c : Column) :
    (t.push c).regular = t.regular ++ [c].filter fun c => c.kind = .regular := by
  unfold push
  split <;> simp [*]

theorem columns_push_perm (t : Table) (c : Column) : (t.push c).columns.Perm (t.columns ++ [c]) := by
  unfold push columns
  split
  · rw [List.append_assoc, List.append_assoc, List.append_assoc t.partitionKey, List.append_assoc t.partitionKey]
    exact List.Perm.append_left _ (@List.perm_append_comm _ [c] (t.clustering ++ t.regular))
  · simp only [List.append_assoc]
    exact List.Perm.append_left _ (List.Perm.append_left _ (@List.perm_append_comm _ [c] _))
  · simp [List.append_assoc]

end Table

end WideColumn.Schema
