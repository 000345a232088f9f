/-
  WideColumn.Proofs.Layout.Flattening — a table is its entity, flattened.

  An entity is flattened by putting the properties of the entity it names in the place of
  each composite key property, one level deep. A table is laid out from the places that
  this gives, in order and each in one step: a place becomes a column, or is refused.

  Proved:
  - `tableOf_eq`: the table of an entity is laid out from the places of the entity.
  - `Laid.add`, `laid_of_run`: a step adds the column of its place and keeps the names apart,
    and so a run lays out every place.
  - `exists_place_of_column`, `exists_column_of_place`: a column is that of a place, and a place has one.
  - `table_is_flattened`: a table that is built has exactly the columns of the flattened
    entity, in order, and finds each by its name.
-/

import Mathlib.Data.List.Forall2
import WideColumn.Proofs.Layout.Stability

namespace WideColumn

open Attempt
open Layout (Error)

theorem exists_of_mem_right {α β : Type} {related : α → β → Prop} {as : List α} {bs : List β}
    (h : List.Forall₂ related as bs) {b : β} (hb : b ∈ bs) : ∃ a ∈ as, related a b := by
  induction h with
  | nil => cases hb
  | cons first _ ih =>
    rcases List.mem_cons.mp hb with rfl | later
    · exact ⟨_, List.mem_cons_self, first⟩
    · obtain ⟨a, there, both⟩ := ih later
      exact ⟨a, List.mem_cons_of_mem _ there, both⟩

/-- What two related things have in common, related lists have in common. -/
theorem map_eq_of_forall₂ {α β γ : Type} {related : α → β → Prop} {f : α → γ} {g : β → γ} {as : List α} {bs : List β}
    (same : ∀ a b, related a b → g b = f a) (h : List.Forall₂ related as bs) : bs.map g = as.map f := by
  induction h with
  | nil => rfl
  | cons first _ ih => rw [List.map_cons, List.map_cons, same _ _ first, ih]

/-- A search for the key of a member finds a member that has the key. -/
theorem exists_found_of_mem {α κ : Type} [DecidableEq κ] (key : α → κ) {as : List α} {a : α} (ha : a ∈ as) :
    ∃ b ∈ as, key b = key a ∧ as.find? (fun b => key b = key a) = some b := by
  cases found : as.find? fun b => key b = key a with
  | none =>
    have other := List.find?_eq_none.mp found a ha
    simp at other
  | some b =>
    have same := List.find?_some found
    exact ⟨b, List.mem_of_find?_eq_some found, of_decide_eq_true same, rfl⟩

/-! ## Places -/

/-- A property in the place where its column is to stand. -/
structure Place where
  property : Property
  kind : Schema.Column.Kind
  /-- Whether the property is one of a composite key. -/
  embedded : Bool

/-- The column of a place. The type is frozen unless it comes out of a composite key. -/
def Place.column (place : Place) (dataType : DataType) : Schema.Column :=
  ⟨place.property.columnName, if place.embedded then dataType else dataType.freeze, place.kind⟩

/-- The place of a property of a composite key: all of them are part of the primary key. -/
def Property.embeddedPlace (p : Property) : Place :=
  match p.role with
  | .partitionKey => ⟨p, .partitionKey, true⟩
  | .clusterKey order => ⟨p, .clustering order, true⟩
  | .regular | .compositeKey => ⟨p, .clustering .ascending, true⟩

theorem Property.property_embeddedPlace (p : Property) : p.embeddedPlace.property = p := by
  unfold embeddedPlace
  cases p.role <;> rfl

/-- No key column that is a scalar has one that cannot be compared. -/
def Schema.Column.Keyable (column : Schema.Column) : Prop :=
  column.kind.isKey = true → ∀ kind, column.dataType = .scalar kind → kind.isKeyable = true

namespace Context

/-- The places that a composite key stands for. For one that names no registered entity stands
    the reason. -/
def keyPlaces (c : Context) (p : Property) : List (Except Error Place) :=
  match p.declared with
  | .named t =>
    match c.registry.entityFor? t with
    | some key => key.properties.map fun q => .ok q.embeddedPlace
    | none => [.error (.registry (.notRegistered t))]
  | _ => [.error (.invalidCompositeKey p.owner p.name)]

def places (c : Context) (p : Property) : List (Except Error Place) :=
  match p.role with
  | .partitionKey => [.ok ⟨p, .partitionKey, false⟩]
  | .clusterKey order => [.ok ⟨p, .clustering order, false⟩]
  | .regular => [.ok ⟨p, .regular, false⟩]
  | .compositeKey => c.keyPlaces p

/-- The properties of an entity in order, each composite key property replaced by those of the
    entity it names. -/
def flat (c : Context) (e : Entity) : List (Except Error Place) := e.properties.flatMap c.places

/-- The column is that of the place, with the type of the place's property. -/
def Fills (c : Context) (place : Place) (column : Schema.Column) : Prop :=
  ∃ dataType, c.resolve .resolved place.property = .ok dataType ∧ column = place.column dataType

/-- The table has a column for each place, in the list for its kind and in order. -/
structure Laid (c : Context) (name : Identifier) (places : List Place) (columns : List Schema.Column) (t : Schema.Table) :
    Prop where
  name : t.name = name
  filled : List.Forall₂ c.Fills places columns
  partitionKey : t.partitionKey = columns.filter fun column => column.kind = .partitionKey
  clustering : t.clustering = columns.filter fun column => column.order?.isSome
  regular : t.regular = columns.filter fun column => column.kind = .regular
  all : t.columns.Perm columns
  distinct : (columns.map (·.name)).Nodup
  keyable : ∀ column ∈ columns, column.Keyable

variable {c : Context} {e : Entity} {t t' : Schema.Table} {name : Identifier} {placed : List Place}
  {columns : List Schema.Column}

/-! ## One step -/

/-- Add the column of a place. -/
def addPlace (c : Context) (t : Schema.Table) : Except Error Place → Except Error Schema.Table
  | .error x => .error x
  | .ok place => do
    let dataType ← c.columnType place.property
    t.claim (place.column dataType)

theorem column?_isSome_iff : (t.column? name).isSome = true ↔ name ∈ t.columns.map (·.name) := by
  simp [Schema.Table.column?, List.mem_map]

/-- A column is refused for its name, or for its type if it is a key column, or else added. -/
theorem claim_cases (t : Schema.Table) (column : Schema.Column) :
    (column.name ∈ t.columns.map (·.name) ∧ t.claim column = .error (.duplicateColumn t.name column.name)) ∨
      (column.name ∉ t.columns.map (·.name) ∧
        ((∃ kind, column.kind.isKey = true ∧ column.dataType = .scalar kind ∧ kind.isKeyable = false ∧
            t.claim column = .error (.nonKeyableColumn t.name column.name kind)) ∨
          (column.Keyable ∧ t.claim column = .ok (t.push column)))) := by
  unfold Schema.Table.claim Schema.Column.Keyable
  rw [← column?_isSome_iff]
  split
  · rename_i taken
    exact Or.inl ⟨taken, rfl⟩
  · rename_i free
    refine Or.inr ⟨free, ?_⟩
    split
    · rename_i kind scalar
      rw [DataType.scalar?_eq_some_iff] at scalar
      split
      · rename_i refused
        rw [Bool.and_eq_true, Bool.not_eq_true'] at refused
        exact Or.inl ⟨kind, refused.1, scalar, refused.2, rfl⟩
      · rename_i allowed
        refine Or.inr ⟨fun key other same => ?_, rfl⟩
        cases scalar.symm.trans same
        simpa [key] using allowed
    · rename_i scalar
      refine Or.inr ⟨fun _ kind same => ?_, rfl⟩
      rw [same] at scalar
      cases scalar

theorem columnType_eq_ok_iff {p : Property} {dataType : DataType} :
    c.columnType p = .ok dataType ↔ c.resolve .resolved p = .ok dataType := by
  unfold columnType Context.dataType
  exact mapError_eq_ok_iff

theorem addPlace_eq_ok {place : Place} (h : c.addPlace t (.ok place) = .ok t') :
    ∃ column, c.Fills place column ∧ column.name ∉ t.columns.map (·.name) ∧ column.Keyable ∧ t' = t.push column := by
  obtain ⟨dataType, found, h⟩ := bind_eq_ok_iff.mp h
  refine ⟨place.column dataType, ⟨dataType, columnType_eq_ok_iff.mp found, rfl⟩, ?_⟩
  rcases claim_cases t (place.column dataType) with ⟨_, claimed⟩ | ⟨new, ⟨_, _, _, _, claimed⟩ | ⟨keyable, claimed⟩⟩
  · cases claimed.symm.trans h
  · cases claimed.symm.trans h
  · cases claimed.symm.trans h
    exact ⟨new, keyable, rfl⟩

theorem laid_empty (c : Context) (name : Identifier) : c.Laid name [] [] (.empty name) where
  name := rfl
  filled := .nil
  partitionKey := rfl
  clustering := rfl
  regular := rfl
  all := .nil
  distinct := .nil
  keyable := nofun

theorem Laid.add (h : c.Laid name placed columns t) {place : Place} (added : c.addPlace t (.ok place) = .ok t') :
    ∃ column, c.Laid name (placed ++ [place]) (columns ++ [column]) t' := by
  obtain ⟨column, fills, new, keyable, rfl⟩ := addPlace_eq_ok added
  refine ⟨column, ?_, ?_, ?_, ?_, ?_, ?_, ?_, ?_⟩
  · rw [Schema.Table.name_push, h.name]
  · exact List.rel_append h.filled (.cons fills .nil)
  · rw [Schema.Table.partitionKey_push, h.partitionKey, List.filter_append]
  · rw [Schema.Table.clustering_push, h.clustering, List.filter_append]
  · rw [Schema.Table.regular_push, h.regular, List.filter_append]
  · exact (Schema.Table.columns_push_perm t column).trans (h.all.append_right [column])
  · rw [(h.all.map _).mem_iff] at new
    rw [List.map_append, List.map_singleton, ← List.concat_eq_append]
    exact h.distinct.concat new
  · intro x hx
    rcases List.mem_append.mp hx with hx | hx
    · exact h.keyable x hx
    · exact List.mem_singleton.mp hx ▸ keyable

/-! ## A run -/

theorem laid_of_run {places : List (Except Error Place)} (h : c.Laid name placed columns t)
    (run : places.foldlM c.addPlace t = .ok t') :
    ∃ placed' columns', places = placed'.map .ok ∧ c.Laid name (placed ++ placed') (columns ++ columns') t' := by
  induction places generalizing placed columns t with
  | nil =>
    cases run
    exact ⟨[], [], rfl, by simpa using h⟩
  | cons place places ih =>
    rw [List.foldlM_cons] at run
    obtain ⟨t₁, added, rest⟩ := bind_eq_ok_iff.mp run
    cases place with
    | error x => cases added
    | ok place =>
      obtain ⟨column, h⟩ := h.add added
      obtain ⟨placed', columns', rfl, h⟩ := ih h rest
      exact ⟨place :: placed', column :: columns', rfl, by simpa using h⟩

theorem addEmbedded_eq (t : Schema.Table) (p : Property) : c.addEmbedded t p = c.addPlace t (.ok p.embeddedPlace) := by
  unfold addEmbedded addPlace Property.embeddedPlace
  cases p.role <;> rfl

theorem addKey_eq (t : Schema.Table) (p : Property) :
    ((c.compositeKey p).bind fun key => key.properties.foldlM c.addEmbedded t) = (c.keyPlaces p).foldlM c.addPlace t := by
  unfold keyPlaces
  cases declared : p.declared with
  | named type =>
    rw [compositeKey_named declared]
    dsimp only
    cases c.registry.entityFor? type with
    | none => rfl
    | some key =>
      rw [List.foldlM_map]
      exact foldlM_congr (fun q _ t => addEmbedded_eq t q) t
  | _ =>
    simp only [compositeKey, declared, Declared.name?]
    rfl

theorem addProperty_eq (t : Schema.Table) (p : Property) : c.addProperty t p = (c.places p).foldlM c.addPlace t := by
  unfold addProperty places
  cases p.role with
  | compositeKey => exact addKey_eq t p
  | _ => exact (bind_pure _).symm

theorem tableOf_eq (c : Context) (e : Entity) :
    c.tableOf e = ((c.flat e).foldlM c.addPlace (.empty e.storageName)).bind fun t =>
      if t.partitionKey.isEmpty then .error (.noPartitionKey t.name) else .ok t := by
  unfold tableOf flat
  rw [foldlM_flatMap, foldlM_congr fun p _ t => addProperty_eq t p]
  rfl

/-! ## The table -/

/-- A table that is built was laid out from all the places of its entity. -/
theorem laid_of_tableOf (h : c.tableOf e = .ok t) :
    t.partitionKey ≠ [] ∧ ∃ placed columns, c.flat e = placed.map .ok ∧ c.Laid e.storageName placed columns t := by
  rw [tableOf_eq] at h
  obtain ⟨t₁, run, h⟩ := bind_eq_ok_iff.mp h
  split at h
  · cases h
  · rename_i partitioned
    cases h
    exact ⟨by simpa using partitioned, laid_of_run (laid_empty c e.storageName) run⟩

/-- Every column of a table is that of a place of its entity. -/
theorem exists_place_of_column (h : c.tableOf e = .ok t) {column : Schema.Column} (hc : column ∈ t.columns) :
    ∃ place, .ok place ∈ c.flat e ∧ c.Fills place column := by
  obtain ⟨-, placed, columns, flat, laid⟩ := laid_of_tableOf h
  obtain ⟨place, there, fills⟩ := exists_of_mem_right laid.filled (laid.all.mem_iff.mp hc)
  exact ⟨place, flat ▸ List.mem_map_of_mem there, fills⟩

/-- Every place of an entity has its column in the table. -/
theorem exists_column_of_place (h : c.tableOf e = .ok t) {place : Place} (there : .ok place ∈ c.flat e) :
    ∃ column ∈ t.columns, c.Fills place column := by
  obtain ⟨-, placed, columns, flat, laid⟩ := laid_of_tableOf h
  rw [flat] at there
  obtain ⟨_, there, same⟩ := List.mem_map.mp there
  cases same
  have filled : List.Forall₂ (flip c.Fills) columns placed := laid.filled.flip
  obtain ⟨column, hc, fills⟩ := exists_of_mem_right filled there
  exact ⟨column, laid.all.mem_iff.mpr hc, fills⟩

theorem Laid.distinct_columns (h : c.Laid name placed columns t) : (t.columns.map (·.name)).Nodup :=
  (h.all.map _).nodup_iff.mpr h.distinct

theorem Laid.column?_of_mem (h : c.Laid name placed columns t) {column : Schema.Column} (hc : column ∈ t.columns) :
    t.column? column.name = some column := by
  obtain ⟨other, there, same, found⟩ := exists_found_of_mem Schema.Column.name hc
  rwa [List.inj_on_of_nodup_map h.distinct_columns there hc same] at found

theorem Laid.isKeyable (h : c.Laid name placed columns t) {column : Schema.Column} (hc : column ∈ t.primaryKey)
    {kind : Scalar} (scalar : column.dataType = .scalar kind) : kind.isKeyable = true := by
  rw [Schema.Table.primaryKey, h.partitionKey, h.clustering, List.mem_append, List.mem_filter, List.mem_filter] at hc
  rcases hc with ⟨there, key⟩ | ⟨there, key⟩
  · refine h.keyable column there ?_ kind scalar
    rw [decide_eq_true_eq] at key
    rw [key]
    rfl
  · refine h.keyable column there ?_ kind scalar
    unfold Schema.Column.order? at key
    split at key
    · rename_i order clustering
      rw [clustering]
      rfl
    · cases key

/-- The columns of a table are the places of its entity, embedded ones among them: each list has
    those of its kind, in order and no others. There is a partition key, no two columns share a
    name, and no key column is a scalar that cannot be compared. -/
theorem table_is_flattened (h : c.tableOf e = .ok t) :
    ∃ placed columns, c.flat e = placed.map .ok ∧ c.Laid e.storageName placed columns t ∧
      t.partitionKey ≠ [] ∧
      (t.columns.map (·.name)).Nodup ∧
      (∀ column ∈ t.columns, t.column? column.name = some column) ∧
      ∀ column ∈ t.primaryKey, ∀ kind, column.dataType = .scalar kind → kind.isKeyable = true := by
  obtain ⟨partitioned, placed, columns, flat, laid⟩ := laid_of_tableOf h
  exact ⟨placed, columns, flat, laid, partitioned, laid.distinct_columns, fun _ => laid.column?_of_mem,
    fun _ hc _ => laid.isKeyable hc⟩

/-- The key of a ship is that of its berth. -/
theorem ship_is_flattened : ∃ e t, Reach Harbour.sources Harbour.moored ∧
    Harbour.moored.registry.entityFor? Harbour.ship = some e ∧ Harbour.moored.tableOf e = .ok t ∧
    t.primaryKey.map (·.name.name) = ["pier", "slot"] ∧ t.regular.map (·.name.name) = ["crew"] ∧
    ∃ placed columns, Harbour.moored.flat e = placed.map .ok ∧
      Harbour.moored.Laid e.storageName placed columns t ∧
      t.partitionKey ≠ [] ∧
      (t.columns.map (·.name)).Nodup ∧
      (∀ column ∈ t.columns, t.column? column.name = some column) ∧
      ∀ column ∈ t.primaryKey, ∀ kind, column.dataType = .scalar kind → kind.isKeyable = true :=
  ⟨_, _, Harbour.reach_moored, rfl, rfl, rfl, rfl, table_is_flattened rfl⟩

end Context

end WideColumn
