/-
  WideColumn.Proofs.Layout.Refusal — which entities have no table, and why.

  The places of a flattened entity are laid out in order until one offends: a composite key
  that names no registered entity, a property without a storage type, a name that an earlier
  column has, or a key column that cannot be compared. Of several things wrong with one place
  the first of these counts. An entity that nothing offends in still needs a partition key.

  Proved:
  - `addPlace_eq_error_iff`: a step refuses a place exactly if it offends, and says why.
  - `run_eq_error_iff`, `run_succeeds_iff`: a run stops at the first place that offends.
  - `tabular_iff`: an entity has nothing that offends and a partition key exactly if it is
    `Tabular`, which speaks of the entity as a whole and of no order.
  - `tableOf_refuses_first`: which entities have a table, and the error of each that has none.
-/

import WideColumn.Proofs.Layout.Flattening

namespace WideColumn.Context

open Attempt
open Layout (Error)

/-- The names of the columns that stand in these places. -/
def columnNames (places : List (Except Error Place)) : List Identifier :=
  places.filterMap fun place => place.toOption.map (·.property.columnName)

/-- Nothing can stand in the place after columns of the earlier names, for this reason. -/
inductive Offends (c : Context) (table : Identifier) (earlier : List Identifier) : Except Error Place → Error → Prop
  | key (x : Error) : Offends c table earlier (.error x) x
  | dataType {place : Place} {x : Resolution.Error} :
      c.resolve .resolved place.property = .error x → Offends c table earlier (.ok place) (.resolution x)
  | duplicate {place : Place} {dataType : DataType} :
      c.resolve .resolved place.property = .ok dataType → place.property.columnName ∈ earlier →
      Offends c table earlier (.ok place) (.duplicateColumn table place.property.columnName)
  | nonKeyable {place : Place} {kind : Scalar} :
      c.resolve .resolved place.property = .ok (.scalar kind) → place.property.columnName ∉ earlier →
      place.kind.isKey = true → kind.isKeyable = false →
      Offends c table earlier (.ok place) (.nonKeyableColumn table place.property.columnName kind)

/-- No place offends after those before it. -/
def Clean (c : Context) (table : Identifier) (places : List (Except Error Place)) : Prop :=
  ∀ before place after x, places = before ++ place :: after → ¬Offends c table (columnNames before) place x

/-- The first place that offends does so for this reason. -/
def FirstOffence (c : Context) (table : Identifier) (places : List (Except Error Place)) (x : Error) : Prop :=
  ∃ before place after, places = before ++ place :: after ∧ Clean c table before ∧
    Offends c table (columnNames before) place x

/-- What an entity needs to have a table. -/
structure Tabular (c : Context) (e : Entity) : Prop where
  keys : c.NamesKeys e
  dataTypes : ∀ place, .ok place ∈ c.flat e → ∃ dataType, c.resolve .resolved place.property = .ok dataType
  distinct : (columnNames (c.flat e)).Nodup
  keyable : ∀ place, .ok place ∈ c.flat e → place.kind.isKey = true →
    ∀ kind, c.resolve .resolved place.property = .ok (.scalar kind) → kind.isKeyable = true
  partitioned : ∃ place, .ok place ∈ c.flat e ∧ place.kind = .partitionKey

variable {c : Context} {e : Entity} {t : Schema.Table} {name : Identifier} {x : Error}
  {places : List (Except Error Place)}

/-! ## One step -/

theorem column_dataType_eq_scalar_iff {place : Place} {dataType : DataType} {kind : Scalar} :
    (place.column dataType).dataType = .scalar kind ↔ dataType = .scalar kind := by
  unfold Place.column
  cases place.embedded with
  | true => exact Iff.rfl
  | false => exact DataType.freeze_eq_scalar_iff

theorem columnType_eq_error_iff {p : Property} :
    c.columnType p = .error x ↔ ∃ y, c.resolve .resolved p = .error y ∧ x = .resolution y := by
  unfold columnType Context.dataType
  cases c.resolve .resolved p <;> simp [Except.mapError, eq_comm]

theorem addPlace_of_offends {place : Except Error Place}
    (h : Offends c t.name (t.columns.map (·.name)) place x) : c.addPlace t place = .error x := by
  have step : ∀ {place : Place} {dataType : DataType}, c.resolve .resolved place.property = .ok dataType →
      c.addPlace t (.ok place) = t.claim (place.column dataType) := by
    intro place dataType found
    simp only [addPlace, columnType_eq_ok_iff.mpr found]
    rfl
  cases h with
  | key => rfl
  | dataType failed => exact bind_eq_error_iff.mpr (Or.inl (columnType_eq_error_iff.mpr ⟨_, failed, rfl⟩))
  | @duplicate place dataType found taken =>
    rw [step found]
    rcases claim_cases t (place.column dataType) with ⟨_, claimed⟩ | ⟨new, _⟩
    · exact claimed
    · exact absurd taken new
  | @nonKeyable place kind found new key refused =>
    rw [step found]
    rcases claim_cases t (place.column (.scalar kind)) with ⟨taken, _⟩ | ⟨_, ⟨other, _, same, _, claimed⟩ | ⟨keyable, _⟩⟩
    · exact absurd taken new
    · cases column_dataType_eq_scalar_iff.mp same
      exact claimed
    · cases refused.symm.trans (keyable key kind (column_dataType_eq_scalar_iff.mpr rfl))

theorem offends_of_addPlace {place : Except Error Place} (h : c.addPlace t place = .error x) :
    Offends c t.name (t.columns.map (·.name)) place x := by
  cases place with
  | error y =>
    cases h
    exact .key _
  | ok place =>
    rcases bind_eq_error_iff.mp h with failed | ⟨dataType, found, h⟩
    · obtain ⟨_, unresolved, rfl⟩ := columnType_eq_error_iff.mp failed
      exact .dataType unresolved
    · rw [columnType_eq_ok_iff] at found
      rcases claim_cases t (place.column dataType) with
        ⟨taken, claimed⟩ | ⟨new, ⟨kind, key, scalar, refused, claimed⟩ | ⟨_, claimed⟩⟩
      · cases claimed.symm.trans h
        exact .duplicate found taken
      · cases claimed.symm.trans h
        rw [column_dataType_eq_scalar_iff.mp scalar] at found
        exact .nonKeyable found new key refused
      · cases claimed.symm.trans h

theorem addPlace_eq_error_iff {place : Except Error Place} :
    c.addPlace t place = .error x ↔ Offends c t.name (t.columns.map (·.name)) place x :=
  ⟨offends_of_addPlace, addPlace_of_offends⟩

/-- Only which names are taken matters, not their order. -/
theorem offends_congr {a b : List Identifier} (same : ∀ i, i ∈ a ↔ i ∈ b) {place : Except Error Place} :
    Offends c name a place x ↔ Offends c name b place x := by
  have transfer : ∀ {a b : List Identifier}, (∀ i, i ∈ a ↔ i ∈ b) → Offends c name a place x → Offends c name b place x := by
    intro a b same h
    cases h with
    | key => exact .key _
    | dataType failed => exact .dataType failed
    | duplicate found taken => exact .duplicate found ((same _).mp taken)
    | nonKeyable found new key refused => exact .nonKeyable found (fun taken => new ((same _).mpr taken)) key refused
  exact ⟨transfer same, transfer fun i => (same i).symm⟩

/-! ## A run -/

theorem columnNames_map_ok (placed : List Place) :
    columnNames (placed.map .ok) = placed.map (·.property.columnName) := by
  induction placed with
  | nil => rfl
  | cons place placed ih =>
    rw [List.map_cons, List.map_cons, ← ih]
    rfl

/-- What a column has from its place alone is the same in both lists. -/
theorem map_of_filled {α : Type} {f : Schema.Column → α} {g : Place → α}
    (same : ∀ place dataType, f (place.column dataType) = g place) {placed : List Place} {columns : List Schema.Column}
    (h : List.Forall₂ c.Fills placed columns) : columns.map f = placed.map g := by
  refine map_eq_of_forall₂ (fun place column fills => ?_) h
  obtain ⟨dataType, -, rfl⟩ := fills
  exact same place dataType

theorem names_of_filled {placed : List Place} {columns : List Schema.Column} (h : List.Forall₂ c.Fills placed columns) :
    columns.map (·.name) = placed.map (·.property.columnName) :=
  map_of_filled (fun _ _ => rfl) h

/-- The names taken after a run are those of the places. -/
theorem names_of_run (run : places.foldlM c.addPlace (.empty name) = .ok t) :
    t.name = name ∧ ∀ i, i ∈ t.columns.map (·.name) ↔ i ∈ columnNames places := by
  obtain ⟨placed, columns, rfl, laid⟩ := laid_of_run (laid_empty c name) run
  refine ⟨laid.name, fun i => ?_⟩
  rw [(laid.all.map _).mem_iff, names_of_filled laid.filled, columnNames_map_ok]
  rfl

theorem run_eq_error_iff :
    places.foldlM c.addPlace (.empty name) = .error x ↔
      ∃ before place after, places = before ++ place :: after ∧
        (∃ t, before.foldlM c.addPlace (.empty name) = .ok t) ∧ Offends c name (columnNames before) place x := by
  have step : ∀ {before : List (Except Error Place)} {t : Schema.Table} {place : Except Error Place},
      before.foldlM c.addPlace (.empty name) = .ok t →
      (c.addPlace t place = .error x ↔ Offends c name (columnNames before) place x) := by
    intro before t place run
    obtain ⟨rfl, names⟩ := names_of_run run
    rw [addPlace_eq_error_iff, offends_congr names]
  rw [foldlM_eq_error_iff]
  constructor
  · intro ⟨before, place, after, t, split, run, failed⟩
    exact ⟨before, place, after, split, ⟨t, run⟩, (step run).mp failed⟩
  · intro ⟨before, place, after, split, ⟨t, run⟩, offends⟩
    exact ⟨before, place, after, t, split, run, (step run).mpr offends⟩

theorem run_succeeds_iff : (∃ t, places.foldlM c.addPlace (.empty name) = .ok t) ↔ Clean c name places := by
  constructor
  · intro ⟨t, run⟩ before place after x split offends
    have prefixed : ∃ t, before.foldlM c.addPlace (.empty name) = .ok t := by
      rw [split, List.foldlM_append] at run
      obtain ⟨t₁, first, -⟩ := bind_eq_ok_iff.mp run
      exact ⟨t₁, first⟩
    cases run.symm.trans (run_eq_error_iff.mpr ⟨before, place, after, split, prefixed, offends⟩)
  · intro clean
    cases run : places.foldlM c.addPlace (.empty name) with
    | ok t => exact ⟨t, rfl⟩
    | error x =>
      obtain ⟨before, place, after, split, -, offends⟩ := run_eq_error_iff.mp run
      exact absurd offends (clean before place after x split)

theorem run_refuses_iff : places.foldlM c.addPlace (.empty name) = .error x ↔ FirstOffence c name places x := by
  rw [run_eq_error_iff]
  simp only [run_succeeds_iff]
  rfl

/-! ## The entity as a whole -/

theorem mem_columnNames_of_mem {place : Place} (h : .ok place ∈ places) : place.property.columnName ∈ columnNames places :=
  List.mem_filterMap.mpr ⟨_, h, rfl⟩

/-- A composite key has its places if it names a registered entity, and only then. -/
theorem keyPlaces_placed_iff {p : Property} :
    (∀ place ∈ c.keyPlaces p, ∃ q, place = .ok q) ↔
      ∃ n key, p.declared = .named n ∧ c.registry.entityFor? n = some key := by
  unfold keyPlaces
  cases p.declared with
  | named n => cases found : c.registry.entityFor? n <;> simp [found]
  | _ => simp

theorem places_placed_iff {p : Property} :
    (∀ place ∈ c.places p, ∃ q, place = .ok q) ↔
      (p.role = .compositeKey → ∃ n key, p.declared = .named n ∧ c.registry.entityFor? n = some key) := by
  unfold places
  cases p.role with
  | compositeKey => simpa using keyPlaces_placed_iff
  | _ => simp

theorem flat_placed_iff : (∀ place ∈ c.flat e, ∃ q, place = .ok q) ↔ c.NamesKeys e := by
  simp only [NamesKeys, flat, List.mem_flatMap, ← places_placed_iff]
  constructor
  · exact fun all p hp place there => all place ⟨p, hp, there⟩
  · exact fun all place ⟨p, hp, there⟩ => all p hp place there

theorem tabular_iff :
    c.Tabular e ↔
      Clean c e.storageName (c.flat e) ∧ ∃ place, .ok place ∈ c.flat e ∧ place.kind = .partitionKey := by
  constructor
  · intro h
    refine ⟨fun before place after x split offends => ?_, h.partitioned⟩
    have there : place ∈ c.flat e := split ▸ List.mem_append_right before List.mem_cons_self
    cases offends with
    | key =>
      obtain ⟨_, placed⟩ := flat_placed_iff.mpr h.keys _ there
      cases placed
    | dataType failed =>
      obtain ⟨_, found⟩ := h.dataTypes _ there
      cases failed.symm.trans found
    | @duplicate place _ _ taken =>
      have once := h.distinct
      rw [split, columnNames, List.filterMap_append] at once
      exact List.disjoint_of_nodup_append once taken (mem_columnNames_of_mem List.mem_cons_self)
    | nonKeyable found _ key refused => cases refused.symm.trans (h.keyable _ there key _ found)
  · intro ⟨clean, partitioned⟩
    have placed : ∀ place ∈ c.flat e, ∃ q, place = .ok q := by
      intro place there
      obtain ⟨before, after, split⟩ := List.append_of_mem there
      cases place with
      | error x => exact absurd (.key x) (clean before _ after x split)
      | ok q => exact ⟨q, rfl⟩
    have dataTypes : ∀ place, .ok place ∈ c.flat e → ∃ dataType, c.resolve .resolved place.property = .ok dataType := by
      intro place there
      obtain ⟨before, after, split⟩ := List.append_of_mem there
      cases found : c.resolve .resolved place.property with
      | error x => exact absurd (.dataType found) (clean before _ after _ split)
      | ok dataType => exact ⟨dataType, rfl⟩
    refine ⟨flat_placed_iff.mp placed, dataTypes, ?_, ?_, partitioned⟩
    · obtain ⟨t, run⟩ := run_succeeds_iff.mpr clean
      obtain ⟨placed, columns, flat, laid⟩ := laid_of_run (laid_empty c e.storageName) run
      have distinct := laid.distinct
      rw [names_of_filled laid.filled] at distinct
      rw [flat, columnNames_map_ok]
      exact distinct
    · intro place there key kind found
      obtain ⟨before, after, split⟩ := List.append_of_mem there
      by_cases taken : place.property.columnName ∈ columnNames before
      · exact absurd (.duplicate found taken) (clean before _ after _ split)
      · cases keyable : kind.isKeyable with
        | true => rfl
        | false => exact absurd (.nonKeyable found taken key keyable) (clean before _ after _ split)

/-- A table has a partition key if one of its places is part of it. -/
theorem partitionKey_eq_nil_iff (run : places.foldlM c.addPlace (.empty name) = .ok t) :
    t.partitionKey = [] ↔ ∀ place, .ok place ∈ places → place.kind ≠ .partitionKey := by
  obtain ⟨placed, columns, rfl, laid⟩ := laid_of_run (laid_empty c name) run
  have kinds : columns.map (·.kind) = placed.map (·.kind) := map_of_filled (fun _ _ => rfl) laid.filled
  have empty : t.partitionKey = [] ↔ .partitionKey ∉ columns.map (·.kind) := by
    simp [laid.partitionKey, List.filter_eq_nil_iff]
  rw [empty, kinds]
  simp

/-- An entity has a table exactly if it is tabular. The error of one that has none is that of
    the first place that offends, or that there is no partition key if none does. -/
theorem tableOf_refuses_first (c : Context) (e : Entity) :
    ((∃ t, c.tableOf e = .ok t) ↔ c.Tabular e) ∧
      ∀ x, c.tableOf e = .error x ↔
        FirstOffence c e.storageName (c.flat e) x ∨
          (Clean c e.storageName (c.flat e) ∧ (∀ place, .ok place ∈ c.flat e → place.kind ≠ .partitionKey) ∧
            x = .noPartitionKey e.storageName) := by
  rw [tabular_iff, tableOf_eq]
  cases run : (c.flat e).foldlM c.addPlace (.empty e.storageName) with
  | error y =>
    have unclean : ¬Clean c e.storageName (c.flat e) := by
      intro clean
      obtain ⟨t, done⟩ := run_succeeds_iff.mpr clean
      cases run.symm.trans done
    have first : ∀ x, FirstOffence c e.storageName (c.flat e) x ↔ y = x := by
      intro x
      rw [← run_refuses_iff, run, Except.error.injEq]
    simp [Except.bind, unclean, first]
  | ok t =>
    have clean := run_succeeds_iff.mp ⟨t, run⟩
    have none : ∀ x, ¬FirstOffence c e.storageName (c.flat e) x := by
      intro x first
      cases run.symm.trans (run_refuses_iff.mpr first)
    have named := (names_of_run run).1
    have keyed : (∃ place, .ok place ∈ c.flat e ∧ place.kind = .partitionKey) ↔ t.partitionKey ≠ [] := by
      rw [ne_eq, partitionKey_eq_nil_iff run]
      simp
    have unkeyed := (partitionKey_eq_nil_iff run).symm
    by_cases empty : t.partitionKey = []
    · simp [Except.bind, keyed, unkeyed, empty, clean, none, named, @eq_comm _ _ (Error.noPartitionKey _)]
    · simp [Except.bind, keyed, unkeyed, empty, clean, none]

end WideColumn.Context
