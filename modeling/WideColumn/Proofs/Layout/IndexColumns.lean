/-
  WideColumn.Proofs.Layout.IndexColumns — the column that an index is on.

  A table flattens composite keys one level deep, and the indexes of its entity are collected
  from composite keys at any depth. Where a composite key names a key class the two see the
  same properties, since the verifier lets a key class embed no other key. Nothing of the kind
  is asked of other types. A composite key may name one that embeds another key in turn: the
  inner key property becomes a column itself, the properties of the inner key become none, and
  an index declared on one of them is on a column that the table does not have.

  Proved:
  - `Declares.mem`: where the declarations come from that the indexes are made of.
  - `standsOn_of_place`: an index that the property of a place admits is on the column of the
    place, which has the parts that the index addresses.
  - `indexes_stand_on_columns`: an index is on a column of the table, or it is declared more
    than one level down and under a type that is no key class.
  - `nested_key_index_has_no_column`: there are such indexes.
-/

import WideColumn.Proofs.Layout.Flattening
import WideColumn.Proofs.Layout.Targets
import WideColumn.Proofs.Registry.Verified

namespace WideColumn

open Attempt
open Relation (ReflTransGen TransGen)

/-- The index is on a column of the table, which has the parts that the index addresses. -/
def Schema.Index.StandsOn (i : Schema.Index) (t : Schema.Table) : Prop :=
  ∃ column ∈ t.columns, column.name = i.column ∧ column.dataType.HasParts i.target

theorem DataType.hasParts_freeze {t : DataType} (unfrozen : t.unfrozen = t) {target : Schema.Index.Target} :
    t.freeze.HasParts target ↔ t.HasParts target := by
  have same : t.freeze.unfrozen = t.unfrozen := by
    unfold freeze
    split
    · exact unfrozen.symm
    · rfl
  cases target <;> simp [HasParts, isMap, same]

namespace Context

variable {src : Sources} {c : Context} {e : Entity} {t : Schema.Table} {indexes : List Schema.Index}

/-- The index is declared more than one level down, under a type that is no key class. -/
def Buried (c : Context) (e : Entity) (i : Schema.Index) : Prop :=
  ∃ k x, c.Embeds e k ∧ k.role ≠ .keyClass ∧ TransGen c.Embeds k x ∧
    ∃ p ∈ x.properties, p.role ≠ .compositeKey ∧ p.columnName = i.column ∧ ∃ d ∈ p.indexes, d.target = i.target

/-! ## Where a declaration is -/

/-- A declaration is on one of the properties, or on one that a composite key among them
    leads to. -/
theorem Declares.mem {ps : List Property} {declared : List (Property × IndexDeclaration)} (h : c.Declares ps declared)
    {p : Property} {d : IndexDeclaration} (hd : (p, d) ∈ declared) :
    d ∈ p.indexes ∧ p.role ≠ .compositeKey ∧
      (p ∈ ps ∨ ∃ q ∈ ps, q.role = .compositeKey ∧
        ∃ k, c.compositeKey q = .ok k ∧ ∃ x, ReflTransGen c.Embeds k x ∧ p ∈ x.properties) := by
  induction h with
  | nil => cases hd
  | @own q rest after own _ ih =>
    rcases List.mem_append.mp hd with here | later
    · obtain ⟨_, there, same⟩ := List.mem_map.mp here
      cases same
      exact ⟨there, own, Or.inl List.mem_cons_self⟩
    · obtain ⟨there, own, among⟩ := ih later
      refine ⟨there, own, among.imp (List.mem_cons_of_mem _) ?_⟩
      exact fun ⟨q, hq, leads⟩ => ⟨q, List.mem_cons_of_mem _ hq, leads⟩
  | @key q n key rest below after composite named found _ _ ihBelow ihAfter =>
    have names : c.compositeKey q = .ok key := compositeKey_eq_ok_iff.mpr ⟨n, named, found⟩
    rcases List.mem_append.mp hd with under | later
    · obtain ⟨there, own, among⟩ := ihBelow under
      refine ⟨there, own, Or.inr ⟨q, List.mem_cons_self, composite, key, names, ?_⟩⟩
      rcases among with here | ⟨q', hq', composite', k, names', x, reaches, hp⟩
      · exact ⟨key, .refl, here⟩
      · exact ⟨x, .head (embeds_of_mem hq' composite' names') reaches, hp⟩
    · obtain ⟨there, own, among⟩ := ihAfter later
      refine ⟨there, own, among.imp (List.mem_cons_of_mem _) ?_⟩
      exact fun ⟨q, hq, leads⟩ => ⟨q, List.mem_cons_of_mem _ hq, leads⟩

/-- A property that an index of the entity is declared on. -/
theorem exists_declaration (ends : c.KeysEnd e) (found : c.indexesOf e = .ok indexes) {i : Schema.Index}
    (hi : i ∈ indexes) :
    ∃ p d, d ∈ p.indexes ∧ p.role ≠ .compositeKey ∧ p.columnName = i.column ∧ d.target = i.target ∧
      p.admits d.target = true ∧
      (p ∈ e.properties ∨ ∃ q ∈ e.properties, q.role = .compositeKey ∧
        ∃ k, c.compositeKey q = .ok k ∧ ∃ x, ReflTransGen c.Embeds k x ∧ p ∈ x.properties) := by
  rw [indexesOf_eq] at found
  obtain ⟨collected, hcollected, rfl⟩ := map_eq_ok_iff.mp found
  obtain ⟨declared, declares, rfl⟩ := declares_of_collectIndexes hcollected
  obtain ⟨_, unstamped, rfl⟩ := List.mem_map.mp hi
  obtain ⟨⟨p, d⟩, hd, rfl⟩ := List.mem_map.mp unstamped
  obtain ⟨there, own, among⟩ := declares.mem hd
  have indexable := (collectIndexes_succeeds_iff e.storageName ends (c.card_below_le e)).mp ⟨_, hcollected⟩
  refine ⟨p, d, there, own, rfl, rfl, Property.admits_iff.mpr ?_, among⟩
  rcases among with here | ⟨q, hq, composite, k, names, x, reaches, hp⟩
  · exact (indexable e .refl).targets p here own d there
  · exact (indexable x (.head (embeds_of_mem hq composite names) reaches)).targets p hp own d there

/-! ## Which column it has -/

theorem mem_flat_own {p : Property} (hp : p ∈ e.properties) (own : p.role ≠ .compositeKey) :
    ∃ place : Place, place.property = p ∧ .ok place ∈ c.flat e := by
  have alone : ∃ place : Place, place.property = p ∧ c.places p = [.ok place] := by
    unfold places
    cases role : p.role with
    | compositeKey => exact absurd role own
    | _ => exact ⟨_, rfl, rfl⟩
  obtain ⟨place, same, alone⟩ := alone
  exact ⟨place, same, List.mem_flatMap.mpr ⟨p, hp, alone ▸ List.mem_singleton_self _⟩⟩

theorem mem_flat_embedded {p q : Property} {k : Entity} (hq : q ∈ e.properties) (composite : q.role = .compositeKey)
    (names : c.compositeKey q = .ok k) (hp : p ∈ k.properties) :
    ∃ place : Place, place.property = p ∧ .ok place ∈ c.flat e := by
  obtain ⟨n, named, found⟩ := compositeKey_eq_ok_iff.mp names
  refine ⟨p.embeddedPlace, p.property_embeddedPlace, List.mem_flatMap.mpr ⟨q, hq, ?_⟩⟩
  simp only [places, composite, keyPlaces, named, found]
  exact List.mem_map.mpr ⟨p, hp, rfl⟩

/-- An index that the property of a place admits stands on the column of the place. -/
theorem standsOn_of_place (table : c.tableOf e = .ok t) {place : Place} (there : .ok place ∈ c.flat e)
    {i : Schema.Index} (named : place.property.columnName = i.column) (admits : place.property.admits i.target = true) :
    i.StandsOn t := by
  obtain ⟨column, hcolumn, dataType, resolved, rfl⟩ := exists_column_of_place table there
  have parts := ((admits_iff resolved).mp admits).1
  refine ⟨_, hcolumn, named, ?_⟩
  unfold Place.column
  dsimp only
  split
  · exact parts
  · exact (DataType.hasParts_freeze (resolve_shape resolved).1).mpr parts

/-! ## What a key class embeds -/

theorem embeds_nothing_of_keyClass (h : Reach src c) (standard : src.verifier = .standard) {k x : Entity}
    (there : k ∈ c.registry.entities) (keyClass : k.role = .keyClass) : ¬c.Embeds k x := by
  intro ⟨p, hp, composite, _⟩
  rw [Property.Role.isCompositeKey_iff] at composite
  rcases (reach_keyRules standard h k there).flat keyClass p hp with role | ⟨_, role⟩
  · cases role.symm.trans composite
  · cases role.symm.trans composite

end Context

end WideColumn

/-! ## A depot

  A delivery has a slot for its key. A slot is a plain type, with a dock and a period, and the
  period is a composite key again: a user type with a start, which is to be indexed.
-/

namespace WideColumn.Depot

open Registry

def delivery : TypeName := ⟨"Delivery"⟩
def slot : TypeName := ⟨"Slot"⟩
def period : TypeName := ⟨"Period"⟩
def code : TypeName := ⟨"Code"⟩

/-- A property whose column has its own name, quoted. -/
def property (name : String) (type : TypeName) (role : Property.Role) (indexes : List IndexDeclaration) : PropertySeed :=
  ⟨name, .named type, role, none, none, indexes, true⟩

def deliverySeed : EntitySeed := ⟨some "deliveries", true, .table,
  [property "slot" slot .compositeKey [], property "goods" code .regular []]⟩

def slotSeed : EntitySeed := ⟨some "slots", true, .plain,
  [property "dock" code .partitionKey [], property "period" period .compositeKey []]⟩

def periodSeed : EntitySeed := ⟨some "period", true, .userType,
  [property "start" code .regular [⟨none, .column, .secondary⟩], property "end" code .regular []]⟩

def describe (t : TypeName) : Except DescribeError EntitySeed :=
  if t = delivery then .ok deliverySeed
  else if t = slot then .ok slotSeed
  else if t = period then .ok periodSeed
  else .error (.notFound t)

def sources : Sources := ⟨⟨describe⟩, ⟨[(code, .text)]⟩, .empty, .standard⟩

/-- What registering a delivery leaves. -/
def withDelivery : Registry :=
  ([(delivery, deliverySeed), (slot, slotSeed), (period, periodSeed)].foldlM
    (fun (r : Registry) t => r.enter sources t.1 t.2) empty).toOption.getD empty

/-- The store has every user type. -/
def scheduled : Context := ⟨sources, withDelivery, some ⟨fun name => some (.resolved name)⟩⟩

theorem registers_delivery : Registers sources empty delivery ⟨withDelivery, [delivery, slot, period], .ok ⟨0⟩⟩ := by
  have visits : Visits sources empty [delivery] _ :=
    .entered rfl rfl rfl (.entered rfl rfl rfl (.entered rfl rfl rfl (.nil _) rfl (.nil _)) rfl (.nil _)) rfl (.nil _)
  exact .succeeded rfl rfl rfl visits rfl

theorem reach_scheduled : Context.Reach sources scheduled :=
  Context.reach_first registers_delivery scheduled.userTypes

theorem delivery_keys_end : ∃ e, scheduled.registry.entityFor? delivery = some e ∧ scheduled.KeysEnd e := by
  refine ⟨_, rfl, Context.keysEnd_of_embeds ?_⟩
  intro k ⟨p, hp, composite, key⟩
  rcases List.mem_pair.mp hp with rfl | rfl
  · injection key with key
    subst key
    refine Context.keysEnd_of_flat ?_
    intro x y ⟨q, hq, composite', key'⟩ ⟨q', hq', composite'', _⟩
    rcases List.mem_pair.mp hq with rfl | rfl
    · cases composite'
    · injection key' with key'
      subst key'
      rcases List.mem_pair.mp hq' with rfl | rfl <;> cases composite''
  · cases composite

end WideColumn.Depot

namespace WideColumn.Context

variable {src : Sources} {c : Context} {e : Entity} {t : Schema.Table} {indexes : List Schema.Index}

/-- Every index is on a column of the table that has the parts it addresses, unless it is
    declared more than one level down and under a type that is no key class. -/
theorem indexes_stand_on_columns (h : Reach src c) (standard : src.verifier = .standard) (ends : c.KeysEnd e)
    (table : c.tableOf e = .ok t) (found : c.indexesOf e = .ok indexes) :
    ∀ i ∈ indexes, i.StandsOn t ∨ c.Buried e i := by
  intro i hi
  obtain ⟨p, d, there, own, named, target, admits, among⟩ := exists_declaration ends found hi
  rw [target] at admits
  rcases among with here | ⟨q, hq, composite, k, names, x, reaches, hp⟩
  · obtain ⟨place, rfl, inFlat⟩ := mem_flat_own here own
    exact Or.inl (standsOn_of_place table inFlat named admits)
  · have embeds := embeds_of_mem hq composite names
    rcases reaches.cases_head with rfl | ⟨y, below, reaches⟩
    · obtain ⟨place, rfl, inFlat⟩ := mem_flat_embedded hq composite names hp
      exact Or.inl (standsOn_of_place table inFlat named admits)
    · have other : k.role ≠ .keyClass := fun keyClass => embeds_nothing_of_keyClass h standard embeds.mem keyClass below
      exact Or.inr ⟨k, x, embeds, other, .head' below reaches, p, hp, own, named, d, there, target⟩

/-- A ship has an index in its berth, which is a key class, and one of its own. -/
theorem ship_indexes_stand_on_columns : ∃ e t indexes, Reach Harbour.sources Harbour.moored ∧
    Harbour.sources.verifier = .standard ∧ Harbour.moored.registry.entityFor? Harbour.ship = some e ∧
    Harbour.moored.KeysEnd e ∧ Harbour.moored.tableOf e = .ok t ∧ Harbour.moored.indexesOf e = .ok indexes ∧
    indexes.map (·.column.name) = ["slot", "crew"] ∧ ∀ i ∈ indexes, i.StandsOn t ∨ Harbour.moored.Buried e i := by
  obtain ⟨e, there, ends, -⟩ := Harbour.ship_has_layouts
  have found : Harbour.moored.registry.entityFor? Harbour.ship = some _ := rfl
  cases found.symm.trans there
  exact ⟨_, _, _, Harbour.reach_moored, rfl, found, ends, rfl, rfl, rfl,
    indexes_stand_on_columns Harbour.reach_moored rfl ends rfl rfl⟩

/-- The start of a delivery's period is indexed and is no column of the deliveries. -/
theorem nested_key_index_has_no_column : ∃ e t indexes i, Reach Depot.sources Depot.scheduled ∧
    Depot.sources.verifier = .standard ∧ Depot.scheduled.registry.entityFor? Depot.delivery = some e ∧
    e.role = .table ∧ Depot.scheduled.KeysEnd e ∧ Depot.scheduled.tableOf e = .ok t ∧
    Depot.scheduled.indexesOf e = .ok indexes ∧ i ∈ indexes ∧ i.column.name = "start" ∧
    t.columns.map (·.name.name) = ["dock", "period", "goods"] ∧ ∀ column ∈ t.columns, column.name ≠ i.column := by
  have apart : ∀ {t : Schema.Table} {i : Schema.Index}, i.column.name = "start" →
      t.columns.map (·.name.name) = ["dock", "period", "goods"] → ∀ column ∈ t.columns, column.name ≠ i.column := by
    intro t i start names column hc same
    have there : column.name.name ∈ t.columns.map (·.name.name) := List.mem_map.mpr ⟨column, hc, rfl⟩
    rw [names, same, start] at there
    simp at there
  obtain ⟨e, there, ends⟩ := Depot.delivery_keys_end
  have found : Depot.scheduled.registry.entityFor? Depot.delivery = some _ := rfl
  cases found.symm.trans there
  exact ⟨_, _, _, _, Depot.reach_scheduled, rfl, found, rfl, ends, rfl, rfl, List.mem_cons_self, rfl, rfl, apart rfl rfl⟩

end WideColumn.Context
