/-
  WideColumn.Proofs.Layout.KeyScalars — the scalars in a primary key.

  A scalar says of itself whether it may stand in a key. A key column that is one scalar is asked,
  and refused if the scalar may not. A key column with elements is never asked: a list of durations
  is taken for a key that a duration by itself is refused for. The scalars of a column are those of
  the property in its place, whether the column is frozen or comes out of a composite key.

  Proved:
  - `Fills.scalars`, `Fills.encloses_iff`: which scalars a column has, and which are elements.
  - `isKeyable_or_hasElements`: a scalar of a key column may stand there, or the column has elements.
  - `key_scalars_keyable_or_buried`: so a scalar that may not is buried, and every buried one is there.
  - `duration_is_buried_in_key`: one is.
-/

import WideColumn.Proofs.Layout.Refusal
import WideColumn.Proofs.Resolution.Elements

namespace WideColumn

namespace DataType

theorem encloses_frozen_iff {t s : DataType} : (frozen t).Encloses s ↔ t.Encloses s := by
  constructor
  · intro ⟨above, place, a, among, elements⟩
    rcases place.eq_root_or with ⟨rfl, -⟩ | ⟨x, part, within, inside, rfl⟩
    · cases among
    · cases List.mem_singleton.mp part
      refine ⟨within, inside, a, (List.mem_append.mp among).resolve_right fun outer => ?_, elements⟩
      cases List.mem_singleton.mp outer
      cases elements
  · intro ⟨above, place, a, among, elements⟩
    exact ⟨above ++ [frozen t], place.of_part List.mem_cons_self, a, List.mem_append_left _ among, elements⟩

theorem encloses_freeze_iff {t s : DataType} : t.freeze.Encloses s ↔ t.Encloses s := by
  unfold freeze
  split
  · exact encloses_frozen_iff
  · exact Iff.rfl

@[simp]
theorem scalars_freeze (t : DataType) : t.freeze.scalars = t.scalars := by
  unfold freeze
  split <;> rfl

end DataType

theorem Schema.Table.mem_columns_of_mem_primaryKey {t : Schema.Table} {column : Schema.Column}
    (h : column ∈ t.primaryKey) : column ∈ t.columns := List.mem_append_left _ h

namespace Context

variable {c : Context} {e : Entity} {t : Schema.Table} {place : Place} {column : Schema.Column} {kind : Scalar}

/-- The scalar may not stand in a key, and the property has it for an element. -/
def Buries (c : Context) (p : Property) (kind : Scalar) : Prop :=
  p.hasElements = true ∧ kind ∈ c.scalarsOf p ∧ kind.isKeyable = false

/-! ## Columns -/

theorem Fills.scalars (h : c.Fills place column) : column.dataType.scalars = c.scalarsOf place.property := by
  obtain ⟨dataType, resolved, rfl⟩ := h
  rw [← resolve_scalars resolved]
  unfold Place.column
  split <;> simp

theorem Fills.encloses_iff (h : c.Fills place column) :
    column.dataType.Encloses (.scalar kind) ↔ place.property.hasElements = true ∧ kind ∈ c.scalarsOf place.property := by
  obtain ⟨dataType, resolved, rfl⟩ := h
  rw [← resolve_encloses_iff resolved]
  unfold Place.column
  split
  · exact Iff.rfl
  · exact DataType.encloses_freeze_iff

/-- Without elements, a column is no other scalar than the one it has. -/
theorem Fills.dataType_eq_scalar (h : c.Fills place column) (bare : place.property.hasElements = false)
    (there : kind ∈ column.dataType.scalars) : column.dataType = .scalar kind := by
  rw [h.scalars] at there
  obtain ⟨dataType, resolved, rfl⟩ := h
  rw [← resolve_scalars resolved] at there
  rw [column_dataType_eq_scalar_iff]
  rcases isAtom_of_resolve resolved bare with ⟨other, rfl⟩ | ⟨ref, rfl⟩
  · rw [List.mem_singleton.mp there]
  · cases there

/-! ## Keys -/

/-- A scalar of a key column may stand in a key, or the column has elements. -/
theorem isKeyable_or_hasElements (h : c.tableOf e = .ok t) (hc : column ∈ t.primaryKey) (fills : c.Fills place column)
    (there : kind ∈ column.dataType.scalars) : kind.isKeyable = true ∨ place.property.hasElements = true := by
  cases elements : place.property.hasElements with
  | true => exact Or.inr rfl
  | false =>
    obtain ⟨-, placed, columns, -, laid⟩ := laid_of_tableOf h
    exact Or.inl (laid.isKeyable hc (fills.dataType_eq_scalar elements there))

/-- A scalar anywhere in the type of a key column may stand in a key, or is an element that nothing
    asked for it. All that are not asked for are there. -/
theorem key_scalars_keyable_or_buried (h : c.tableOf e = .ok t) :
    ∀ column ∈ t.primaryKey, ∃ place, .ok place ∈ c.flat e ∧ c.Fills place column ∧
      (∀ kind ∈ column.dataType.scalars, kind.isKeyable = true ∨ c.Buries place.property kind) ∧
      ∀ kind, c.Buries place.property kind → column.dataType.Encloses (.scalar kind) := by
  intro column hc
  obtain ⟨place, inFlat, fills⟩ := exists_place_of_column h (Schema.Table.mem_columns_of_mem_primaryKey hc)
  refine ⟨place, inFlat, fills, fun kind there => ?_, fun kind ⟨elements, among, _⟩ => ?_⟩
  · cases keyable : kind.isKeyable with
    | true => exact Or.inl rfl
    | false =>
      have elements := (isKeyable_or_hasElements h hc fills there).resolve_left (by simp [keyable])
      exact Or.inr ⟨elements, fills.scalars ▸ there, keyable⟩
  · exact fills.encloses_iff.mpr ⟨elements, among⟩

/-- The pier and the slot of a berth are the key of its ship. -/
theorem ship_key_scalars : ∃ e t, Reach Harbour.sources Harbour.moored ∧
    Harbour.moored.registry.entityFor? Harbour.ship = some e ∧ Harbour.moored.tableOf e = .ok t ∧
    t.primaryKey.map (·.name.name) = ["pier", "slot"] ∧
    ∀ column ∈ t.primaryKey, ∃ place, .ok place ∈ Harbour.moored.flat e ∧ Harbour.moored.Fills place column ∧
      (∀ kind ∈ column.dataType.scalars, kind.isKeyable = true ∨ Harbour.moored.Buries place.property kind) ∧
      ∀ kind, Harbour.moored.Buries place.property kind → column.dataType.Encloses (.scalar kind) :=
  ⟨_, _, Harbour.reach_moored, rfl, rfl, rfl, key_scalars_keyable_or_buried rfl⟩

/-- The key of a session is a frozen list of durations. -/
theorem duration_is_buried_in_key : ∃ e t column, Reach Website.sources Website.visited ∧
    Website.visited.registry.entityFor? Website.session = some e ∧ Website.visited.tableOf e = .ok t ∧
    column ∈ t.primaryKey ∧ column.dataType = .frozen (.list (.scalar .duration)) ∧
    .duration ∈ column.dataType.scalars ∧ Scalar.duration.isKeyable = false :=
  ⟨_, _, _, Website.reach_visited, rfl, rfl, List.mem_cons_self, rfl, List.mem_cons_self, rfl⟩

end Context

end WideColumn
