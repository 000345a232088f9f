/-
  WideColumn.Proofs.Layout.ColumnTexts — the names of columns, as the store reads them.

  A column is refused if its name is taken, and names are told apart by their text and by whether
  they are quoted. The store reads the text: a name without quotes and the same name in quotes are one
  column. So a table has columns of different texts, except for such a pair, and there is one exactly
  if the properties of two places, one quoted and one not, have columns of one text. The flags of the
  properties are those of the names whatever seeds and overrides the names come from
  (`reach_flagged`), and a place out of a composite key is that of a registered entity too.

  Proved:
  - `mem_columnNames_iff`: the names of the columns are those of the places.
  - `texts_differ_unless_clash`: over every run, when the columns of a table have different texts.
  - `quoted_id_stands_beside_id`: a table with two columns of one text.
-/

import WideColumn.Proofs.Layout.Mentions

namespace WideColumn.Context

variable {src : Sources} {c : Context} {e : Entity} {t : Schema.Table}

/-- The columns of two places have one text, and one of them is quoted. -/
def Clashes (c : Context) (e : Entity) : Prop :=
  ∃ a b : Place, .ok a ∈ c.flat e ∧ .ok b ∈ c.flat e ∧ a.property.forceQuote = true ∧ b.property.forceQuote = false ∧
    a.property.columnName.name = b.property.columnName.name

theorem mem_columnNames_iff (built : c.tableOf e = .ok t) {i : Identifier} :
    i ∈ t.columns.map (·.name) ↔ ∃ place : Place, .ok place ∈ c.flat e ∧ place.property.columnName = i := by
  constructor
  · intro h
    obtain ⟨column, hc, rfl⟩ := List.mem_map.mp h
    obtain ⟨place, there, _, -, rfl⟩ := exists_place_of_column built hc
    exact ⟨place, there, rfl⟩
  · rintro ⟨place, there, rfl⟩
    obtain ⟨column, hc, _, -, rfl⟩ := exists_column_of_place built there
    exact List.mem_map.mpr ⟨_, hc, rfl⟩

theorem flagged_of_place (h : Reach src c) (he : e ∈ c.registry.entities) {place : Place}
    (there : .ok place ∈ c.flat e) : place.property.Flagged := by
  obtain ⟨x, hx, hp⟩ := exists_entity_of_place (reach_sound h).agree he there
  exact reach_flagged h x hx _ hp

/-- Over every run, the columns of a table have different names. Their texts are different if no
    column in quotes has the text of one without, and only then. -/
theorem texts_differ_unless_clash (h : Reach src c) (he : e ∈ c.registry.entities) (built : c.tableOf e = .ok t) :
    (t.columns.map (·.name)).Nodup ∧ ((t.columns.map (·.name.name)).Nodup ↔ ¬c.Clashes e) := by
  obtain ⟨-, placed, columns, -, laid⟩ := laid_of_tableOf built
  have distinct := laid.distinct_columns
  have texts : t.columns.map (·.name.name) = (t.columns.map (·.name)).map (·.name) := List.map_map.symm
  refine ⟨distinct, ?_⟩
  rw [texts, Identifier.nodup_names_iff distinct]
  constructor
  · intro apart ⟨a, b, ha, hb, quoted, unquoted, same⟩
    have there := fun {place : Place} (inFlat : .ok place ∈ c.flat e) =>
      (mem_columnNames_iff built).mpr ⟨place, inFlat, rfl⟩
    exact apart _ (there ha) _ (there hb) ((flagged_of_place h he ha).trans quoted)
      ((flagged_of_place h he hb).trans unquoted) same
  · intro none i hi j hj quoted unquoted same
    obtain ⟨a, ha, rfl⟩ := (mem_columnNames_iff built).mp hi
    obtain ⟨b, hb, rfl⟩ := (mem_columnNames_iff built).mp hj
    exact none ⟨a, b, ha, hb, (flagged_of_place h he ha).symm.trans quoted,
      (flagged_of_place h he hb).symm.trans unquoted, same⟩

/-- The columns of a ship are those of its berth and its crew. -/
theorem ship_texts_differ : ∃ e t, Reach Harbour.sources Harbour.moored ∧ e ∈ Harbour.moored.registry.entities ∧
    e.typeName = Harbour.ship ∧ Harbour.moored.tableOf e = .ok t ∧
    t.columns.map (·.name.name) = ["pier", "slot", "crew"] ∧
    (t.columns.map (·.name)).Nodup ∧ ((t.columns.map (·.name.name)).Nodup ↔ ¬Harbour.moored.Clashes e) :=
  ⟨_, _, Harbour.reach_moored, List.mem_cons_self, rfl, rfl, rfl,
    texts_differ_unless_clash Harbour.reach_moored List.mem_cons_self rfl⟩

/-- A place has a column `id` and another one that is `id` in quotes. -/
theorem quoted_id_stands_beside_id : ∃ e t, Reach Atlas.sources Atlas.charted ∧
    e ∈ Atlas.charted.registry.entities ∧ e.typeName = Atlas.place ∧ Atlas.charted.tableOf e = .ok t ∧
    t.columns.map (·.name.cql) = ["id", "\"id\"", "point", "label"] ∧ ¬(t.columns.map (·.name.name)).Nodup :=
  ⟨_, _, Atlas.reach_charted, List.mem_cons_self, rfl, rfl, rfl, by decide⟩

end WideColumn.Context
