/-
  WideColumn.Proofs.Layout.Fields — the fields of a user type.

  A user type has a field for each property of its entity, in order, named as the property's column.
  Nothing asks whether a name is taken. Two columns of one name are refused in a table; two fields of
  one name are both there in a user type, and only the first of them is ever found. It takes no two
  properties of one name for that: texts without quotes are folded to lower case, and an override
  gives a column any name.

  Proved:
  - `userTypeOf_eq_ok_iff`: which user type an entity has, and when it has one.
  - `nodup_fields_iff`: the fields have different names if the columns of the properties do.
  - `finds_fields_iff`: every field is found by its name if one name stands for one type.
  - `fields_are_columns`: both, over every run and told from texts and flags.
  - `point_has_two_fields_x`: a user type with two fields of one name.
-/

import WideColumn.Layout.UserType
import WideColumn.Proofs.Layout.Flattening
import WideColumn.Proofs.Registry.Quoting

namespace WideColumn

open Attempt
open Resolution (Mode)

/-- No two properties that are quoted alike have columns of one text. -/
def Entity.Apart (e : Entity) : Prop :=
  e.properties.Pairwise fun p q => p.forceQuote = q.forceQuote → p.columnName.name ≠ q.columnName.name

namespace Context

variable {src : Sources} {c : Context} {e : Entity} {p : Property} {f : Schema.UserType.Field} {u : Schema.UserType}

/-- The field has the name of the property's column, and its type in literal mode. -/
def FieldOf (c : Context) (p : Property) (f : Schema.UserType.Field) : Prop :=
  f.name = p.columnName ∧ c.resolve .literal p = .ok f.dataType

/-! ## One field each -/

theorem fieldOf_eq_ok_iff : c.fieldOf p = .ok f ↔ c.FieldOf p f := by
  refine bind_eq_ok_iff.trans ⟨?_, ?_⟩
  · intro ⟨dataType, resolved, made⟩
    injection made with made
    subst made
    exact ⟨rfl, mapError_eq_ok_iff.mp resolved⟩
  · intro ⟨named, resolved⟩
    exact ⟨f.dataType, mapError_eq_ok_iff.mpr resolved, by rw [← named]; rfl⟩

/-- Properties of one column and one type have one field. -/
theorem FieldOf.eq_of_same {q : Property} {g : Schema.UserType.Field} (hf : c.FieldOf p f) (hg : c.FieldOf q g)
    (column : q.columnName = p.columnName) (type : c.resolve .literal q = c.resolve .literal p) : g = f := by
  obtain ⟨name, dataType⟩ := f
  obtain ⟨name', dataType'⟩ := g
  obtain ⟨named, resolved⟩ := hf
  obtain ⟨named', resolved'⟩ := hg
  have names : name' = name := named'.trans (column.trans named.symm)
  have types : dataType' = dataType := Except.ok.inj (resolved'.symm.trans (type.trans resolved))
  rw [names, types]

/-- An entity has a user type if it has properties and each of them has a type, and then a field
    stands for each, in order. -/
theorem userTypeOf_eq_ok_iff :
    c.userTypeOf e = .ok u ↔
      e.properties ≠ [] ∧ u.name = e.storageName ∧ List.Forall₂ c.FieldOf e.properties u.fields := by
  unfold userTypeOf
  rw [← List.isEmpty_eq_false_iff]
  cases e.properties.isEmpty with
  | true => simp
  | false =>
    have each : ∀ fields, e.properties.mapM c.fieldOf = .ok fields ↔ List.Forall₂ c.FieldOf e.properties fields := by
      intro fields
      simp only [mapM_eq_ok_iff, fieldOf_eq_ok_iff]
    refine Iff.trans bind_eq_ok_iff ?_
    simp only [each, true_and]
    constructor
    · intro ⟨fields, found, made⟩
      cases made
      exact ⟨rfl, found⟩
    · intro ⟨named, found⟩
      exact ⟨u.fields, found, by rw [← named]; rfl⟩

/-! ## Names of fields -/

theorem names_of_fields {ps : List Property} {fs : List Schema.UserType.Field} (h : List.Forall₂ c.FieldOf ps fs) :
    fs.map (·.name) = ps.map (·.columnName) :=
  map_eq_of_forall₂ (fun _ _ field => field.1) h

theorem nodup_fields_iff (flagged : e.Flagged) (fields : List.Forall₂ c.FieldOf e.properties u.fields) :
    (u.fields.map (·.name)).Nodup ↔ e.Apart := by
  rw [names_of_fields fields, List.Nodup, List.pairwise_map]
  refine List.Pairwise.iff_of_mem fun {p q} hp hq => ?_
  rw [Ne, (flagged p hp).columnName_eq_iff (flagged q hq), not_and]

/-- A field is found by its name, unless one before it has the same name and another type. -/
theorem finds_fields_iff (fields : List.Forall₂ c.FieldOf e.properties u.fields) :
    (∀ f ∈ u.fields, u.field? f.name = some f) ↔
      ∀ p ∈ e.properties, ∀ q ∈ e.properties, p.columnName = q.columnName →
        c.resolve .literal p = c.resolve .literal q := by
  constructor
  · intro found p hp q hq same
    have fieldOf : ∀ p ∈ e.properties, ∃ f ∈ u.fields, c.FieldOf p f := fun _ => exists_of_mem_right fields.flip
    obtain ⟨f, hf, named, resolved⟩ := fieldOf p hp
    obtain ⟨g, hg, named', resolved'⟩ := fieldOf q hq
    have one : f.name = g.name := by rw [named, named', same]
    have alike : f = g := Option.some.inj ((found f hf).symm.trans (one ▸ found g hg))
    rw [resolved, resolved', alike]
  · intro one f hf
    obtain ⟨g, hg, same, found⟩ := exists_found_of_mem Schema.UserType.Field.name hf
    obtain ⟨p, hp, fieldOf⟩ := exists_of_mem_right fields hf
    obtain ⟨q, hq, fieldOf'⟩ := exists_of_mem_right fields hg
    have column : q.columnName = p.columnName := by rw [← fieldOf.1, ← fieldOf'.1, same]
    rwa [fieldOf.eq_of_same fieldOf' column (one q hq p hp column)] at found

end Context

end WideColumn

/-! ## An atlas

  A place has a point and a label. Both have a small and a large x; a label writes the large one in
  quotes. The place has an `id` with quotes beside the one without.
-/

namespace WideColumn.Atlas

open Registry

def place : TypeName := ⟨"Place"⟩
def point : TypeName := ⟨"Point"⟩
def label : TypeName := ⟨"Label"⟩
def code : TypeName := ⟨"Code"⟩

def property (name : String) (declared : Declared) (role : Property.Role) (column : Option String) (quoted : Bool) :
    PropertySeed :=
  ⟨name, declared, role, column, none, [], quoted⟩

def placeSeed : EntitySeed := ⟨some "places", true, .table,
  [property "id" (.named code) .partitionKey none false,
   property "code" (.named code) .regular (some "id") true,
   property "point" (.named point) .regular none false,
   property "label" (.named label) .regular none false]⟩

/-- A small and a large x. -/
def xSeed (name : String) (quoted : Bool) : EntitySeed := ⟨some name, true, .userType,
  [property "x" (.named code) .regular none false, property "X" (.list (.named code)) .regular none quoted]⟩

def describe (t : TypeName) : Except DescribeError EntitySeed :=
  if t = place then .ok placeSeed
  else if t = point then .ok (xSeed "point" false)
  else if t = label then .ok (xSeed "label" true)
  else .error (.notFound t)

def sources : Sources := ⟨⟨describe⟩, ⟨[(code, .text)]⟩, .empty, .standard⟩

/-- What registering a place leaves. -/
def withPlace : Registry :=
  ([(place, placeSeed), (point, xSeed "point" false), (label, xSeed "label" true)].foldlM
    (fun (r : Registry) t => r.enter sources t.1 t.2) empty).toOption.getD empty

/-- The store has every user type. -/
def charted : Context := ⟨sources, withPlace, some ⟨fun name => some (.resolved name)⟩⟩

theorem registers_place : Registers sources empty place ⟨withPlace, [place, point, label], .ok ⟨0⟩⟩ := by
  have visits : Visits sources empty [place] _ :=
    .entered rfl rfl rfl (.entered rfl rfl rfl (.nil _) rfl (.entered rfl rfl rfl (.nil _) rfl (.nil _))) rfl (.nil _)
  exact .succeeded rfl rfl rfl visits rfl

theorem reach_charted : Context.Reach sources charted := Context.reach_first registers_place charted.userTypes

end WideColumn.Atlas

namespace WideColumn.Context

open Registry

variable {src : Sources} {c : Context}

/-- A user type has the fields that its entity has properties for. Over every run, their names are
    different if no two properties that are quoted alike have columns of one text, and only then;
    and each is found by its name if properties of one column have one type, and only then. -/
theorem fields_are_columns (h : Reach src c) {e : Entity} (he : e ∈ c.registry.entities) {u : Schema.UserType}
    (built : c.userTypeOf e = .ok u) :
    List.Forall₂ c.FieldOf e.properties u.fields ∧
      ((u.fields.map (·.name)).Nodup ↔ e.Apart) ∧
      ((∀ f ∈ u.fields, u.field? f.name = some f) ↔
        ∀ p ∈ e.properties, ∀ q ∈ e.properties, p.columnName = q.columnName →
          c.resolve .literal p = c.resolve .literal q) := by
  obtain ⟨-, -, fields⟩ := userTypeOf_eq_ok_iff.mp built
  exact ⟨fields, nodup_fields_iff (reach_flagged h e he) fields, finds_fields_iff fields⟩

/-- The fields of a label are `x` and, in quotes, `X`. -/
theorem label_fields_are_columns : ∃ e u, Reach Atlas.sources Atlas.charted ∧ e ∈ Atlas.charted.registry.entities ∧
    e.typeName = Atlas.label ∧ Atlas.charted.userTypeOf e = .ok u ∧ u.fields.map (·.name.name) = ["x", "X"] ∧
    List.Forall₂ Atlas.charted.FieldOf e.properties u.fields ∧
      ((u.fields.map (·.name)).Nodup ↔ e.Apart) ∧
      ((∀ f ∈ u.fields, u.field? f.name = some f) ↔
        ∀ p ∈ e.properties, ∀ q ∈ e.properties, p.columnName = q.columnName →
          Atlas.charted.resolve .literal p = Atlas.charted.resolve .literal q) := by
  have there : ∃ e ∈ Atlas.charted.registry.entities, e.typeName = Atlas.label ∧
      ∃ u, Atlas.charted.userTypeOf e = .ok u ∧ u.fields.map (·.name.name) = ["x", "X"] :=
    ⟨_, List.mem_cons_of_mem _ (List.mem_cons_of_mem _ List.mem_cons_self), rfl, _, rfl, rfl⟩
  obtain ⟨e, he, type, u, built, names⟩ := there
  exact ⟨e, u, Atlas.reach_charted, he, type, built, names, fields_are_columns Atlas.reach_charted he built⟩

/-- The fields of a point are both `x`, and the second is not found. -/
theorem point_has_two_fields_x : ∃ e u, Reach Atlas.sources Atlas.charted ∧ e ∈ Atlas.charted.registry.entities ∧
    e.typeName = Atlas.point ∧ Atlas.charted.userTypeOf e = .ok u ∧ ¬(u.fields.map (·.name)).Nodup ∧
    ∃ f ∈ u.fields, u.field? f.name ≠ some f :=
  ⟨_, _, Atlas.reach_charted, List.mem_cons_of_mem _ List.mem_cons_self, rfl, rfl, by decide, _,
    List.mem_cons_of_mem _ List.mem_cons_self, by decide⟩

end WideColumn.Context
