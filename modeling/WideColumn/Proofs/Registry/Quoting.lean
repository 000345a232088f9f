/-
  WideColumn.Proofs.Registry.Quoting — a column is quoted as its property asks.

  A property says whether its column is to be quoted, and the name of the column says whether it
  is. The name is made from a text and the flag of the property together, when the property is
  described and again whenever an override is applied to it. So the two never part, and two columns
  have one name exactly if their properties ask for quotes alike and the texts are the same.

  Proved:
  - `Edit.flagged_on`: an override keeps name and flag together.
  - `reach_flagged`: they are together over every run.
  - `Flagged.columnName_eq_iff`: when two properties have one column name.
-/

import Mathlib.Data.List.Nodup
import WideColumn.Proofs.Attempt
import WideColumn.Proofs.Identifier.Spelling
import WideColumn.Proofs.Registry.Revisions

namespace WideColumn

open Attempt

/-- Identifiers are told apart by their texts, unless just one of them is quoted. -/
theorem Identifier.nodup_names_iff {is : List Identifier} (h : is.Nodup) :
    (is.map (·.name)).Nodup ↔
      ∀ i ∈ is, ∀ j ∈ is, i.caseSensitive = true → j.caseSensitive = false → i.name ≠ j.name := by
  rw [List.nodup_map_iff_inj_on h]
  constructor
  · intro inj i hi j hj quoted unquoted same
    rw [inj i hi j hj same, unquoted] at quoted
    cases quoted
  · intro apart i hi j hj same
    refine Identifier.ext same ?_
    cases quoted : i.caseSensitive <;> cases other : j.caseSensitive
    · rfl
    · exact absurd same.symm (apart j hj i hi other quoted)
    · exact absurd same (apart i hi j hj quoted other)
    · rfl

namespace Property

variable {p q : Property}

/-- The column's name is quoted if the property asks for quotes, and only then. -/
def Flagged (p : Property) : Prop := p.columnName.caseSensitive = p.forceQuote

theorem Flagged.columnName_eq_iff (hp : p.Flagged) (hq : q.Flagged) :
    p.columnName = q.columnName ↔ p.forceQuote = q.forceQuote ∧ p.columnName.name = q.columnName.name := by
  rw [← hp, ← hq]
  constructor
  · intro same
    rw [same]
    exact ⟨rfl, rfl⟩
  · exact fun ⟨flags, names⟩ => Identifier.ext names flags

theorem flagged_ofSeed {t : TypeName} {s : PropertySeed} (h : ofSeed t s = .ok p) : p.Flagged := by
  obtain ⟨columnName, named, rfl⟩ := ofSeed_eq_ok.mp h
  exact Identifier.caseSensitive_of_ofText named

end Property

/-- The columns of all properties are quoted as these ask. -/
def Entity.Flagged (e : Entity) : Prop := ∀ p ∈ e.properties, p.Flagged

theorem Entity.flagged_ofSeed {id : EntityId} {t : TypeName} {s : EntitySeed} {e : Entity}
    (h : Entity.ofSeed id t s = .ok e) : e.Flagged := by
  obtain ⟨name, properties, -, made, rfl⟩ := Entity.ofSeed_eq_ok.mp h
  intro p hp
  obtain ⟨seed, -, described⟩ := exists_of_mem_mapM made hp
  exact Property.flagged_ofSeed described

namespace Registry

variable {e e' : Entity}

/-- A property of the changed list was there, or is one that the change made. -/
theorem mem_modifyProperty {name : String} {f : Property → Property} {ps : List Property} {p : Property}
    (h : p ∈ modifyProperty name f ps) : p ∈ ps ∨ ∃ q ∈ ps, p = f q := by
  induction ps with
  | nil => cases h
  | cons q ps ih =>
    unfold modifyProperty at h
    split at h
    · rcases List.mem_cons.mp h with rfl | later
      · exact Or.inr ⟨q, List.mem_cons_self, rfl⟩
      · exact Or.inl (List.mem_cons_of_mem _ later)
    · rcases List.mem_cons.mp h with rfl | later
      · exact Or.inl List.mem_cons_self
      · rcases ih later with there | ⟨x, hx, same⟩
        · exact Or.inl (List.mem_cons_of_mem _ there)
        · exact Or.inr ⟨x, List.mem_cons_of_mem _ hx, same⟩

theorem caseSensitive_of_columnNameFor {current columnName : Identifier} {o : PropertyOverride}
    (h : columnNameFor current o = .ok columnName) : columnName.caseSensitive = o.forceQuote := by
  unfold columnNameFor at h
  split at h <;> exact Identifier.caseSensitive_of_ofText h

/-- An edit leaves the column of a property as it is, or makes name and flag together. -/
theorem Edit.flagged_on {edit : Edit} (h : edit.on e = .ok e') (he : e.Flagged) : e'.Flagged := by
  cases edit with
  | register t =>
    cases h
    exact he
  | storageName t table forceQuote =>
    obtain ⟨_, -, rfl⟩ := on_storageName_eq_ok_iff.mp h
    exact he
  | column t o =>
    obtain ⟨_, _, -, named, rfl⟩ := on_column_eq_ok_iff.mp h
    intro p hp
    rcases mem_modifyProperty hp with there | ⟨q, -, rfl⟩
    · exact he p there
    · exact caseSensitive_of_columnNameFor named

theorem Edit.flagged_revise {edit : Edit} (h : edit.revise e = .ok e') (he : e.Flagged) : e'.Flagged := by
  unfold Edit.revise at h
  split at h
  · exact flagged_on h he
  · cases h
    exact he

end Registry

/-- Over every run, the columns of every entity are quoted as its properties ask. -/
theorem Context.reach_flagged {src : Sources} {c : Context} (h : Reach src c) : ∀ e ∈ c.registry.entities, e.Flagged :=
  reach_entities (fun _ _ _ _ made _ => Entity.flagged_ofSeed made)
    (fun _ _ _ revised flagged => Registry.Edit.flagged_revise revised flagged) h

end WideColumn
