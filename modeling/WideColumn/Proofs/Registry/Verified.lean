/-
  WideColumn.Proofs.Registry.Verified — the verifier stands by what it accepted.

  An entity is verified when it enters, and afterwards overrides change its names. The rules
  defined here look at roles and at the names properties are declared with, never at a storage
  or column name, so they find nothing later that they did not find at first. A caller's rule
  may look at anything: what it found is known of the entity that entered only.

  Proved:
  - `Verifier.BuiltIn.findings_outline`: names apart, equal entities have equal findings.
  - `Verifier.standard_findings_eq_nil_iff`: what the rules find nothing in.
  - `reach_verified`: over every run, the rules defined here find nothing in any entity.
  - `reach_keyRules`: so each entity has the keys that they ask for.
-/

import WideColumn.Proofs.Registry.Faults
import WideColumn.Proofs.Registry.Revisions

namespace WideColumn

/-! ## Rules -/

namespace Verifier

/-- All rules are among those defined here. -/
def BuiltIn (v : Verifier) : Prop := ∀ report, .custom report ∉ v.rules

variable {v : Verifier} {e e' : Entity}

theorem standard_builtIn : standard.BuiltIn := by
  intro report h
  simp [standard] at h

theorem BuiltIn.ignoresIds (h : v.BuiltIn) : v.IgnoresIds := fun report there => absurd there (h report)

theorem Rule.findings_outline {rule : Rule} (builtIn : ∀ report, rule ≠ .custom report) (e : Entity) :
    rule.findings e.outline = rule.findings e := by
  obtain ⟨_, _, _, role, properties⟩ := e
  have keyClass : Property.keyClassFinding? ∘ Property.outline = Property.keyClassFinding? := rfl
  cases rule with
  | custom report => exact absurd rfl (builtIn report)
  | userType =>
    cases role with
    | userType =>
      simp only [findings, Entity.outline, Entity.keyProperties, List.filter_map, List.map_map]
      rfl
    | _ => rfl
  | keyClass =>
    cases role with
    | keyClass =>
      simp only [findings, Entity.outline, List.any_map, List.filterMap_map, keyClass]
      rfl
    | _ => rfl
  | tableKey =>
    cases role with
    | table =>
      simp only [findings, Entity.outline, Entity.compositeKeyCount, Entity.directKeyCount, List.countP_map]
      rfl
    | _ => rfl

theorem BuiltIn.findings_outline (h : v.BuiltIn) (e : Entity) : v.findings e.outline = v.findings e := by
  unfold findings
  simp only [List.flatMap]
  congr 1
  refine List.map_congr_left fun rule there => Rule.findings_outline (fun report custom => ?_) e
  exact h report (custom ▸ there)

theorem BuiltIn.findings_eq (h : v.BuiltIn) (same : e'.outline = e.outline) : v.findings e' = v.findings e := by
  rw [← h.findings_outline e', same, h.findings_outline]

end Verifier

/-! ## What the rules ask -/

/-- What the rules defined here ask of the keys of an entity. -/
structure Entity.KeyRules (e : Entity) : Prop where
  keyless : e.role = .userType → ∀ p ∈ e.properties, p.role = .regular
  partitioned : e.role = .keyClass → ∃ p ∈ e.properties, p.role = .partitionKey
  flat : e.role = .keyClass → ∀ p ∈ e.properties, p.role = .partitionKey ∨ ∃ order, p.role = .clusterKey order
  single : e.role = .table → e.compositeKeyCount ≤ 1
  unmixed : e.role = .table → (∃ q ∈ e.properties, q.role = .compositeKey) →
    ∀ p ∈ e.properties, p.role ≠ .partitionKey ∧ ∀ order, p.role ≠ .clusterKey order

theorem Property.keyClassFinding?_eq_none_iff {p : Property} :
    p.keyClassFinding? = none ↔ p.role = .partitionKey ∨ ∃ order, p.role = .clusterKey order := by
  unfold keyClassFinding?
  cases p.role <;> simp [Property.Role.isCompositeKey, Property.Role.isKey]

theorem Entity.compositeKeyCount_pos_iff {e : Entity} :
    0 < e.compositeKeyCount ↔ ∃ q ∈ e.properties, q.role = .compositeKey := by
  simp [compositeKeyCount, List.countP_pos_iff, Property.Role.isCompositeKey_iff]

theorem Entity.directKeyCount_eq_zero_iff {e : Entity} :
    e.directKeyCount = 0 ↔ ∀ p ∈ e.properties, p.role ≠ .partitionKey ∧ ∀ order, p.role ≠ .clusterKey order := by
  simp only [directKeyCount, List.countP_eq_zero]
  refine forall₂_congr fun p _ => ?_
  cases p.role <;> simp [Property.Role.isPartitionKey, Property.Role.isClusterKey]

namespace Verifier

variable {e : Entity}

theorem findings_userType_eq_nil_iff :
    Rule.userType.findings e = [] ↔ (e.role = .userType → ∀ p ∈ e.properties, p.role = .regular) := by
  have regular : ∀ role : Property.Role, role.isKey = false ↔ role = .regular := by
    intro role
    cases role <;> simp [Property.Role.isKey]
  cases role : e.role <;> simp [Rule.findings, role, Entity.keyProperties, regular]

theorem findings_keyClass_eq_nil_iff :
    Rule.keyClass.findings e = [] ↔
      (e.role = .keyClass → (∃ p ∈ e.properties, p.role = .partitionKey) ∧
        ∀ p ∈ e.properties, p.role = .partitionKey ∨ ∃ order, p.role = .clusterKey order) := by
  have partition : ∀ role : Property.Role, role.isPartitionKey = true ↔ role = .partitionKey := by
    intro role
    cases role <;> simp [Property.Role.isPartitionKey]
  cases role : e.role <;> simp [Rule.findings, role, Property.keyClassFinding?_eq_none_iff, partition]

theorem findings_tableKey_eq_nil_iff :
    Rule.tableKey.findings e = [] ↔
      (e.role = .table → e.compositeKeyCount ≤ 1 ∧ ((∃ q ∈ e.properties, q.role = .compositeKey) →
        ∀ p ∈ e.properties, p.role ≠ .partitionKey ∧ ∀ order, p.role ≠ .clusterKey order)) := by
  rw [← Entity.compositeKeyCount_pos_iff, ← Entity.directKeyCount_eq_zero_iff]
  cases role : e.role <;> simp [Rule.findings, role]

/-- The rules find nothing exactly in entities with the keys that they ask for. -/
theorem standard_findings_eq_nil_iff : standard.findings e = [] ↔ e.KeyRules := by
  have each : standard.findings e = [] ↔
      Rule.userType.findings e = [] ∧ Rule.keyClass.findings e = [] ∧ Rule.tableKey.findings e = [] := by
    simp [findings, standard]
  rw [each, findings_userType_eq_nil_iff, findings_keyClass_eq_nil_iff, findings_tableKey_eq_nil_iff]
  constructor
  · rintro ⟨userType, keyClass, table⟩
    exact ⟨userType, fun role => (keyClass role).1, fun role => (keyClass role).2, fun role => (table role).1,
      fun role => (table role).2⟩
  · intro h
    exact ⟨h.keyless, fun role => ⟨h.partitioned role, h.flat role⟩, fun role => ⟨h.single role, h.unmixed role⟩⟩

end Verifier

/-! ## Registries -/

namespace Context

open Registry

variable {src : Sources} {c : Context}

/-- The verifier finds nothing in any entity, over every run. -/
theorem reach_verified (builtIn : src.verifier.BuiltIn) (h : Reach src c) :
    ∀ e ∈ c.registry.entities, src.verifier.findings e = [] :=
  reach_entities (fun _ _ _ _ _ accepted => accepted)
    (fun _ _ _ revised verified => (builtIn.findings_eq (Edit.outline_revise revised)).trans verified) h

/-- Over every run, each entity has the keys that the rules ask for. -/
theorem reach_keyRules (standard : src.verifier = .standard) (h : Reach src c) :
    ∀ e ∈ c.registry.entities, e.KeyRules := by
  intro e he
  have accepted := reach_verified (standard ▸ Verifier.standard_builtIn) h e he
  rw [standard] at accepted
  exact Verifier.standard_findings_eq_nil_iff.mp accepted

end Context

end WideColumn
