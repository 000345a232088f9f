/-
  WideColumn.Proofs.Resolution.Modes — one property, resolved and in literal mode.

  The mode matters only where a user type is referred to. Literal mode refers to it by name
  and cannot fail there; resolved mode looks it up, and a store that has the user types of a
  list of names either knows the name or is the reason for the failure. What is checked of a
  type afterwards, for a map key and for a map value, depends on its shape, and its shape on
  the declared type alone (`Resolves.isCollection_iff`, `Resolves.containsMap_iff`). So both
  modes take the same way through a declared type, until the first name that is missing.

  Proved:
  - `Resolves.asLiteral`: what is resolved is resolved in literal mode too, and to the same
    type but for its references.
  - `Resolves.resolved_or_missing`: what is resolved in literal mode is resolved with the
    store, or fails for a name in it that the store does not have.
  - `errorClass_of_literal`: literal mode never fails for a user type that is missing.
  - `modes_differ_in_references`: all this of every property, with a hint or without.
-/

import WideColumn.Proofs.Resolution.Nesting

namespace WideColumn

namespace DataType

/-! ## Types with literal references -/

mutual

/-- The type with every user type referred to by its name alone. -/
def asLiteral : DataType → DataType
  | .scalar k => .scalar k
  | .list e => .list e.asLiteral
  | .set e => .set e.asLiteral
  | .map k v => .map k.asLiteral v.asLiteral
  | .tuple es => .tuple (asLiteralAll es)
  | .userType r => .userType (.literal r.name)
  | .frozen t => .frozen t.asLiteral

def asLiteralAll : List DataType → List DataType
  | [] => []
  | e :: es => e.asLiteral :: asLiteralAll es

end

theorem asLiteralAll_eq_map (es : List DataType) : asLiteralAll es = es.map asLiteral := by
  induction es with
  | nil => rfl
  | cons e es ih => simp [asLiteralAll, ih]

@[simp]
theorem asLiteral_wrap (d : Declared) (t : DataType) : (d.wrap t).asLiteral = d.wrap t.asLiteral := by
  cases d <;> rfl

theorem asLiteral_boxed (t : DataType) : t.boxed.asLiteral = t.asLiteral.boxed := by
  cases t <;> rfl

/-- Scalars in a tuple refer to nothing. -/
theorem asLiteral_tuple_scalars (kinds : List Scalar) :
    (tuple (kinds.map .scalar)).asLiteral = .tuple (kinds.map .scalar) := by
  rw [asLiteral, asLiteralAll_eq_map, List.map_map]
  rfl

@[simp]
theorem references_scalar (kind : Scalar) : (scalar kind).references = [] := rfl

@[simp]
theorem references_list (e : DataType) : (list e).references = e.references := by
  simp [references, nodes]

@[simp]
theorem references_set (e : DataType) : (set e).references = e.references := by
  simp [references, nodes]

@[simp]
theorem references_map (k v : DataType) : (map k v).references = k.references ++ v.references := by
  simp [references, nodes]

@[simp]
theorem references_userType (r : UserTypeRef) : (userType r).references = [r] := by
  simp [references, nodes]

theorem references_tuple_scalars (kinds : List Scalar) : (tuple (kinds.map .scalar)).references = [] := by
  rw [references, nodes_tuple_scalars]
  simp

@[simp]
theorem references_freeze (t : DataType) : t.freeze.references = t.references := by
  unfold freeze
  split
  · simp [references, nodes]
  · rfl

@[simp]
theorem references_boxed (t : DataType) : t.boxed.references = t.references := by
  cases t <;> simp [boxed, references, nodes]

@[simp]
theorem references_wrap (d : Declared) (t : DataType) : (d.wrap t).references = t.references := by
  cases d <;> simp [Declared.wrap]

end DataType

namespace Context

open Attempt
open Resolution (Mode Error)

variable {c : Context} {mode : Mode} {p : Property} {d : Declared} {t u : DataType} {keyspace : Option Identifier}
  {names : Std.ExtTreeSet Identifier}

/-! ## References -/

/-- A reference is to the name, or the store does not have the name and a look-up fails for it. -/
theorem userTypeRef_cases (store : c.userTypes = some (.ofNames keyspace names)) (mode : Mode) (name : Identifier) :
    (∃ ref, c.userTypeRef mode name = .ok ref ∧ ref.name = name) ∨
      (names.contains name = false ∧ c.userTypeRef mode name = .error (.missingUserType name)) := by
  cases mode with
  | literal => exact Or.inl ⟨_, rfl, rfl⟩
  | resolved =>
    simp only [userTypeRef, store, UserTypeStore.ofNames]
    cases names.contains name with
    | true => exact Or.inl ⟨_, rfl, rfl⟩
    | false => exact Or.inr ⟨rfl, rfl⟩

theorem userTypeRef_name (store : c.userTypes = some (.ofNames keyspace names)) {name : Identifier} {ref : UserTypeRef}
    (h : c.userTypeRef mode name = .ok ref) : ref.name = name := by
  rcases userTypeRef_cases store mode name with ⟨_, found, same⟩ | ⟨-, failed⟩
  · cases h.symm.trans found
    exact same
  · cases h.symm.trans failed

/-! ## Declared types -/

theorem Resolves.asLiteral (store : c.userTypes = some (.ofNames keyspace names)) (h : c.Resolves .resolved d t) :
    c.Resolves .literal d t.asLiteral := by
  induction h with
  | @userType n e ref user found =>
    rw [DataType.asLiteral, userTypeRef_name store found]
    exact .userType user rfl
  | scalar user scalar => exact .scalar user scalar
  | list _ ih =>
    rw [DataType.asLiteral, DataType.asLiteral_boxed]
    exact .list ih
  | set _ ih =>
    rw [DataType.asLiteral, DataType.asLiteral_boxed]
    exact .set ih
  | map key single plain value flat ihKey ihValue =>
    rw [DataType.asLiteral, DataType.asLiteral_boxed]
    have single' := ihKey.isCollection_iff.mpr (key.isCollection_iff.mp single)
    have flat' := ihValue.containsMap_iff.mpr (value.containsMap_iff.mp flat)
    exact .map ihKey single' plain ihValue flat'

/-- A name in the type is not in the store, and the declared type fails for it. -/
def Misses (c : Context) (p : Property) (names : Std.ExtTreeSet Identifier) (d : Declared) (u : DataType) : Prop :=
  ∃ n ∈ u.references.map (·.name), names.contains n = false ∧
    ∀ x, c.resolveDeclared .resolved p d (.error x) = .error (.missingUserType n)

theorem Resolves.resolved_or_missing (store : c.userTypes = some (.ofNames keyspace names))
    (h : c.Resolves .literal d u) : (∃ t, c.Resolves .resolved d t ∧ t.asLiteral = u) ∨ c.Misses p names d u := by
  induction h with
  | @userType n e ref user found =>
    cases found
    rcases userTypeRef_cases store .resolved e.storageName with ⟨ref, found, same⟩ | ⟨missing, failed⟩
    · refine Or.inl ⟨_, .userType user found, ?_⟩
      rw [DataType.asLiteral, same]
    · refine Or.inr ⟨e.storageName, by simp [UserTypeRef.literal], missing, fun x => ?_⟩
      simp only [resolveDeclared_named, user, failed, Except.map]
  | scalar user scalar => exact Or.inl ⟨_, .scalar user scalar, rfl⟩
  | list _ ih =>
    rcases ih with ⟨t, found, rfl⟩ | ⟨n, there, missing, failed⟩
    · refine Or.inl ⟨_, .list found, ?_⟩
      rw [DataType.asLiteral, DataType.asLiteral_boxed]
    · refine Or.inr ⟨n, by simpa using there, missing, fun x => ?_⟩
      rw [resolveDeclared_list, failed, Except.map]
  | set _ ih =>
    rcases ih with ⟨t, found, rfl⟩ | ⟨n, there, missing, failed⟩
    · refine Or.inl ⟨_, .set found, ?_⟩
      rw [DataType.asLiteral, DataType.asLiteral_boxed]
    · refine Or.inr ⟨n, by simpa using there, missing, fun x => ?_⟩
      rw [resolveDeclared_set, failed, Except.map]
  | @map k v keyType valueType key single plain value flat ihKey ihValue =>
    rcases ihKey with ⟨t, foundKey, rfl⟩ | ⟨n, there, missing, failed⟩
    · have single' := foundKey.isCollection_iff.mpr (key.isCollection_iff.mp single)
      rcases ihValue with ⟨s, foundValue, rfl⟩ | ⟨n, there, missing, failed⟩
      · have flat' := foundValue.containsMap_iff.mpr (value.containsMap_iff.mp flat)
        refine Or.inl ⟨_, .map foundKey single' plain foundValue flat', ?_⟩
        rw [DataType.asLiteral, DataType.asLiteral_boxed]
      · -- the key is resolved and accepted, and the value fails before it is looked at
        refine Or.inr ⟨n, ?_, missing, fun x => ?_⟩
        · rw [DataType.references_map, DataType.references_boxed, List.map_append]
          exact List.mem_append_right _ there
        · rw [resolveDeclared_map, resolveDeclared_eq_ok_iff.mpr foundKey, failed]
          simp [Except.bind, mapType, foundKey.unfrozen, single', plain, bind]
    · refine Or.inr ⟨n, ?_, missing, fun x => ?_⟩
      · rw [DataType.references_map, List.map_append]
        exact List.mem_append_left _ there
      · rw [resolveDeclared_map, failed, Except.bind]

/-- Literal mode fails for the fallback, or for a reason that has nothing to do with the store. -/
theorem errorClass_of_resolveDeclared {fallback x : Error}
    (h : c.resolveDeclared .literal p d (.error fallback) = .error x) :
    x = fallback ∨ x.errorClass ≠ .missingUserType := by
  rcases resolveDeclared_error_cases h with own | ⟨name, failed⟩ | fault
  · cases own
    exact Or.inl rfl
  · cases failed
  · right
    cases fault <;> simp [Error.errorClass]

/-! ## Hints -/

/-- A hint that is for no user type gives the same type in both modes, one without references. -/
theorem resolveHint_of_no_name {hint : TypeHint} (plain : hint.userTypeName? = none) :
    c.resolveHint .literal p hint = c.resolveHint .resolved p hint ∧
      ∀ t, c.resolveHint .resolved p hint = .ok t → t.asLiteral = t := by
  cases hint with
  | userType _ _ => cases plain
  | tuple kinds =>
    refine ⟨rfl, fun t h => ?_⟩
    obtain ⟨-, rfl⟩ := resolveHint_tuple_eq_ok_iff.mp h
    exact DataType.asLiteral_tuple_scalars kinds
  | _ =>
    refine ⟨rfl, fun t h => ?_⟩
    cases h
    rfl

theorem resolveHint_literal (store : c.userTypes = some (.ofNames keyspace names)) {hint : TypeHint}
    (h : c.resolveHint .resolved p hint = .ok t) : c.resolveHint .literal p hint = .ok t.asLiteral := by
  cases named : hint.userTypeName? with
  | none =>
    obtain ⟨same, plain⟩ := resolveHint_of_no_name (c := c) (p := p) named
    rw [same, plain t h, h]
  | some n =>
    cases hint with
    | userType name literal =>
      obtain ⟨ref, found, noMap, rfl⟩ := resolveHint_userType_eq_ok_iff.mp h
      refine resolveHint_userType_eq_ok_iff.mpr ⟨.literal name, by rw [ite_self]; rfl, noMap, ?_⟩
      rw [DataType.asLiteral_wrap, DataType.asLiteral, userTypeRef_name store found]
    | _ => cases named

theorem resolveHint_resolved_or_missing (store : c.userTypes = some (.ofNames keyspace names)) {hint : TypeHint}
    (h : c.resolveHint .literal p hint = .ok u) :
    (∃ t, c.resolveHint .resolved p hint = .ok t ∧ t.asLiteral = u) ∨
      ∃ n ∈ u.references.map (·.name), names.contains n = false ∧
        c.resolveHint .resolved p hint = .error (.missingUserType n) := by
  cases named : hint.userTypeName? with
  | none =>
    obtain ⟨same, plain⟩ := resolveHint_of_no_name (c := c) (p := p) named
    rw [same] at h
    exact Or.inl ⟨u, h, plain u h⟩
  | some n =>
    cases hint with
    | userType name literal =>
      obtain ⟨ref, found, noMap, rfl⟩ := resolveHint_userType_eq_ok_iff.mp h
      rw [ite_self] at found
      cases found
      rcases userTypeRef_cases store (if literal then .literal else .resolved) name with
        ⟨ref, found, same⟩ | ⟨missing, failed⟩
      · refine Or.inl ⟨_, resolveHint_userType_eq_ok_iff.mpr ⟨ref, found, noMap, rfl⟩, ?_⟩
        rw [DataType.asLiteral_wrap, DataType.asLiteral, same]
      · refine Or.inr ⟨name, by simp [UserTypeRef.literal], missing, ?_⟩
        rw [resolveHint, failed]
        rfl
    | _ => cases named

theorem errorClass_of_resolveHint {hint : TypeHint} {x : Error} (h : c.resolveHint .literal p hint = .error x) :
    x.errorClass ≠ .missingUserType := by
  cases hint with
  | tuple kinds =>
    rw [resolveHint] at h
    split at h <;> cases h
    simp [Error.errorClass]
  | userType name literal =>
    rw [resolveHint, ite_self] at h
    rcases bind_eq_error_iff.mp h with failed | ⟨ref, -, failed⟩
    · cases failed
    · split at failed <;> cases failed
      simp [Error.errorClass]
  | _ => cases h

/-! ## Properties -/

theorem resolve_literal (store : c.userTypes = some (.ofNames keyspace names)) (h : c.resolve .resolved p = .ok t) :
    c.resolve .literal p = .ok t.asLiteral := by
  unfold resolve resolveWith at h ⊢
  cases hint : p.hint with
  | none =>
    rw [hint] at h
    exact resolveDeclared_eq_ok_iff.mpr ((resolveDeclared_eq_ok_iff.mp h).asLiteral store)
  | some hint' =>
    rw [hint] at h
    exact resolveHint_literal store h

theorem resolve_resolved_or_missing (store : c.userTypes = some (.ofNames keyspace names))
    (h : c.resolve .literal p = .ok u) :
    (∃ t, c.resolve .resolved p = .ok t ∧ t.asLiteral = u) ∨
      ∃ n ∈ u.references.map (·.name), names.contains n = false ∧ c.resolve .resolved p = .error (.missingUserType n) := by
  unfold resolve resolveWith at h ⊢
  cases hint : p.hint with
  | none =>
    rw [hint] at h
    rcases (resolveDeclared_eq_ok_iff.mp h).resolved_or_missing store (p := p) with ⟨t, found, same⟩ | misses
    · exact Or.inl ⟨t, resolveDeclared_eq_ok_iff.mpr found, same⟩
    · obtain ⟨n, there, missing, failed⟩ := misses
      exact Or.inr ⟨n, there, missing, failed _⟩
  | some hint' =>
    rw [hint] at h
    exact resolveHint_resolved_or_missing store h

theorem errorClass_of_literal {x : Error} (h : c.resolve .literal p = .error x) : x.errorClass ≠ .missingUserType := by
  unfold resolve resolveWith at h
  split at h
  · exact errorClass_of_resolveHint h
  · rcases errorClass_of_resolveDeclared h with rfl | other
    · simp [Error.errorClass]
    · exact other

/-- Both modes give the same type but for its references, unless the store has not the name of
    one. Then resolved mode fails for this name, and literal mode never fails for one. -/
theorem modes_differ_in_references (c : Context) (p : Property) :
    (∀ keyspace names, c.userTypes = some (.ofNames keyspace names) →
      (∀ t, c.resolve .resolved p = .ok t → c.resolve .literal p = .ok t.asLiteral) ∧
        ∀ u, c.resolve .literal p = .ok u →
          (∃ t, c.resolve .resolved p = .ok t ∧ t.asLiteral = u) ∨
            ∃ n ∈ u.references.map (·.name), names.contains n = false ∧
              c.resolve .resolved p = .error (.missingUserType n)) ∧
      ∀ x, c.resolve .literal p = .error x → ∀ n, x ≠ .missingUserType n ∧ x ≠ .noUserTypeStore n := by
  refine ⟨fun keyspace names store => ⟨fun t => resolve_literal store, fun u => resolve_resolved_or_missing store⟩, ?_⟩
  intro x failed n
  have other := errorClass_of_literal failed
  constructor
  · rintro rfl
    exact other rfl
  · rintro rfl
    exact other rfl

end Context

/-- What customers are stored under. -/
def Shop.name : Identifier := ⟨"shop", true, by simp [Identifier.Legal]⟩

/-- A shop whose store has exactly these user types. -/
def Shop.storing (names : Std.ExtTreeSet Identifier) : Context := ⟨sources, ordered, some (.ofNames none names)⟩

/-- The takings refer to customers, whom the store may have or not. A property of a type that
    nobody knows fails for that in both stores. -/
theorem Context.takings_in_both_modes :
    (∃ t, (Shop.storing {Shop.name}).resolve .resolved Shop.takings = .ok t ∧
      t.references = [.resolved Shop.name] ∧
      (Shop.storing {Shop.name}).resolve .literal Shop.takings = .ok t.asLiteral) ∧
    (∃ u, (Shop.storing {}).resolve .literal Shop.takings = .ok u ∧ u.references = [.literal Shop.name] ∧
      ∃ n ∈ u.references.map (·.name), ({} : Std.ExtTreeSet Identifier).contains n = false ∧
        (Shop.storing {}).resolve .resolved Shop.takings = .error (.missingUserType n)) ∧
    ∃ x, (Shop.storing {}).resolve .literal { Shop.takings with declared := .named ⟨"Ghost"⟩ } = .error x ∧
      ∀ n, x ≠ .missingUserType n ∧ x ≠ .noUserTypeStore n := by
  obtain ⟨known, -⟩ := modes_differ_in_references (Shop.storing {Shop.name}) Shop.takings
  obtain ⟨unknown, -⟩ := modes_differ_in_references (Shop.storing {}) Shop.takings
  obtain ⟨-, other⟩ := modes_differ_in_references (Shop.storing {}) { Shop.takings with declared := .named ⟨"Ghost"⟩ }
  refine ⟨⟨_, rfl, rfl, (known none _ rfl).1 _ rfl⟩, ⟨_, rfl, rfl, ?_⟩, ⟨_, rfl, other _ rfl⟩⟩
  rcases (unknown none _ rfl).2 _ rfl with ⟨t, found, -⟩ | missing
  · cases found
  · exact missing

end WideColumn
