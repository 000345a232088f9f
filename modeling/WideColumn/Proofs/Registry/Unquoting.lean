/-
  WideColumn.Proofs.Registry.Unquoting — overrides that state nothing.

  An override with no name and no quoting flag asks for nothing. For a type this is so: with
  neither a table nor the flag, the storage name stays, quoted or not. For a property it is not:
  without a column, the column that is there is given the flag of the override, and a flag that
  is absent takes the quotes off. A quoted column is folded to lower case, or is refused where
  its text is reserved or no plain name, and its property asks for quotes no longer. Where no
  column is quoted this gives each its own name again.

  So what such overrides do is exactly this: they take the quotes off the columns that they
  name, in order, as far as these can do without.

  Proved:
  - `Edit.revise_silent_eq_ok_iff`, `Edit.reviseAll_silent_eq_ok_iff`: what one such edit, and a list
    of them, makes of an entity.
  - `bare_eq_self_iff`: that is nothing exactly if none of the columns is quoted.
  - `exists_quiet`: on registered types such edits ask nothing and leave every index.
  - `exists_bared`: they are done up to one whose column cannot do without quotes.
  - `silent_overrides_take_off_quotes`: over every run, when they succeed, what they leave, and that
    they change nothing exactly if no property they name is quoted.
-/

import WideColumn.Proofs.Registry.Repeating

namespace WideColumn

/-! ## Overrides that state nothing -/

/-- No name is given, and no quotes are asked for. -/
def PropertyOverride.Silent (o : PropertyOverride) : Prop := o.columnName = none ∧ o.forceQuote = false

structure EntityOverride.Silent (o : EntityOverride) : Prop where
  table : o.tableName = none
  unquoted : o.forceQuote = false
  properties : ∀ p ∈ o.properties, p.Silent

def Overrides.Silent (o : Overrides) : Prop := ∀ x ∈ o.entities, x.Silent

/-- Every type that the overrides name is registered, and has the properties that they name. -/
def Overrides.KnownTo (o : Overrides) (r : Registry) : Prop :=
  ∀ x ∈ o.entities, ∃ e, r.entityFor? x.typeName = some e ∧ ∀ q ∈ x.properties, ∃ p, e.property? q.name = some p

/-- The property is one that the overrides name. -/
def Overrides.Means (o : Overrides) (r : Registry) (p : Property) : Prop :=
  ∃ x ∈ o.entities, ∃ q ∈ x.properties, ∃ e, r.entityFor? x.typeName = some e ∧ e.property? q.name = some p

def Registry.Edit.Silent : Registry.Edit → Prop
  | .register _ => True
  | .storageName _ table forceQuote => table = none ∧ forceQuote = false
  | .column _ o => o.Silent

theorem Overrides.Silent.edits {o : Overrides} (h : o.Silent) : ∀ edit ∈ Registry.Edit.ofOverrides o, edit.Silent := by
  intro edit there
  obtain ⟨x, hx, there⟩ := List.mem_flatMap.mp there
  rcases List.mem_cons.mp there with rfl | there
  · trivial
  rcases List.mem_cons.mp there with rfl | there
  · exact ⟨(h x hx).table, (h x hx).unquoted⟩
  obtain ⟨q, hq, rfl⟩ := List.mem_map.mp there
  exact (h x hx).properties q hq

/-! ## A column without quotes -/

namespace Property

variable {p : Property}

/-- The column can do without quotes. -/
def Unquotable (p : Property) : Prop := ∃ i, p.columnName.withCaseSensitivity false = .ok i

/-- The property with the quotes taken off its column, if the column can do without. -/
def bare (p : Property) : Property :=
  match p.columnName.withCaseSensitivity false with
  | .ok columnName => { p with columnName, forceQuote := false }
  | .error _ => p

theorem name_bare (p : Property) : p.bare.name = p.name := by
  unfold bare
  split <;> rfl

theorem bare_of_ok {i : Identifier} (h : p.columnName.withCaseSensitivity false = .ok i) :
    p.bare = { p with columnName := i, forceQuote := false } := by
  rw [bare, h]

theorem bare_bare (p : Property) : p.bare.bare = p.bare := by
  cases h : p.columnName.withCaseSensitivity false with
  | error fault => simp only [bare, h]
  | ok i =>
    rw [bare_of_ok h]
    exact bare_of_ok (Identifier.withCaseSensitivity_again h)

theorem unquotable_bare : p.bare.Unquotable ↔ p.Unquotable := by
  cases h : p.columnName.withCaseSensitivity false with
  | error fault => simp only [bare, h]
  | ok i =>
    rw [bare_of_ok h]
    exact ⟨fun _ => ⟨i, h⟩, fun _ => ⟨i, Identifier.withCaseSensitivity_again h⟩⟩

theorem Unquotable.forceQuote_bare (h : p.Unquotable) : p.bare.forceQuote = false := by
  obtain ⟨i, h⟩ := h
  rw [bare_of_ok h]

/-- A column without quotes can do without, and is what it was. -/
theorem Flagged.unquoted (h : p.Flagged) (unquoted : p.forceQuote = false) : p.Unquotable ∧ p.bare = p := by
  have plain : p.columnName.caseSensitive = false := h.trans unquoted
  have same : p.columnName.withCaseSensitivity false = .ok p.columnName := plain ▸ p.columnName.ofText_self
  refine ⟨⟨_, same⟩, (bare_of_ok same).trans ?_⟩
  rw [← unquoted]

end Property

namespace Registry

variable {f g : Property → Property} {name : String} {ps : List Property}

/-- Only the first property of the name matters for what a change makes of all. -/
theorem modifyProperty_congr (same : ∀ p, ps.find? (fun p => p.name = name) = some p → f p = g p) :
    modifyProperty name f ps = modifyProperty name g ps := by
  induction ps with
  | nil => rfl
  | cons q ps ih =>
    unfold modifyProperty
    by_cases here : q.name = name
    · rw [if_pos here, if_pos here, same q (by simp [here])]
    · rw [if_neg here, if_neg here, ih fun p found => same p (by simpa [here] using found)]

theorem modifyProperty_self : modifyProperty name (fun p => p) ps = ps := by
  induction ps with
  | nil => rfl
  | cons q ps ih =>
    unfold modifyProperty
    rw [ih, ite_self]

end Registry

namespace Entity

open Registry (modifyProperty)

variable {e : Entity}

/-- The entity with the quotes taken off the column of the first property of this name. -/
def bareColumn (e : Entity) (name : String) : Entity :=
  { e with properties := modifyProperty name Property.bare e.properties }

theorem property?_bareColumn (e : Entity) (name other : String) :
    (e.bareColumn name).property? other =
      if name = other then (e.property? other).map Property.bare else e.property? other := by
  split
  · rename_i same
    subst same
    exact Registry.find?_modifyProperty_self Property.name_bare
  · rename_i differ
    exact Registry.find?_modifyProperty_of_ne Property.name_bare differ

/-- The entity with the quotes taken off the columns of these names, one after the other. -/
def bareColumns (e : Entity) (names : List String) : Entity := names.foldl bareColumn e

theorem typeName_bareColumns (e : Entity) (names : List String) : (e.bareColumns names).typeName = e.typeName := by
  induction names generalizing e with
  | nil => rfl
  | cons name names ih => exact ih (e.bareColumn name)

theorem property?_bareColumns (e : Entity) (names : List String) (other : String) :
    (e.bareColumns names).property? other =
      if other ∈ names then (e.property? other).map Property.bare else e.property? other := by
  induction names generalizing e with
  | nil => rfl
  | cons name names ih =>
    rw [show e.bareColumns (name :: names) = (e.bareColumn name).bareColumns names from rfl, ih, property?_bareColumn]
    by_cases same : name = other
    · subst same
      have twice : Property.bare ∘ Property.bare = Property.bare := funext Property.bare_bare
      simp [twice]
    · simp [same, Ne.symm same]

/-- The columns can all do without quotes. -/
def CanBare (e : Entity) (names : List String) : Prop := ∀ n ∈ names, ∃ p, e.property? n = some p ∧ p.Unquotable

theorem canBare_bareColumns {before names : List String} : (e.bareColumns before).CanBare names ↔ e.CanBare names := by
  refine forall₂_congr fun n _ => ?_
  rw [property?_bareColumns]
  split
  · simp [Property.unquotable_bare]
  · rfl

theorem bareColumn_eq_self {name : String} (h : ∀ p, e.property? name = some p → p.bare = p) : e.bareColumn name = e := by
  have same : modifyProperty name Property.bare e.properties = e.properties :=
    (Registry.modifyProperty_congr h).trans Registry.modifyProperty_self
  rw [bareColumn, same]

/-- Nothing happens to an entity exactly if none of the columns is quoted. -/
theorem bareColumns_eq_self_iff (flagged : e.Flagged) {names : List String} (can : e.CanBare names) :
    e.bareColumns names = e ↔ ∀ n ∈ names, ∀ p, e.property? n = some p → p.forceQuote = false := by
  constructor
  · intro same n hn p found
    have after := property?_bareColumns e names n
    rw [same, if_pos hn, found, Option.map_some, Option.some.injEq] at after
    obtain ⟨q, found', unquotable⟩ := can n hn
    cases found.symm.trans found'
    rw [after]
    exact unquotable.forceQuote_bare
  · intro unquoted
    induction names with
    | nil => rfl
    | cons name names ih =>
      obtain ⟨-, can⟩ := List.forall_mem_cons.mp can
      obtain ⟨first, rest⟩ := List.forall_mem_cons.mp unquoted
      have kept : e.bareColumn name = e := by
        refine bareColumn_eq_self fun p found => ?_
        exact ((flagged p (List.mem_of_find?_eq_some found)).unquoted (first p found)).2
      rw [show e.bareColumns (name :: names) = (e.bareColumn name).bareColumns names from rfl, kept]
      exact ih can rest

end Entity

namespace Registry

variable {src : Sources} {r r' : Registry} {e e' : Entity} {edit : Edit} {edits : List Edit}

/-! ## What silent edits make of an entity -/

/-- The columns of type `t` that an edit is about. -/
def Edit.columns (t : TypeName) : Edit → List String
  | .column u o => if u = t then [o.name] else []
  | _ => []

/-- The columns of type `t` that edits are about, in order. -/
def Edit.columnsOf (edits : List Edit) (t : TypeName) : List String := edits.flatMap (Edit.columns t)

theorem withColumn_eq_bareColumn {o : PropertyOverride} (unquoted : o.forceQuote = false) {p : Property}
    {i : Identifier} (found : e.property? o.name = some p) (bares : p.columnName.withCaseSensitivity false = .ok i) :
    withColumn e o i = e.bareColumn o.name := by
  let f : Property → Property := fun p => { p with columnName := i, forceQuote := o.forceQuote }
  have same : ∀ q, e.property? o.name = some q → f q = q.bare := by
    intro q found'
    cases found.symm.trans found'
    rw [Property.bare_of_ok bares, ← unquoted]
  exact congrArg (fun ps => { e with properties := ps }) (modifyProperty_congr same)

/-- A silent edit takes the quotes off its column, or fails if there is none that can do without. -/
theorem Edit.revise_silent_eq_ok_iff (silent : edit.Silent) :
    edit.revise e = .ok e' ↔ e.CanBare (edit.columns e.typeName) ∧ e' = e.bareColumns (edit.columns e.typeName) := by
  have nothing : ∀ {x : Except Error Entity}, x = .ok e →
      (x = .ok e' ↔ e.CanBare [] ∧ e' = e.bareColumns []) := by
    rintro _ rfl
    simp [Entity.CanBare, Entity.bareColumns, eq_comm]
  cases edit with
  | register t => exact nothing (ite_self _)
  | storageName t table forceQuote =>
    obtain ⟨rfl, rfl⟩ := silent
    exact nothing (ite_self _)
  | column t o =>
    obtain ⟨stated, unquoted⟩ := silent
    by_cases type : e.typeName = t
    · have named : ∀ p : Property, columnNameFor p.columnName o = p.columnName.withCaseSensitivity false := by
        intro p
        rw [columnNameFor, stated, unquoted]
      rw [revise_eq_on (.column t o) type, on_column_eq_ok_iff, columns, if_pos type.symm]
      simp only [Entity.CanBare, List.mem_singleton, forall_eq, named]
      constructor
      · rintro ⟨p, i, found, bares, rfl⟩
        exact ⟨⟨p, found, i, bares⟩, withColumn_eq_bareColumn unquoted found bares⟩
      · rintro ⟨⟨p, found, i, bares⟩, rfl⟩
        exact ⟨p, i, found, bares, (withColumn_eq_bareColumn unquoted found bares).symm⟩
    · rw [columns, if_neg (Ne.symm type)]
      exact nothing (if_neg type)

theorem Edit.reviseAll_silent_eq_ok_iff (silent : ∀ edit ∈ edits, edit.Silent) :
    Edit.reviseAll edits e = .ok e' ↔
      e.CanBare (columnsOf edits e.typeName) ∧ e' = e.bareColumns (columnsOf edits e.typeName) := by
  induction edits generalizing e with
  | nil => simp [Edit.reviseAll, columnsOf, Entity.CanBare, Entity.bareColumns, pure, Except.pure, eq_comm]
  | cons edit edits ih =>
    obtain ⟨first, rest⟩ := List.forall_mem_cons.mp silent
    have split : e.bareColumns (columnsOf (edit :: edits) e.typeName) =
        (e.bareColumns (edit.columns e.typeName)).bareColumns (columnsOf edits e.typeName) := List.foldl_append
    rw [split, reviseAll_cons_eq_ok_iff]
    simp only [revise_silent_eq_ok_iff first, ih rest]
    constructor
    · rintro ⟨_, ⟨can, rfl⟩, later, rfl⟩
      rw [Entity.typeName_bareColumns] at later ⊢
      exact ⟨List.forall_mem_append.mpr ⟨can, Entity.canBare_bareColumns.mp later⟩, rfl⟩
    · rintro ⟨can, rfl⟩
      obtain ⟨can, later⟩ := List.forall_mem_append.mp can
      refine ⟨_, ⟨can, rfl⟩, ?_⟩
      rw [Entity.typeName_bareColumns]
      exact ⟨Entity.canBare_bareColumns.mpr later, rfl⟩

/-! ## What silent edits make of a registry -/

/-- The registry with the quotes taken off the columns that the edits are about. -/
def bare (r : Registry) (edits : List Edit) : Registry :=
  { r with entities := r.entities.map fun e => e.bareColumns (Edit.columnsOf edits e.typeName) }

/-- The columns of all types that the edits are about can do without quotes. -/
def CanBare (r : Registry) (edits : List Edit) : Prop :=
  ∀ e ∈ r.entities, e.CanBare (Edit.columnsOf edits e.typeName)

/-- Nothing happens to a registry exactly if none of the columns is quoted. -/
theorem bare_eq_self_iff (flagged : ∀ e ∈ r.entities, e.Flagged) (can : r.CanBare edits) :
    r.bare edits = r ↔
      ∀ e ∈ r.entities, ∀ n ∈ Edit.columnsOf edits e.typeName, ∀ p, e.property? n = some p → p.forceQuote = false := by
  have each : r.bare edits = r ↔ ∀ e ∈ r.entities, e.bareColumns (Edit.columnsOf edits e.typeName) = e := by
    constructor
    · intro same
      exact List.map_inj_left.mp ((congrArg entities same).trans (List.map_id _).symm)
    · intro kept
      exact congrArg (fun es => { r with entities := es }) ((List.map_congr_left kept).trans (List.map_id' _))
  exact each.trans (forall₂_congr fun e he => Entity.bareColumns_eq_self_iff (flagged e he) (can e he))

/-- The indexes are those of the other registry. -/
def SameIndexes (r r' : Registry) : Prop := r' = { r with entities := r'.entities }

theorem SameIndexes.trans {r'' : Registry} (h : SameIndexes r r') (h' : SameIndexes r' r'') : SameIndexes r r'' :=
  Eq.trans h' (congrArg (fun x : Registry => { x with entities := r''.entities }) h)

theorem SameIndexes.isRegistered (h : SameIndexes r r') (t : TypeName) : r'.isRegistered t = r.isRegistered t := by
  rw [h]
  rfl

/-- A silent edit of a registered type asks nothing and leaves the indexes as they are. -/
theorem Edit.Silent.exists_edit (src : Sources) (silent : edit.Silent) (known : r.isRegistered edit.typeName = true) :
    ∃ o, r.edit src edit = some o ∧ o.asked = [] ∧ SameIndexes r o.registry := by
  cases edit with
  | register t =>
    obtain ⟨id, there⟩ := Option.isSome_iff_exists.mp ((isRegistered_eq_isSome r t).symm.trans known)
    exact ⟨⟨r, [], .ok ()⟩, by rw [Registry.edit, Registry.register, there]; rfl, rfl, rfl⟩
  | storageName t table forceQuote =>
    obtain ⟨rfl, rfl⟩ := silent
    refine ⟨_, rfl, ?_⟩
    unfold setStorageName
    cases r.entityFor? t with
    | none => exact ⟨rfl, rfl⟩
    | some e => simp [storageNameFor, Outcome.ofChange, SameIndexes]
  | column t o =>
    refine ⟨_, rfl, ?_⟩
    unfold setColumn
    cases r.entityFor? t with
    | none => exact ⟨rfl, rfl⟩
    | some e =>
      dsimp only
      cases e.property? o.name with
      | none => exact ⟨rfl, rfl⟩
      | some p =>
        dsimp only
        cases columnNameFor p.columnName o <;> exact ⟨rfl, rfl⟩

theorem exists_quiet (src : Sources) (silent : ∀ edit ∈ edits, edit.Silent)
    (known : ∀ edit ∈ edits, r.isRegistered edit.typeName = true) :
    ∃ o, r.editAll src edits = some o ∧ o.asked = [] ∧ SameIndexes r o.registry := by
  induction edits generalizing r with
  | nil => exact ⟨_, rfl, rfl, rfl⟩
  | cons edit edits ih =>
    obtain ⟨silentFirst, silentRest⟩ := List.forall_mem_cons.mp silent
    obtain ⟨knownFirst, knownRest⟩ := List.forall_mem_cons.mp known
    obtain ⟨first, hfirst, quiet, same⟩ := silentFirst.exists_edit src knownFirst
    rcases result : first.result with x | ⟨⟩
    · exact ⟨first, each_cons_eq_some_iff.mpr ⟨first, hfirst, Or.inl ⟨x, result, rfl⟩⟩, quiet, same⟩
    · have knownRest : ∀ x ∈ edits, first.registry.isRegistered x.typeName = true :=
        fun x hx => (same.isRegistered _).trans (knownRest x hx)
      obtain ⟨after, hafter, quietAfter, sameAfter⟩ := ih silentRest knownRest
      refine ⟨_, each_cons_eq_some_iff.mpr ⟨first, hfirst, Or.inr ⟨result, after, hafter, rfl⟩⟩, ?_, ?_⟩
      · simp [Outcome.followedBy, quiet, quietAfter]
      · exact same.trans sameAfter

theorem eq_map_of_rel {α β : Type} {f : α → β} {a : Option α} {b : Option β}
    (h : Option.Rel (fun x y => y = f x) a b) : b = a.map f := by
  cases h with
  | none => rfl
  | some made => exact congrArg some made

/-- Silent edits that are all done have taken off all the quotes they can. -/
theorem Performs.eq_bare (hr : Sound src r) (silent : ∀ edit ∈ edits, edit.Silent)
    (known : ∀ edit ∈ edits, r.isRegistered edit.typeName = true) (same : SameIndexes r r')
    (h : Performs src r edits r') : r' = r.bare edits ∧ r.CanBare edits := by
  obtain ⟨-, revised⟩ := (performs_iff hr known).mp h
  constructor
  · refine Eq.trans same (congrArg (fun es => { r with entities := es }) (List.ext_getElem? fun i => ?_))
    rw [List.getElem?_map]
    exact eq_map_of_rel (rel_imp (fun e e' made => ((Edit.reviseAll_silent_eq_ok_iff silent).mp made).2) (revised ⟨i⟩))
  · intro e he
    obtain ⟨id, hid⟩ := mem_entities_iff.mp he
    obtain ⟨_, -, made⟩ := exists_of_rel (revised id) hid
    exact ((Edit.reviseAll_silent_eq_ok_iff silent).mp made).1

/-- A silent edit whose column can do without quotes is not rejected, whatever silent edits come
    before it. -/
theorem not_rejected_of_canBare {before : List Edit} (silent : edit.Silent)
    (known : r.isRegistered edit.typeName = true) (can : r.CanBare [edit]) (sound : Sound src (r.bare before))
    {x : Error} : ¬Rejects src (r.bare before) edit x := by
  rintro ⟨o, called, failed, -⟩
  have each : ∀ e ∈ (r.bare before).entities, ∃ e', edit.revise e = .ok e' := by
    intro bared there
    obtain ⟨e, he, rfl⟩ := List.mem_map.mp there
    refine ⟨_, (Edit.revise_silent_eq_ok_iff silent).mpr ⟨?_, rfl⟩⟩
    rw [Entity.canBare_bareColumns, Entity.typeName_bareColumns]
    exact fun n hn => can e he n (List.mem_flatMap.mpr ⟨edit, List.mem_singleton_self _, hn⟩)
  obtain ⟨r', edited⟩ : ∃ r', (r.bare before).edit src edit = some (.done r') :=
    exists_edit_of_revised sound.agree known each
  cases called.symm.trans edited
  cases failed

theorem CanBare.mono {some all : List Edit} (h : r.CanBare all) (sub : some ⊆ all) : r.CanBare some := by
  intro e he n hn
  obtain ⟨edit, there, hn⟩ := List.mem_flatMap.mp hn
  exact h e he n (List.mem_flatMap.mpr ⟨edit, sub there, hn⟩)

/-- What silent edits of registered types come to. -/
theorem exists_bared (hr : Sound src r) (silent : ∀ edit ∈ edits, edit.Silent)
    (known : ∀ edit ∈ edits, r.isRegistered edit.typeName = true) :
    ∃ out done, r.editAll src edits = some out ∧ out.asked = [] ∧ done <+: edits ∧ out.registry = r.bare done ∧
      (out.result = .ok () ↔ r.CanBare edits) ∧ (out.result = .ok () → done = edits) := by
  obtain ⟨out, called, quiet, same⟩ := exists_quiet src silent known
  rcases result : out.result with x | ⟨⟩
  · obtain ⟨before, edit, after, rfl, performs, rejected⟩ := exists_rejected hr called result
    obtain ⟨silentBefore, silentLater⟩ := List.forall_mem_append.mp silent
    obtain ⟨knownBefore, knownLater⟩ := List.forall_mem_append.mp known
    obtain ⟨bared, -⟩ := performs.eq_bare hr silentBefore knownBefore same
    have sound : Sound src (r.bare before) := bared ▸ editAll_sound hr called
    have notDone : out.result ≠ .ok () := fun ok => nomatch result.symm.trans ok
    refine ⟨out, before, called, quiet, List.prefix_append _ _, bared,
      ⟨fun ok => absurd ok notDone, fun can => ?_⟩, fun ok => absurd ok notDone⟩
    have canEdit : r.CanBare [edit] := can.mono (by simp)
    refine absurd (bared ▸ rejected) (not_rejected_of_canBare ?_ ?_ canEdit sound)
    · exact silentLater edit List.mem_cons_self
    · exact knownLater edit List.mem_cons_self
  · obtain ⟨bared, can⟩ := Performs.eq_bare hr silent known same ⟨out, called, result, rfl⟩
    exact ⟨out, edits, called, quiet, List.prefix_refl _, bared, ⟨fun _ => can, fun _ => result⟩, fun _ => rfl⟩

/-! ## What silent overrides are about -/

variable {o : Overrides}

theorem mem_columnsOf_iff {t : TypeName} {n : String} :
    n ∈ Edit.columnsOf (Edit.ofOverrides o) t ↔ ∃ x ∈ o.entities, x.typeName = t ∧ ∃ q ∈ x.properties, q.name = n := by
  have entity : ∀ x : EntityOverride,
      n ∈ (Edit.ofEntity x).flatMap (Edit.columns t) ↔ x.typeName = t ∧ ∃ q ∈ x.properties, q.name = n := by
    intro x
    by_cases type : x.typeName = t <;> simp [Edit.ofEntity, Edit.columns, type, List.flatMap_map, eq_comm]
  simp only [Edit.columnsOf, Edit.ofOverrides, List.flatMap_assoc, List.mem_flatMap (l := o.entities), entity]

/-- What overrides mean are the first properties of the names that their edits are about. -/
theorem forall_means_iff (hr : r.Agree) {P : Property → Prop} :
    (∀ p, o.Means r p → P p) ↔
      ∀ e ∈ r.entities, ∀ n ∈ Edit.columnsOf (Edit.ofOverrides o) e.typeName, ∀ p, e.property? n = some p → P p := by
  constructor
  · intro all e he n hn p found
    obtain ⟨x, hx, type, q, hq, rfl⟩ := mem_columnsOf_iff.mp hn
    exact all p ⟨x, hx, q, hq, e, hr.entityFor?_eq_some_iff.mpr ⟨he, type.symm⟩, found⟩
  · rintro all p ⟨x, hx, q, hq, e, he, found⟩
    obtain ⟨there, type⟩ := hr.entityFor?_eq_some_iff.mp he
    exact all e there q.name (mem_columnsOf_iff.mpr ⟨x, hx, type.symm, q, hq, rfl⟩) p found

theorem canBare_iff (hr : r.Agree) (known : o.KnownTo r) :
    r.CanBare (Edit.ofOverrides o) ↔ ∀ p, o.Means r p → p.Unquotable := by
  rw [forall_means_iff hr]
  refine forall₂_congr fun e he => forall₂_congr fun n hn => ?_
  obtain ⟨x, hx, type, q, hq, rfl⟩ := mem_columnsOf_iff.mp hn
  obtain ⟨e', found, properties⟩ := known x hx
  cases found.symm.trans (hr.entityFor?_eq_some_iff.mpr ⟨he, type.symm⟩)
  obtain ⟨p, there⟩ := properties q hq
  simp [there]

theorem isRegistered_of_knownTo (hr : r.Agree) (known : o.KnownTo r) :
    ∀ edit ∈ Edit.ofOverrides o, r.isRegistered edit.typeName = true := by
  intro edit there
  obtain ⟨x, hx, there⟩ := List.mem_flatMap.mp there
  obtain ⟨e, found, -⟩ := known x hx
  rw [Edit.typeName_of_mem_ofEntity there]
  exact hr.isRegistered_iff.mpr ⟨e, hr.entityFor?_eq_some_iff.mp found⟩

end Registry

/-! ## A shop that nothing is asked of -/

namespace Shop

/-- An entry for orders, and one for their customers, without a word on either. -/
def silent (t : TypeName) (names : List String) : Overrides :=
  ⟨[⟨t, some " ", false, names.map fun n => ⟨n, none, false⟩⟩]⟩

theorem silent_silent (t : TypeName) (names : List String) : (silent t names).Silent := by
  intro x hx
  cases List.mem_singleton.mp hx
  have blank : Text.nonBlank (some " ") = none := by decide
  refine ⟨blank, rfl, fun p hp => ?_⟩
  obtain ⟨n, -, rfl⟩ := List.mem_map.mp hp
  exact ⟨rfl, rfl⟩

theorem knownTo_ordered {t : TypeName} {names : List String} {e : Entity} (found : ordered.entityFor? t = some e)
    (properties : ∀ n ∈ names, (e.property? n).isSome = true) : (silent t names).KnownTo ordered := by
  intro x hx
  cases List.mem_singleton.mp hx
  refine ⟨e, found, fun q hq => ?_⟩
  obtain ⟨n, hn, rfl⟩ := List.mem_map.mp hq
  exact Option.isSome_iff_exists.mp (properties n hn)

end Shop

namespace Context

open Registry

variable {src : Sources} {c : Context}

/-- Silent overrides of what is there ask nothing and leave every index. They take the quotes off
    the columns that they name, one after the other, up to one that cannot do without; so they
    change nothing exactly if none of these is quoted. -/
theorem silent_overrides_take_off_quotes (h : Reach src c) {o : Overrides} (silent : o.Silent)
    (known : o.KnownTo c.registry) :
    ∃ out done, c.registry.apply src o = some out ∧ out.asked = [] ∧
      done <+: Edit.ofOverrides o ∧ out.registry = c.registry.bare done ∧
      (out.result = .ok () ↔ ∀ p, o.Means c.registry p → p.Unquotable) ∧
      (out.result = .ok () → done = Edit.ofOverrides o) ∧
      (out = .done c.registry ↔ ∀ p, o.Means c.registry p → p.forceQuote = false) := by
  have sound := reach_sound h
  have flagged := reach_flagged h
  obtain ⟨out, done, called, quiet, upTo, bared, succeeds, all⟩ :=
    exists_bared sound silent.edits (isRegistered_of_knownTo sound.agree known)
  refine ⟨out, done, called, quiet, upTo, bared, succeeds.trans (canBare_iff sound.agree known), all, ?_, ?_⟩
  · intro nothing
    have ok : out.result = .ok () := congrArg Outcome.result nothing
    have same : c.registry.bare (Edit.ofOverrides o) = c.registry := by
      rw [← all ok, ← bared]
      exact congrArg Outcome.registry nothing
    exact (forall_means_iff sound.agree).mpr ((bare_eq_self_iff flagged (succeeds.mp ok)).mp same)
  · intro unquoted
    have plain := (forall_means_iff sound.agree).mp unquoted
    have can : c.registry.CanBare (Edit.ofOverrides o) := by
      refine (canBare_iff sound.agree known).mpr ((forall_means_iff sound.agree).mpr fun e he n hn p found => ?_)
      exact ((flagged e he p (List.mem_of_find?_eq_some found)).unquoted (plain e he n hn p found)).1
    have ok := succeeds.mpr can
    obtain ⟨r, asked, result⟩ := out
    cases quiet
    cases ok
    rw [all rfl, (bare_eq_self_iff flagged can).mpr plain] at bared
    cases bared
    rfl

/-- An entry for orders alone changes nothing, and one that names a column of theirs does. -/
theorem silent_shop : Reach Shop.sources ⟨Shop.sources, Shop.ordered, none⟩ ∧
    (Shop.silent Shop.order []).Silent ∧ (Shop.silent Shop.order []).KnownTo Shop.ordered ∧
    Shop.ordered.apply Shop.sources (Shop.silent Shop.order []) = some (.done Shop.ordered) ∧
    (Shop.silent Shop.order ["Customer"]).Silent ∧ (Shop.silent Shop.order ["Customer"]).KnownTo Shop.ordered ∧
    Shop.ordered.apply Shop.sources (Shop.silent Shop.order ["Customer"]) ≠ some (.done Shop.ordered) := by
  have alone : (Shop.silent Shop.order []).KnownTo Shop.ordered := Shop.knownTo_ordered rfl nofun
  have named : (Shop.silent Shop.order ["Customer"]).KnownTo Shop.ordered := Shop.knownTo_ordered rfl (by simp; rfl)
  obtain ⟨out, -, called, -, -, -, -, -, idle⟩ :=
    silent_overrides_take_off_quotes Shop.reach_ordered (Shop.silent_silent Shop.order []) alone
  obtain ⟨out', -, called', -, -, -, -, -, idle'⟩ :=
    silent_overrides_take_off_quotes Shop.reach_ordered (Shop.silent_silent Shop.order ["Customer"]) named
  refine ⟨Shop.reach_ordered, Shop.silent_silent _ _, alone, ?_, Shop.silent_silent _ _, named, ?_⟩
  · rw [called, idle.mpr]
    rintro p ⟨x, hx, q, hq, -⟩
    cases List.mem_singleton.mp hx
    cases hq
  · rw [called']
    intro same
    have unquoted := idle'.mp (Option.some.inj same) _ ⟨_, List.mem_singleton_self _, _, List.mem_singleton_self _, _, rfl, rfl⟩
    cases unquoted

/-- The column of an order's customer loses its quotes, though nothing is stated for it, and the
    storage name beside it keeps them. A customer's column for orders cannot do without, and the
    override that states nothing for it fails. -/
theorem silent_override_is_heard : Reach Shop.sources ⟨Shop.sources, Shop.ordered, none⟩ ∧
    ((Shop.silent Shop.order ["Customer"]).Silent ∧ (Shop.silent Shop.order ["Customer"]).KnownTo Shop.ordered ∧
      ∃ out, Shop.ordered.apply Shop.sources (Shop.silent Shop.order ["Customer"]) = some out ∧
        out.result = .ok () ∧
        Shop.ordered.entities.map (fun e => e.properties.map (·.columnName.cql)) =
          [["\"Customer\"", "\"Amount\""], ["\"Order\"", "\"Note\""]] ∧
        out.registry.entities.map (fun e => e.properties.map (·.columnName.cql)) =
          [["customer", "\"Amount\""], ["\"Order\"", "\"Note\""]] ∧
        out.registry.entities.map (·.storageName.cql) = ["\"shop\"", "\"shop\""]) ∧
    (Shop.silent Shop.customer ["Order"]).Silent ∧ (Shop.silent Shop.customer ["Order"]).KnownTo Shop.ordered ∧
      ∃ out, Shop.ordered.apply Shop.sources (Shop.silent Shop.customer ["Order"]) = some out ∧
        out.result = .error (.invalidIdentifier Shop.customer (.reserved "Order")) := by
  have customers : (Shop.silent Shop.order ["Customer"]).KnownTo Shop.ordered := Shop.knownTo_ordered rfl (by simp; rfl)
  have orders : (Shop.silent Shop.customer ["Order"]).KnownTo Shop.ordered := Shop.knownTo_ordered rfl (by simp; rfl)
  refine ⟨Shop.reach_ordered, ⟨Shop.silent_silent _ _, customers, ?_⟩, Shop.silent_silent _ _, orders, _, rfl, rfl⟩
  exact ⟨_, rfl, rfl, by decide, by decide, by decide⟩

end Context

end WideColumn
