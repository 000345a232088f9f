/-
  WideColumn.Proofs.Layout.Stores — layouts and the user types in the store.

  User types are defined before they are in the store, and two that refer to each other cannot
  both be there first. So a user type is laid out in literal mode, where the store is not asked
  and a reference is not followed. A table is laid out from what is in the store: it needs every
  user type that its columns refer to, and more user types change nothing.

  Proved:
  - `exists_userTypeOf_iff`: which entities have a user type.
  - `AlikeButStore.userTypeOf`: the user type of an entity does not depend on the store.
  - `StoreLe.tableOf`: an entity that has a table has the same one with a larger store.
  - `user_types_ignore_the_store`: user types are complete, refer by names alone, and are the same
    with every store.
  - `more_user_types_break_nothing`: the law for two stores of which one has more, and that a table
    never fails for a user type if the store has all of its places' references.
-/

import WideColumn.Proofs.Layout.Mentions
import WideColumn.Proofs.Layout.Refusal
import WideColumn.Proofs.Resolution.Stores

namespace WideColumn

theorem Schema.UserType.referenced_eq (u : Schema.UserType) :
    u.referenced = u.fields.flatMap fun f => f.dataType.mentioned := by
  unfold referenced
  simp only [DataType.names_references]

namespace Context

open Attempt

variable {c c' : Context} {e : Entity} {t t' : Schema.Table} {keyspace : Option Identifier}
  {names names' : Std.ExtTreeSet Identifier}

/-! ## User types -/

theorem exists_fields_iff {ps : List Property} :
    (∃ fields, List.Forall₂ c.FieldOf ps fields) ↔ ∀ p ∈ ps, ∃ dataType, c.resolve .literal p = .ok dataType := by
  have all : (∃ fields, List.Forall₂ c.FieldOf ps fields) ↔ ∃ fields, ps.mapM c.fieldOf = .ok fields := by
    simp only [mapM_eq_ok_iff, fieldOf_eq_ok_iff]
  rw [all, exists_mapM_iff]
  refine forall₂_congr fun p _ => ?_
  simp only [fieldOf_eq_ok_iff]
  exact ⟨fun ⟨f, _, resolved⟩ => ⟨f.dataType, resolved⟩, fun ⟨dataType, resolved⟩ => ⟨⟨_, dataType⟩, rfl, resolved⟩⟩

theorem exists_userTypeOf_iff :
    (∃ u, c.userTypeOf e = .ok u) ↔
      e.properties ≠ [] ∧ ∀ p ∈ e.properties, ∃ dataType, c.resolve .literal p = .ok dataType := by
  simp only [userTypeOf_eq_ok_iff, ← exists_fields_iff]
  constructor
  · intro ⟨u, nonempty, _, fields⟩
    exact ⟨nonempty, u.fields, fields⟩
  · intro ⟨nonempty, fields, each⟩
    exact ⟨⟨e.storageName, fields⟩, nonempty, rfl, each⟩

theorem AlikeButStore.userTypeOf (h : c.AlikeButStore c') (e : Entity) : c'.userTypeOf e = c.userTypeOf e := by
  have fields : e.properties.mapM c'.fieldOf = e.properties.mapM c.fieldOf := by
    refine mapM_congr fun p _ => ?_
    unfold fieldOf
    rw [h.resolve_literal]
  unfold Context.userTypeOf
  rw [fields]

/-! ## Tables -/

theorem AlikeButStore.flat (h : c.AlikeButStore c') (e : Entity) : c'.flat e = c.flat e := by
  unfold Context.flat places keyPlaces
  rw [h.registry]

namespace StoreLe

theorem addPlace (h : c.StoreLe c') {place : Except Layout.Error Place} (added : c.addPlace t place = .ok t') :
    c'.addPlace t place = .ok t' := by
  cases place with
  | error x => cases added
  | ok place =>
    obtain ⟨dataType, found, claimed⟩ := bind_eq_ok_iff.mp added
    have found' : c'.columnType place.property = .ok dataType :=
      columnType_eq_ok_iff.mpr (h.resolve (columnType_eq_ok_iff.mp found))
    exact bind_eq_ok_iff.mpr ⟨dataType, found', claimed⟩

/-- A table that is built with a store is built, and is the same, with one that has more. -/
theorem tableOf (h : c.StoreLe c') (built : c.tableOf e = .ok t) : c'.tableOf e = .ok t := by
  rw [tableOf_eq] at built ⊢
  obtain ⟨t₁, run, partitioned⟩ := bind_eq_ok_iff.mp built
  rw [h.flat]
  exact bind_eq_ok_iff.mpr ⟨t₁, foldlM_mono (fun _ _ _ => h.addPlace) run, partitioned⟩

end StoreLe

/-- What stands in the place of a composite key that has no entity is no fault of a type. -/
theorem not_resolution_of_mem_flat {x : Resolution.Error} : .error (.resolution x) ∉ c.flat e := by
  intro there
  obtain ⟨p, -, there⟩ := List.mem_flatMap.mp there
  cases role : p.role with
  | compositeKey =>
    simp only [places, role, keyPlaces] at there
    split at there
    · split at there <;> simp at there
    · simp at there
  | _ => simp [places, role] at there

/-- A table fails for the type of a column only if a place has no type. -/
theorem unresolved_of_tableOf {x : Resolution.Error} (h : c.tableOf e = .error (.resolution x)) :
    ∃ place, .ok place ∈ c.flat e ∧ c.resolve .resolved place.property = .error x := by
  rw [tableOf_eq] at h
  rcases bind_eq_error_iff.mp h with failed | ⟨t₁, -, unpartitioned⟩
  · obtain ⟨before, place, after, split, -, offends⟩ := run_refuses_iff.mp failed
    have there : place ∈ c.flat e := by
      rw [split]
      exact List.mem_append_right before List.mem_cons_self
    cases offends with
    | key => exact absurd there not_resolution_of_mem_flat
    | dataType unresolved => exact ⟨_, there, unresolved⟩
  · split at unpartitioned <;> cases unpartitioned

/-- A property that has a type in literal mode has one in resolved mode if the store has the user
    types that the first refers to. -/
theorem exists_resolved_of_stored (store : c.userTypes = some (.ofNames keyspace names)) {p : Property} {u : DataType}
    (literal : c.resolve .literal p = .ok u) (stored : ∀ ref, .userType ref ∈ u.nodes → ref.name ∈ names) :
    ∃ dataType, c.resolve .resolved p = .ok dataType := by
  rcases resolve_resolved_or_missing store literal with ⟨dataType, resolved, -⟩ | ⟨n, there, missing, -⟩
  · exact ⟨dataType, resolved⟩
  · obtain ⟨ref, mentioned, rfl⟩ := List.mem_map.mp there
    have found : names.contains ref.name = true := stored ref (DataType.mem_references_iff.mp mentioned)
    cases missing.symm.trans found

end Context

end WideColumn

/-! ## A library

  A shelf stands in a hall and has a keeper, an author. Books are credited to authors and authors
  have books, so neither of their user types can be in the store before the other is defined.
-/

namespace WideColumn.Library

open Registry

def shelf : TypeName := ⟨"Shelf"⟩
def location : TypeName := ⟨"Location"⟩
def book : TypeName := ⟨"Book"⟩
def author : TypeName := ⟨"Author"⟩
def code : TypeName := ⟨"Code"⟩

/-- A property whose column has its own name, quoted. -/
def property (name : String) (declared : Declared) (role : Property.Role) : PropertySeed :=
  ⟨name, declared, role, none, none, [], true⟩

def shelfSeed : EntitySeed := ⟨some "shelf", true, .table,
  [property "location" (.named location) .compositeKey, property "first" (.named book) .regular]⟩

def locationSeed : EntitySeed := ⟨some "location", true, .keyClass,
  [property "hall" (.named code) .partitionKey, property "keeper" (.named author) (.clusterKey .ascending)]⟩

def bookSeed : EntitySeed := ⟨some "book", true, .userType,
  [property "title" (.named code) .regular, property "credits" (.map (.named code) (.list (.named author))) .regular]⟩

def authorSeed : EntitySeed := ⟨some "author", true, .userType,
  [property "best" (.named book) .regular, property "all" (.set (.named book)) .regular]⟩

def describe (t : TypeName) : Except DescribeError EntitySeed :=
  if t = shelf then .ok shelfSeed
  else if t = location then .ok locationSeed
  else if t = book then .ok bookSeed
  else if t = author then .ok authorSeed
  else .error (.notFound t)

def sources : Sources := ⟨⟨describe⟩, ⟨[(code, .text)]⟩, .empty, .standard⟩

/-- What registering a shelf leaves. -/
def withShelf : Registry :=
  ([(shelf, shelfSeed), (location, locationSeed), (author, authorSeed), (book, bookSeed)].foldlM
    (fun (r : Registry) t => r.enter sources t.1 t.2) empty).toOption.getD empty

theorem registers_shelf :
    Registers sources empty shelf ⟨withShelf, [shelf, location, author, book], .ok ⟨0⟩⟩ := by
  have visits : Visits sources empty [shelf] _ :=
    .entered rfl rfl rfl
      (.entered rfl rfl rfl
        (.entered rfl rfl rfl
          (.entered rfl rfl rfl (.registered rfl (.nil _)) rfl (.registered rfl (.nil _))) rfl
          (.nil _)) rfl
        (.registered rfl (.nil _))) rfl
      (.nil _)
  exact .succeeded rfl rfl rfl visits rfl

/-- The library with this store. -/
def keeping (store : Option UserTypeStore) : Context := ⟨sources, withShelf, store⟩

theorem reach_keeping (store : Option UserTypeStore) : Context.Reach sources (keeping store) :=
  Context.reach_first registers_shelf store

/-- The library with exactly these user types in the store. -/
def stocked (names : Std.ExtTreeSet Identifier) : Context := keeping (some (.ofNames none names))

def authorName : Identifier := ⟨"author", true, by simp [Identifier.Legal]⟩
def bookName : Identifier := ⟨"book", true, by simp [Identifier.Legal]⟩

def both : Std.ExtTreeSet Identifier := {authorName, bookName}

/-- Both and shelves, which are no user type. -/
def more : Std.ExtTreeSet Identifier := both.insert ⟨"shelf", true, by simp [Identifier.Legal]⟩

end WideColumn.Library

namespace WideColumn.Context

variable {c c' : Context} {keyspace : Option Identifier} {names names' : Std.ExtTreeSet Identifier}

/-- An entity has a user type exactly if it has properties and each has a type in literal mode. The
    fields are the properties, in order; every reference in them is a name alone, and the names are
    listed as they stand. The store plays no part in it, nor do the other user types. -/
theorem user_types_ignore_the_store (c : Context) (e : Entity) :
    ((∃ u, c.userTypeOf e = .ok u) ↔
      e.properties ≠ [] ∧ ∀ p ∈ e.properties, ∃ t, c.resolve .literal p = .ok t) ∧
    (∀ u, c.userTypeOf e = .ok u →
      u.name = e.storageName ∧ List.Forall₂ c.FieldOf e.properties u.fields ∧
      (∀ f ∈ u.fields, ∀ ref, .userType ref ∈ f.dataType.nodes → ref = .literal ref.name) ∧
      u.referenced = u.fields.flatMap fun f => f.dataType.mentioned) ∧
    ∀ c', c.AlikeButStore c' → c'.userTypeOf e = c.userTypeOf e := by
  refine ⟨exists_userTypeOf_iff, fun u built => ?_, fun c' alike => alike.userTypeOf e⟩
  obtain ⟨-, named, fields⟩ := userTypeOf_eq_ok_iff.mp built
  refine ⟨named, fields, fun f hf ref there => ?_, u.referenced_eq⟩
  obtain ⟨p, -, -, resolved⟩ := exists_of_mem_right fields hf
  exact literal_of_resolve resolved ref (DataType.mem_references_iff.mpr there)

/-- Authors and books have their user types with no store and with any. -/
theorem authors_and_books_refer_to_each_other : ∃ author book u v,
    Reach Library.sources (Library.keeping none) ∧
    (Library.keeping none).registry.entityFor? Library.author = some author ∧
    (Library.keeping none).registry.entityFor? Library.book = some book ∧
    (Library.keeping none).userTypeOf author = .ok u ∧ (Library.keeping none).userTypeOf book = .ok v ∧
    u.fields.flatMap (·.dataType.mentioned) = [Library.bookName, Library.bookName] ∧
    v.referenced = [Library.authorName] ∧
    (∀ f ∈ u.fields, ∀ ref, .userType ref ∈ f.dataType.nodes → ref = .literal ref.name) ∧
    u.referenced = u.fields.flatMap (·.dataType.mentioned) ∧
    ∀ store, (Library.keeping (some store)).userTypeOf author = .ok u ∧
      (Library.keeping (some store)).userTypeOf book = .ok v := by
  have alike : ∀ store, (Library.keeping none).AlikeButStore (Library.keeping (some store)) := fun _ => ⟨rfl, rfl, rfl⟩
  obtain ⟨author, book, u, v, hauthor, hbook, hu, hv, two, one⟩ : ∃ author book u v,
      (Library.keeping none).registry.entityFor? Library.author = some author ∧
      (Library.keeping none).registry.entityFor? Library.book = some book ∧
      (Library.keeping none).userTypeOf author = .ok u ∧ (Library.keeping none).userTypeOf book = .ok v ∧
      u.fields.flatMap (·.dataType.mentioned) = [Library.bookName, Library.bookName] ∧
      v.referenced = [Library.authorName] := ⟨_, _, _, _, rfl, rfl, rfl, rfl, rfl, rfl⟩
  obtain ⟨-, complete, same⟩ := user_types_ignore_the_store (Library.keeping none) author
  obtain ⟨-, -, sameBook⟩ := user_types_ignore_the_store (Library.keeping none) book
  obtain ⟨-, -, literal, listed⟩ := complete u hu
  exact ⟨author, book, u, v, Library.reach_keeping none, hauthor, hbook, hu, hv, two, one, literal, listed,
    fun store => ⟨(same _ (alike store)).trans hu, (sameBook _ (alike store)).trans hv⟩⟩

/-- More user types in the store change nothing that is there: what is resolved stays, and so does
    every table. If the store has every user type that the places of an entity refer to, then no
    table fails for a type of a column. -/
theorem more_user_types_break_nothing (alike : c.AlikeButStore c')
    (store : c.userTypes = some (.ofNames keyspace names))
    (store' : c'.userTypes = some (.ofNames keyspace names')) (more : ∀ n ∈ names, n ∈ names') :
    (∀ p t, c.resolve .resolved p = .ok t → c'.resolve .resolved p = .ok t) ∧
    (∀ e t, c.tableOf e = .ok t → c'.tableOf e = .ok t) ∧
    ∀ e, (∀ place, .ok place ∈ c.flat e →
        ∃ u, c.resolve .literal place.property = .ok u ∧ ∀ ref, .userType ref ∈ u.nodes → ref.name ∈ names) →
      ∀ x, c.tableOf e ≠ .error (.resolution x) := by
  have le := StoreLe.of_names alike store store' more
  refine ⟨fun p t => le.resolve, fun e t => le.tableOf, fun e stored x failed => ?_⟩
  obtain ⟨place, there, unresolved⟩ := unresolved_of_tableOf failed
  obtain ⟨u, literal, has⟩ := stored place there
  obtain ⟨_, resolved⟩ := exists_resolved_of_stored store literal has
  cases unresolved.symm.trans resolved

/-- A shelf has a table once authors and books are in the store, and one more user type there does
    no harm. -/
theorem shelf_needs_authors_and_books : ∃ shelf t,
    Reach Library.sources (Library.stocked Library.both) ∧
    (Library.stocked Library.both).registry.entityFor? Library.shelf = some shelf ∧
    (Library.stocked {Library.authorName}).tableOf shelf = .error (.resolution (.missingUserType Library.bookName)) ∧
    (∀ x, (Library.stocked Library.both).tableOf shelf ≠ .error (.resolution x)) ∧
    (Library.stocked Library.both).tableOf shelf = .ok t ∧
    t.columns.flatMap (·.dataType.references) = [.resolved Library.authorName, .resolved Library.bookName] ∧
    (Library.stocked Library.more).tableOf shelf = .ok t := by
  have more : ∀ n ∈ Library.both, n ∈ Library.more := fun n there => Std.ExtTreeSet.mem_insert.mpr (Or.inr there)
  have alike : (Library.stocked Library.both).AlikeButStore (Library.stocked Library.more) := ⟨rfl, rfl, rfl⟩
  obtain ⟨-, tables, needs⟩ := more_user_types_break_nothing alike rfl rfl more
  refine ⟨_, _, Library.reach_keeping _, rfl, rfl, needs _ ?_, rfl, rfl, tables _ _ rfl⟩
  intro place there
  rcases List.mem_cons.mp there with hall | there
  · cases hall
    exact ⟨.scalar .text, rfl, by simp [DataType.nodes]⟩
  · rcases List.mem_pair.mp there with keeper | first
    · cases keeper
      refine ⟨.userType (.literal Library.authorName), rfl, fun ref there => ?_⟩
      cases List.mem_singleton.mp there
      exact rfl
    · cases first
      refine ⟨.userType (.literal Library.bookName), rfl, fun ref there => ?_⟩
      cases List.mem_singleton.mp there
      exact rfl

end WideColumn.Context
