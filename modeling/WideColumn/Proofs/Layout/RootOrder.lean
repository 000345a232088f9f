/-
  WideColumn.Proofs.Layout.RootOrder — the order of the roots is of no account.

  Roots that are registered in another order are entered in another order: an entity may be
  there for another root and under another id. Everything else is the same. The roots end
  well in both orders or in neither, if no rule of the caller's looks at ids, and then both
  contexts know the same of every type, so that every look-up by name and every layout gives
  the same answer.

  Proved, from every context of a run:
  - `interchangeable_of_same`: contexts that know the same of every type cannot be told apart
    but by ids and by the order of registration.
  - `root_order_is_immaterial`: roots in another order leave a context that is interchangeable,
    and, if no rule looks at ids, succeed or fail as before.

  With a rule that looks at ids one order may end well and another fail
  (`founder_joins_first_or_not_at_all`).
-/

import WideColumn.Proofs.Layout.Stability
import WideColumn.Proofs.Registry.Roots

namespace WideColumn.Context

open Registry

variable {src : Sources} {c c' d d' : Context}

/-- The roots are registered in order and to a good end, and no overrides are applied. -/
def Populates (c : Context) (roots : List TypeName) (d : Context) : Prop :=
  ∃ o, c.registry.populate c.sources roots .empty = some o ∧ o.result = .ok () ∧ d = { c with registry := o.registry }

/-- Nothing but ids and the order of registration differs. -/
structure Interchangeable (c c' : Context) : Prop where
  entities : c.registry.Same c'.registry
  byStorageName : ∀ name, ((c.registry.entitiesForStorageName name).map (·.typeName)).Perm
    ((c'.registry.entitiesForStorageName name).map (·.typeName))
  tables : (c.registry.tableEntities.map (·.typeName)).Perm (c'.registry.tableEntities.map (·.typeName))
  userTypes : (c.registry.userTypeEntities.map (·.typeName)).Perm (c'.registry.userTypeEntities.map (·.typeName))
  layouts : ∀ t e e', c.registry.entityFor? t = some e → c'.registry.entityFor? t = some e' →
    c'.tableOf e' = c.tableOf e ∧ c'.userTypeOf e' = c.userTypeOf e ∧ (c.KeysEnd e → c'.indexesOf e' = c.indexesOf e)

theorem interchangeable_of_same (sources : c'.sources = c.sources) (userTypes : c'.userTypes = c.userTypes)
    (hc : c.registry.Agree) (hc' : c'.registry.Agree) (same : c.registry.Same c'.registry) : Interchangeable c c' where
  entities := same
  byStorageName name := by
    rw [hc.entitiesForStorageName_eq, hc'.entitiesForStorageName_eq]
    exact same.perm_types hc hc' fun _ _ same named => same.storageName.trans named
  tables := by
    rw [hc.tableEntities_eq, hc'.tableEntities_eq]
    exact same.perm_types hc hc' fun _ _ same table => same.role.trans table
  userTypes := by
    rw [hc.userTypeEntities_eq, hc'.userTypeEntities_eq]
    exact same.perm_types hc hc' fun _ _ same userType => same.role.trans userType
  layouts t e e' he he' := by
    have everywhere : AgreeOn (fun _ => True) c c' :=
      ⟨sources, userTypes, fun t _ => same t, fun _ _ _ _ _ _ _ _ => trivial⟩
    have within : e.NamesWithin fun _ => True := fun _ _ _ _ => trivial
    obtain ⟨x, hx, sameEntity⟩ := exists_of_rel (same t) he
    cases hx.symm.trans he'
    exact ⟨everywhere.tableOf sameEntity within, everywhere.userTypeOf sameEntity within,
      fun ends => everywhere.indexesOf sameEntity within ends (same.length_eq hc hc').le⟩

theorem populates_iff {roots : List TypeName} :
    Populates c roots d ↔ Enrolls c.sources c.registry roots d.registry ∧ d = { c with registry := d.registry } := by
  rw [← populate_roots_iff]
  constructor
  · intro ⟨o, ho, ok, hd⟩
    subst hd
    exact ⟨⟨o, ho, ok, rfl⟩, rfl⟩
  · intro ⟨⟨o, ho, ok, hr⟩, hd⟩
    exact ⟨o, ho, ok, hr ▸ hd⟩

theorem populates_of_enrolls (c : Context) {roots : List TypeName} {r : Registry}
    (h : Enrolls c.sources c.registry roots r) : Populates c roots { c with registry := r } :=
  populates_iff.mpr ⟨h, rfl⟩

theorem exists_populates_iff (ids : src.verifier.IgnoresIds) (h : Reach src c) {roots : List TypeName} :
    (∃ d, Populates c roots d) ↔ ∀ t ∈ roots, src.Admissible t := by
  rw [← exists_enrolls_iff ids (reach_sound h), ← reach_sources h]
  constructor
  · intro ⟨d, hd⟩
    exact ⟨_, (populates_iff.mp hd).1⟩
  · intro ⟨r, hr⟩
    exact ⟨_, populates_of_enrolls c hr⟩

/-- The roots in another order leave the same but for ids, and succeed or fail as before unless
    a caller's rule looks at ids. -/
theorem root_order_is_immaterial (h : Reach src c) {roots roots' : List TypeName} (perm : roots.Perm roots') :
    (src.verifier.IgnoresIds → ((∃ d, Populates c roots d) ↔ ∃ d', Populates c roots' d')) ∧
      ∀ d d', Populates c roots d → Populates c roots' d' → Interchangeable d d' := by
  constructor
  · intro ids
    rw [exists_populates_iff ids h, exists_populates_iff ids h]
    simp only [perm.mem_iff]
  · intro d d' hd hd'
    have sound := reach_sound h
    rw [← reach_sources h] at sound
    obtain ⟨enrolls, same⟩ := populates_iff.mp hd
    obtain ⟨enrolls', same'⟩ := populates_iff.mp hd'
    refine interchangeable_of_same ?_ ?_ (enrolls.sound sound).agree (enrolls'.sound sound).agree
      (enrolls.same sound perm enrolls')
    · rw [same, same']
    · rw [same, same']

end WideColumn.Context

namespace WideColumn.Harbour

open Registry

/-- A tug's own types, those of a ship among them, in the order it reaches them. -/
def tugFirst : Registry := entered
  [(tug, tugSeed), (ship, shipSeed), (berth, berthSeed), (sailor, personSeed "sailor"),
   (captain, personSeed "captain")] empty

theorem registers_tug_first :
    Registers sources empty tug ⟨tugFirst, [tug, ship, berth, sailor, captain], .ok ⟨0⟩⟩ := by
  have visits : Visits sources empty [tug] _ :=
    .entered rfl rfl rfl (.entered rfl rfl rfl (.entered rfl rfl rfl (.nil _) rfl
      (.entered rfl rfl rfl (.registered rfl (.nil _)) rfl (.nil _))) rfl
      (.entered rfl rfl rfl (.registered rfl (.nil _)) rfl (.nil _))) rfl (.nil _)
  exact .succeeded rfl rfl rfl visits rfl

def fresh : Context := .new sources (some store)

theorem populates_ship_first : Context.Populates fresh [ship, tug] ⟨sources, withTug, some store⟩ :=
  Context.populates_of_enrolls fresh (.cons registers_ship rfl (.cons registers_tug rfl (.nil _)))

theorem populates_tug_first : Context.Populates fresh [tug, ship] ⟨sources, tugFirst, some store⟩ :=
  Context.populates_of_enrolls fresh (.cons registers_tug_first rfl (.cons (.known rfl) rfl (.nil _)))

end WideColumn.Harbour

namespace WideColumn.Context

/-- The ship is the first entity in one order and the second in the other. -/
theorem ship_or_tug_first : Harbour.sources.verifier.IgnoresIds ∧ Reach Harbour.sources Harbour.fresh ∧
    [Harbour.ship, Harbour.tug].Perm [Harbour.tug, Harbour.ship] ∧
    ((∃ d, Populates Harbour.fresh [Harbour.ship, Harbour.tug] d) ↔
      ∃ d', Populates Harbour.fresh [Harbour.tug, Harbour.ship] d') ∧
    ∃ d d', Populates Harbour.fresh [Harbour.ship, Harbour.tug] d ∧
      Populates Harbour.fresh [Harbour.tug, Harbour.ship] d' ∧
      d.registry.id? Harbour.ship = some ⟨0⟩ ∧ d'.registry.id? Harbour.ship = some ⟨1⟩ ∧ Interchangeable d d' := by
  have ids : Harbour.sources.verifier.IgnoresIds := Verifier.standard_ignoresIds
  have fresh : Reach Harbour.sources Harbour.fresh := .new (some Harbour.store)
  have perm : [Harbour.ship, Harbour.tug].Perm [Harbour.tug, Harbour.ship] := .swap _ _ _
  obtain ⟨both, same⟩ := root_order_is_immaterial fresh perm
  exact ⟨ids, fresh, perm, both ids, _, _, Harbour.populates_ship_first, Harbour.populates_tug_first, rfl, rfl,
    same _ _ Harbour.populates_ship_first Harbour.populates_tug_first⟩

end WideColumn.Context

namespace WideColumn.Club

open Registry

def together : Context := ⟨sources, withBoth, none⟩

theorem populates_founder_first : Context.Populates fresh [founder, member] together :=
  Context.populates_of_enrolls fresh (.cons registers_founder rfl (.cons registers_member_after rfl (.nil _)))

/-- The member has joined by the time it is the founder's turn. -/
theorem populate_member_first : ∃ o, empty.populate sources [member, founder] .empty = some o ∧
    o.result = .error (.verification founder [.stated late]) := by
  have first : edit sources empty (.register member) = some ⟨withMember, [member], .ok ()⟩ := by
    rw [edit, register_eq_some_iff.mpr registers_member]
    rfl
  have second : edit sources withMember (.register founder) =
      some ⟨withMember, [founder], .error (.verification founder [.stated late])⟩ := by
    rw [edit, register_eq_some_iff.mpr refuses_founder_after]
    rfl
  have stops : Outcome.each (edit sources) withMember [.register founder] = some _ :=
    each_cons_eq_some_iff.mpr ⟨_, second, Or.inl ⟨_, rfl, rfl⟩⟩
  exact ⟨_, each_cons_eq_some_iff.mpr ⟨_, first, Or.inr ⟨rfl, _, stops, rfl⟩⟩, rfl⟩

end WideColumn.Club

namespace WideColumn.Context

/-- The founder before the member is a good order of the roots, and the member before the founder
    is none. -/
theorem founder_joins_first_or_not_at_all :
    Reach Club.sources Club.fresh ∧ [Club.founder, Club.member].Perm [Club.member, Club.founder] ∧
    Populates Club.fresh [Club.founder, Club.member] Club.together ∧
    (∃ o, Club.fresh.registry.populate Club.sources [Club.member, Club.founder] .empty = some o ∧
      o.result = .error (.verification Club.founder [.stated Club.late])) ∧
    ¬∃ d, Populates Club.fresh [Club.member, Club.founder] d := by
  obtain ⟨o, called, refused⟩ := Club.populate_member_first
  refine ⟨.new none, .swap _ _ _, Club.populates_founder_first, ⟨o, called, refused⟩, ?_⟩
  rintro ⟨d, o', called', ok, -⟩
  obtain rfl : o = o' := Option.some.inj (called.symm.trans called')
  cases refused.symm.trans ok

end WideColumn.Context
