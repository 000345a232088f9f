/-
  WideColumn.Proofs.Registry.Stopping — where a change that fails stops.

  Roots and overrides come down to steps, and the first step that fails ends them. A step that
  fails has changed nothing, so what is left is what the steps before it made. Those are the
  steps of shorter overrides (`Overrides.CutAt`): the entries before the one that the step
  belongs to, and of this one its type, its table and the columns before the step. An entry
  that is cut down to its type still has a step for its table, and this one does nothing.

  Proved:
  - `each_error_iff`: a list of things fails at one of them, once those before it are done.
  - `edit_eq_of_error`: an edit that fails leaves the registry as it was.
  - `Performs.cut`: what comes before a step is what the overrides that are cut there come to.
  - `stops_of_apply`: overrides that fail stop before a step that is rejected.
  - `failing_step_leaves_no_trace`: over every run, for overrides alone and for roots that come
    before them.
-/

import WideColumn.Proofs.Attempt
import WideColumn.Proofs.Registry.Roots

namespace WideColumn

/-- The overrides before a step: the entries before its own, and the part of its own that comes
    before it. -/
inductive Overrides.CutAt (o : Overrides) : Registry.Edit → Overrides → Prop
  | register {before after : List EntityOverride} {x : EntityOverride} :
      o.entities = before ++ x :: after → CutAt o (.register x.typeName) ⟨before⟩
  | storageName {before after : List EntityOverride} {x : EntityOverride} :
      o.entities = before ++ x :: after →
      CutAt o (.storageName x.typeName x.tableName x.forceQuote) ⟨before ++ [⟨x.typeName, none, false, []⟩]⟩
  | column {before after : List EntityOverride} {x : EntityOverride} {ps qs : List PropertyOverride}
      {p : PropertyOverride} :
      o.entities = before ++ x :: after → x.properties = ps ++ p :: qs →
      CutAt o (.column x.typeName p) ⟨before ++ [{ x with properties := ps }]⟩

namespace Registry

open Attempt

variable {src : Sources} {r r' : Registry} {x : Error}

/-- The edits are all done, and leave `r'`. -/
def Performs (src : Sources) (r : Registry) (edits : List Edit) (r' : Registry) : Prop :=
  ∃ o, r.editAll src edits = some o ∧ o.result = .ok () ∧ o.registry = r'

/-- The edit fails for this reason and leaves the registry as it is. -/
def Rejects (src : Sources) (r : Registry) (edit : Edit) (x : Error) : Prop :=
  ∃ o, r.edit src edit = some o ∧ o.result = .error x ∧ o.registry = r

/-- The overrides stop before a step that is rejected, and leave what they make of the registry
    when they are cut there. -/
def Stops (src : Sources) (r : Registry) (o : Overrides) (x : Error) (r' : Registry) : Prop :=
  ∃ edit cut done, o.CutAt edit cut ∧ r.apply src cut = some done ∧ done.result = .ok () ∧ done.registry = r' ∧
    r'.Rejects src edit x

/-! ## One thing after another -/

theorem each_error_iff {α : Type} {f : Registry → α → Option (Outcome Unit)} {as : List α} :
    (∃ o, Outcome.each f r as = some o ∧ o.result = .error x ∧ o.registry = r') ↔
      ∃ before a after mid, as = before ++ a :: after ∧
        (∃ o, Outcome.each f r before = some o ∧ o.result = .ok () ∧ o.registry = mid) ∧
        ∃ o, f mid a = some o ∧ o.result = .error x ∧ o.registry = r' := by
  constructor
  · rintro ⟨o, h, failed, rfl⟩
    induction as generalizing r o with
    | nil =>
      cases h
      cases failed
    | cons a as ih =>
      obtain ⟨first, hfirst, ⟨_, -, rfl⟩ | ⟨succeeded, after, hafter, rfl⟩⟩ := each_cons_eq_some_iff.mp h
      · exact ⟨[], a, as, r, rfl, ⟨_, rfl, rfl, rfl⟩, _, hfirst, failed, rfl⟩
      · obtain ⟨before, b, rest, mid, rfl, done, tried⟩ := ih after hafter failed
        exact ⟨a :: before, b, rest, mid, rfl, each_cons_ok_iff.mpr ⟨first, hfirst, succeeded, done⟩, tried⟩
  · rintro ⟨before, a, after, mid, rfl, done, o, h, failed, hr'⟩
    induction before generalizing r with
    | nil =>
      obtain ⟨_, hdone, -, rfl⟩ := done
      cases hdone
      exact ⟨o, each_cons_eq_some_iff.mpr ⟨o, h, Or.inl ⟨x, failed, rfl⟩⟩, failed, hr'⟩
    | cons b before ih =>
      obtain ⟨first, hfirst, succeeded, done⟩ := each_cons_ok_iff.mp done
      obtain ⟨o, h, failed, hr'⟩ := ih done
      exact ⟨_, each_cons_eq_some_iff.mpr ⟨first, hfirst, Or.inr ⟨succeeded, o, h, rfl⟩⟩, failed, hr'⟩

theorem edit_eq_of_error (hr : r.Agree) {edit : Edit} {o : Outcome Unit} (h : r.edit src edit = some o)
    (failed : o.result = .error x) : o.registry = r := by
  have change : ∀ {change : Except Error Registry},
      (Outcome.ofChange r change).result = .error x → (Outcome.ofChange r change).registry = r := by
    intro change failed
    cases change with
    | error _ => rfl
    | ok _ => cases failed
  cases edit with
  | register t =>
    obtain ⟨o', ho, rfl⟩ := Option.map_eq_some_iff.mp h
    exact (register_eq_some_iff.mp ho).eq_of_error hr (map_eq_error_iff.mp failed)
  | storageName t table forceQuote =>
    cases h
    exact change failed
  | column t p =>
    cases h
    exact change failed

/-- Edits that fail are done up to one that is rejected. -/
theorem exists_rejected (hr : Sound src r) {edits : List Edit} {o : Outcome Unit} (h : r.editAll src edits = some o)
    (failed : o.result = .error x) :
    ∃ before edit after, edits = before ++ edit :: after ∧ Performs src r before o.registry ∧
      Rejects src o.registry edit x := by
  obtain ⟨before, edit, after, _, split, ⟨done, hdone, ok, rfl⟩, tried, htried, failed, same⟩ :=
    each_error_iff.mp ⟨o, h, failed, rfl⟩
  have unchanged := edit_eq_of_error (editAll_sound hr hdone).agree htried failed
  rw [← same, unchanged]
  exact ⟨before, edit, after, split, ⟨done, hdone, ok, rfl⟩, tried, htried, failed, unchanged⟩

/-! ## Steps and overrides -/

theorem Performs.append {mid : Registry} {before after : List Edit} (h : Performs src r before mid)
    (h' : Performs src mid after r') : Performs src r (before ++ after) r' :=
  each_append_ok_iff.mpr ⟨mid, h, h'⟩

/-- Where an override states no table and asks for no quotes, a registered type keeps its name. -/
theorem setStorageName_none (hr : r.Agree) {t : TypeName} (there : r.isRegistered t = true) :
    r.setStorageName t none false = .ok r := by
  obtain ⟨e, he⟩ := hr.isRegistered_iff.mp there
  simp [setStorageName, hr.entityFor?_eq_some_iff.mpr he, storageNameFor]

/-- An entry that states nothing but a type registers it. -/
theorem Performs.typeOnly (hr : Sound src r) {t : TypeName} (h : Performs src r [.register t] r') :
    Performs src r (Edit.ofEntity ⟨t, none, false, []⟩) r' := by
  refine Performs.append h ?_
  obtain ⟨first, hfirst, ok, _, hdone, -, rfl⟩ := each_cons_ok_iff.mp h
  cases hdone
  obtain ⟨o, id, registers, registered, rfl⟩ := edit_register_ok_iff.mp ⟨hfirst, ok⟩
  have agree := (registers_sound hr registers).agree
  have named : o.registry.edit src (.storageName t none false) = some (.ofChange o.registry (.ok o.registry)) := by
    rw [edit, setStorageName_none agree (registers.isRegistered registered)]
  exact each_cons_ok_iff.mpr ⟨_, named, rfl, _, rfl, rfl, rfl⟩

/-- Overrides that fail do so in one entry, once those before it are applied. -/
theorem exists_failing_entity {entities : List EntityOverride} {o : Outcome Unit}
    (h : r.editAll src (entities.flatMap Edit.ofEntity) = some o) (failed : o.result = .error x) :
    ∃ before entity after mid, entities = before ++ entity :: after ∧
      Performs src r (before.flatMap Edit.ofEntity) mid ∧
      ∃ tried, mid.editAll src (Edit.ofEntity entity) = some tried ∧ tried.result = .error x ∧
        tried.registry = o.registry := by
  induction entities generalizing r o with
  | nil =>
    cases h
    cases failed
  | cons entity entities ih =>
    obtain ⟨first, hfirst, ⟨_, -, rfl⟩ | ⟨ok, later, hlater, rfl⟩⟩ := each_append_eq_some_iff.mp h
    · exact ⟨[], entity, entities, r, rfl, ⟨_, rfl, rfl, rfl⟩, _, hfirst, failed, rfl⟩
    · obtain ⟨before, other, after, mid, rfl, done, tried⟩ := ih hlater failed
      exact ⟨entity :: before, other, after, mid, rfl, Performs.append ⟨first, hfirst, ok, rfl⟩ done, tried⟩

/-- What comes before a step of an entry is the entry, cut down to what comes before the step. -/
theorem Performs.cut {entity : EntityOverride} {before after : List Edit} {edit : Edit}
    (split : Edit.ofEntity entity = before ++ edit :: after) {o : Overrides} {entities rest : List EntityOverride}
    (there : o.entities = entities ++ entity :: rest) {mid : Registry} (hr : Sound src mid)
    (done : Performs src r (Edit.ofOverrides ⟨entities⟩) mid) (h : Performs src mid before r') :
    ∃ cut, o.CutAt edit cut ∧ Performs src r (Edit.ofOverrides cut) r' := by
  have extend : ∀ {last : EntityOverride}, Performs src mid (Edit.ofEntity last) r' →
      Performs src r (Edit.ofOverrides ⟨entities ++ [last]⟩) r' := by
    intro last performs
    have edits : Edit.ofOverrides ⟨entities ++ [last]⟩ = Edit.ofOverrides ⟨entities⟩ ++ Edit.ofEntity last := by
      simp [Edit.ofOverrides]
    exact edits ▸ done.append performs
  -- an entry registers its type, then sets its storage name, and then the columns of its properties
  rcases before with _ | ⟨first, _ | ⟨second, columns⟩⟩
  · cases split
    obtain ⟨_, hdone, -, rfl⟩ := h
    cases hdone
    exact ⟨_, .register there, done⟩
  · cases split
    exact ⟨_, .storageName there, extend (h.typeOnly hr)⟩
  · simp only [Edit.ofEntity, List.cons_append, List.cons.injEq] at split
    obtain ⟨rfl, rfl, columnsSplit⟩ := split
    obtain ⟨ps, _, properties, rfl, last⟩ := List.map_eq_append_iff.mp columnsSplit
    obtain ⟨p, qs, rfl, rfl, rfl⟩ := List.map_eq_cons_iff.mp last
    exact ⟨_, .column there properties, extend h⟩

/-- Overrides that fail stop before a step that is rejected. -/
theorem stops_of_apply (hr : Sound src r) {o : Overrides} {out : Outcome Unit} (h : r.apply src o = some out)
    (failed : out.result = .error x) : Stops src r o x out.registry := by
  obtain ⟨entities, entity, rest, mid, there, done, tried, htried, failed, same⟩ := exists_failing_entity h failed
  have sound : Sound src mid := by
    obtain ⟨_, hdone, -, rfl⟩ := done
    exact editAll_sound hr hdone
  obtain ⟨before, edit, after, split, performs, rejects⟩ := exists_rejected sound htried failed
  rw [same] at performs rejects
  obtain ⟨cut, hcut, applied, happlied, ok, left⟩ := Performs.cut split there sound done performs
  exact ⟨edit, cut, applied, hcut, happlied, ok, left, rejects⟩

/-! ## Roots -/

theorem performs_roots_iff {roots : List TypeName} :
    Performs src r (roots.map .register) r' ↔
      ∃ o, r.populate src roots .empty = some o ∧ o.result = .ok () ∧ o.registry = r' := by
  unfold populate
  rw [show Edit.ofOverrides .empty = [] from rfl, List.append_nil]
  exact Iff.rfl

end Registry

end WideColumn

/-! ## A shop with wrong names -/

namespace WideColumn.Shop

open Registry

/-- Customers have no address. -/
def misnamed : Overrides where
  entities :=
    [⟨order, some "Sales", true, []⟩,
     ⟨customer, some "Clients", false,
      [⟨"Order", some "Orders", true⟩, ⟨"Address", none, true⟩, ⟨"Note", none, false⟩]⟩,
     ⟨receipt, none, false, []⟩]

end WideColumn.Shop

namespace WideColumn.Context

open Registry

variable {src : Sources} {c : Context}

/-- Whatever fails, what is left is what the steps before it made: roots or overrides that are
    cut there succeed and leave the same. The step itself leaves no trace, and no later step is
    taken. -/
theorem failing_step_leaves_no_trace (h : Reach src c) :
    (∀ o out x, c.registry.apply src o = some out → out.result = .error x →
      Stops src c.registry o x out.registry) ∧
    ∀ roots o out x, c.registry.populate src roots o = some out → out.result = .error x →
      (∃ before t after done, roots = before ++ t :: after ∧
        c.registry.populate src before .empty = some done ∧ done.result = .ok () ∧ done.registry = out.registry ∧
        Rejects src out.registry (.register t) x) ∨
      ∃ done, c.registry.populate src roots .empty = some done ∧ done.result = .ok () ∧
        Stops src done.registry o x out.registry := by
  have sound := reach_sound h
  refine ⟨fun o out x called failed => stops_of_apply sound called failed, fun roots o out x called failed => ?_⟩
  obtain ⟨rooted, hrooted, ⟨_, -, rfl⟩ | ⟨ok, applied, happlied, rfl⟩⟩ := each_append_eq_some_iff.mp called
  · left
    obtain ⟨before, edit, after, split, performs, rejects⟩ := exists_rejected sound hrooted failed
    obtain ⟨ts, _, rfl, rfl, last⟩ := List.map_eq_append_iff.mp split
    obtain ⟨t, rest, rfl, rfl, rfl⟩ := List.map_eq_cons_iff.mp last
    obtain ⟨done, hdone, ok, left⟩ := performs_roots_iff.mp performs
    exact ⟨ts, t, rest, done, rfl, hdone, ok, left, rejects⟩
  · right
    obtain ⟨done, hdone, ok, left⟩ := performs_roots_iff.mp ⟨rooted, hrooted, ok, rfl⟩
    have stops := stops_of_apply (editAll_sound sound hrooted) happlied failed
    exact ⟨done, hdone, ok, left ▸ stops⟩

/-- Customers are renamed up to the address that they do not have, and an order is there
    although the invoice after it fails. -/
theorem misnamed_shop_stops : Reach Shop.sources ⟨Shop.sources, Shop.ordered, none⟩ ∧
    (∃ out, Shop.ordered.apply Shop.sources Shop.misnamed = some out ∧
      out.result = .error (.missingProperty Shop.customer "Address") ∧
      out.registry.entities.map (·.storageName.name) = ["Sales", "clients"] ∧
      Stops Shop.sources Shop.ordered Shop.misnamed (.missingProperty Shop.customer "Address") out.registry) ∧
    Reach Shop.sources (.new Shop.sources none) ∧
    ∃ out, Registry.empty.populate Shop.sources [Shop.order, Shop.invoice, Shop.customer] Shop.misnamed = some out ∧
      out.result = .error (.invalidIdentifier Shop.receipt .empty) ∧ out.registry = Shop.ordered ∧
      ((∃ before t after done, [Shop.order, Shop.invoice, Shop.customer] = before ++ t :: after ∧
          Registry.empty.populate Shop.sources before .empty = some done ∧ done.result = .ok () ∧
          done.registry = out.registry ∧
          Rejects Shop.sources out.registry (.register t) (.invalidIdentifier Shop.receipt .empty)) ∨
        ∃ done, Registry.empty.populate Shop.sources [Shop.order, Shop.invoice, Shop.customer] .empty = some done ∧
          done.result = .ok () ∧
          Stops Shop.sources done.registry Shop.misnamed (.invalidIdentifier Shop.receipt .empty) out.registry) := by
  obtain ⟨applied, happlied, refusal, names⟩ : ∃ out, Shop.ordered.apply Shop.sources Shop.misnamed = some out ∧
      out.result = .error (.missingProperty Shop.customer "Address") ∧
      out.registry.entities.map (·.storageName.name) = ["Sales", "clients"] := ⟨_, rfl, rfl, rfl⟩
  have refused : edit Shop.sources Shop.ordered (.register Shop.invoice) = some _ :=
    Option.map_eq_some_iff.mpr ⟨_, register_eq_some_iff.mpr Shop.refuses_invoice, rfl⟩
  have enrolled := performs_roots_iff.mpr (populate_roots_iff.mpr (.cons Shop.registers_order rfl (.nil _)))
  obtain ⟨out, called, failed, left⟩ := each_error_iff.mpr ⟨_, _, _, _, rfl, enrolled, _, refused, rfl, rfl⟩
  refine ⟨Shop.reach_ordered, ⟨applied, happlied, refusal, names, ?_⟩, .new none, out, called, failed, left, ?_⟩
  · exact (failing_step_leaves_no_trace Shop.reach_ordered).1 _ _ _ happlied refusal
  · exact (failing_step_leaves_no_trace (.new none)).2 _ _ _ _ called failed

end WideColumn.Context
