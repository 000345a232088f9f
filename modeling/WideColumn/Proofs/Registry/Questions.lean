/-
  WideColumn.Proofs.Registry.Questions — what the describer is asked.

  A type is entered right after it was described, and before anything else is asked, so the
  described types among the questions are the types that were added, in the order of their
  ids. The list that a call goes through is older than the call; what holds of it is that no
  type in it is a scalar, and whether a type of it is registered is looked up when its turn
  comes. Where a walk ends early, its last question was about the type that ends it.

  Proved:
  - `Accounted.of_steps`: at every moment of a walk, the questions account for what was added.
  - `Walk.Puts.new`: no moment asks about a registered type or a scalar.
  - `questions_are_accounted_for`: over every run, for what a registration asks at each moment,
    for all that it asked when it ends, and for the questions of a run whose registrations all
    succeed.
-/

import WideColumn.Proofs.Registry.Revisions
import WideColumn.Proofs.Registry.Stopping
import WideColumn.Proofs.Registry.Walk

namespace WideColumn

namespace Registry

variable {src : Sources} {r r' : Registry} {t : TypeName}

/-! ## One walk -/

/-- What the questions of a walk so far say about the registry it started from. -/
structure Accounted (src : Sources) (r : Registry) (w : Walk) : Prop where
  agree : w.registry.Agree
  pending : ∀ u ∈ w.calls.flatten, src.isScalar u = false
  added : ∃ added, w.registry.entities = r.entities ++ added ∧ w.asked.filter src.describes = added.map (·.typeName)
  answered : ∀ u ∈ w.asked, src.describes u = true ∨ src.Undescribed u

theorem Accounted.start (hr : r.Agree) {ts : List TypeName} (scalar : ∀ u ∈ ts, src.isScalar u = false) :
    Accounted src r (.start r ts) where
  agree := hr
  pending := by simpa [Walk.start] using scalar
  added := ⟨[], by simp [Walk.start]⟩
  answered := by simp [Walk.start]

theorem Accounted.of_step {w w' : Walk} (step : w.Step src w') (h : Accounted src r w) : Accounted src r w' := by
  obtain ⟨agree, pending, ⟨added, entities, described⟩, answered⟩ := h
  cases step with
  | returns => exact ⟨agree, by simpa using pending, ⟨added, entities, described⟩, answered⟩
  | known _ =>
    exact ⟨agree, fun u hu => pending u (List.mem_cons_of_mem _ hu), ⟨added, entities, described⟩, answered⟩
  | passes _ undescribed =>
    refine ⟨agree, fun u hu => pending u ?_, ⟨added, entities, ?_⟩, ?_⟩
    · exact List.mem_cons_of_mem _ hu
    · simpa [undescribed.describes] using described
    · exact List.forall_mem_append.mpr ⟨answered, by simpa using Or.inr undescribed⟩
  | @enters r₁ r₂ t rest seed calls asked new ok entered =>
    obtain ⟨e, he, -, rfl⟩ := enter_eq_ok entered
    obtain ⟨hid, ht⟩ := Entity.ofSeed_keeps he
    refine ⟨add_agree agree hid (ht ▸ new), fun u hu => ?_, ⟨added ++ [e], ?_, ?_⟩, ?_⟩
    · rcases List.mem_append.mp (List.flatten_cons ▸ hu) with hu | hu
      · exact (Sources.mem_reachable.mp hu).2
      · exact pending u (List.mem_cons_of_mem _ hu)
    · exact (congrArg (· ++ [e]) entities).trans (List.append_assoc _ _ _)
    · simpa [Sources.describes_of_ok ok, ht] using described
    · exact List.forall_mem_append.mpr ⟨answered, by simpa using Or.inl (Sources.describes_of_ok ok)⟩

theorem Accounted.of_steps {w w' : Walk} (steps : w.Steps src w') (h : Accounted src r w) : Accounted src r w' := by
  induction steps with
  | refl => exact h
  | tail _ step ih => exact ih.of_step step

theorem During.accounted {w : Walk} (h : During src r t w) (hr : r.Agree) : Accounted src r w :=
  (Accounted.start hr (by simpa using h.scalar)).of_steps h.steps

/-- No moment asks about a registered type or a scalar. -/
theorem Walk.Puts.new {w : Walk} {u : TypeName} (puts : w.Puts src u) (h : Accounted src r w) :
    w.registry.isRegistered u = false ∧ src.isScalar u = false := by
  obtain ⟨rest, calls, here, new⟩ := puts.next
  refine ⟨new, h.pending u ?_⟩
  rw [here]
  exact List.mem_cons_self

/-- A new type that someone objects to, or that has a seed, was not asked about before. -/
theorem Accounted.not_asked {w : Walk} (h : Accounted src r w) {u : TypeName} (new : w.registry.isRegistered u = false)
    (known : ¬src.Undescribed u) : u ∉ w.asked := by
  intro asked
  obtain ⟨added, entities, described⟩ := h.added
  have answered : u ∈ w.asked.filter src.describes :=
    List.mem_filter.mpr ⟨asked, (h.answered u asked).resolve_right known⟩
  rw [described] at answered
  obtain ⟨e, he, rfl⟩ := List.mem_map.mp answered
  have there := h.agree.isRegistered_iff.mpr ⟨e, entities ▸ List.mem_append_right _ he, rfl⟩
  cases new.symm.trans there

/-- A walk that fails asks last about the type it fails for, and for the first time. -/
theorem Accounted.last_of_error {w : Walk} (h : Accounted src r w) {o : Outcome Unit} (ends : w.Ends src o) {e : Error}
    (failed : o.result = .error e) : o.asked = w.asked ++ [e.typeName] ∧ e.typeName ∉ w.asked := by
  cases ends with
  | done => cases failed
  | refused new described =>
    cases failed
    refine ⟨rfl, h.not_asked new fun ⟨n, undescribed⟩ => ?_⟩
    cases described.symm.trans undescribed
  | barred new described barred =>
    cases failed
    rw [(bars_of_enter barred).typeName]
    refine ⟨rfl, h.not_asked new fun ⟨n, undescribed⟩ => ?_⟩
    cases described.symm.trans undescribed

/-! ## One registration -/

variable {o : Outcome EntityId}

theorem During.of_visits (new : r.isRegistered t = false) (scalar : src.isScalar t = false) {visited : Outcome Unit}
    (h : Visits src r [t] visited) : ∃ w, During src r t w ∧ w.Ends src visited := by
  obtain ⟨w, steps, ends⟩ := visit_eq_some_iff_walk.mp (visit_eq_some_iff.mpr h)
  exact ⟨w, ⟨new, scalar, steps⟩, ends⟩

/-- Every question of a registration was put at one of its moments. -/
theorem Registers.moment (h : Registers src r t o) {u : TypeName} {before after : List TypeName}
    (asked : o.asked = before ++ u :: after) : ∃ w, During src r t w ∧ w.asked = before ∧ w.Puts src u := by
  have ofVisits : ∀ {visited : Outcome Unit}, r.isRegistered t = false → src.isScalar t = false →
      Visits src r [t] visited → visited.asked = before ++ u :: after →
      ∃ w, During src r t w ∧ w.asked = before ∧ w.Puts src u := by
    intro visited new scalar visits asked
    obtain ⟨w, during, ends⟩ := During.of_visits new scalar visits
    obtain ⟨m, steps, same, puts⟩ := Walk.moment_of_question rfl during.steps ends asked
    exact ⟨m, ⟨new, scalar, steps⟩, same, puts⟩
  cases h with
  | known _ => simp at asked
  | scalar _ _ => simp at asked
  | @unknown cause new scalar described =>
    have asked : [] ++ [t] = before ++ u :: after := asked
    obtain ⟨rfl, rfl⟩ | ⟨_, impossible⟩ := Walk.split_of_concat asked
    · refine ⟨.start r [t], ⟨new, scalar, .refl⟩, rfl, ?_⟩
      cases cause with
      | notFound n => exact Or.inl ⟨_, .passes new ⟨n, described⟩, rfl⟩
      | invalid n reason => exact Or.inr ⟨_, .refused new described, rfl⟩
    · simp at impossible
  | succeeded new scalar _ visits _ => exact ofVisits new scalar visits asked
  | failed new scalar _ visits _ => exact ofVisits new scalar visits asked

/-- What a registration that succeeds was answered is what it added, in the order of the ids. -/
theorem Registers.answered (hr : r.Agree) (h : Registers src r t o) {id : EntityId} (ok : o.result = .ok id) :
    (∃ added, o.registry.entities = r.entities ++ added ∧ o.asked.filter src.describes = added.map (·.typeName)) ∧
      ∀ u ∈ o.asked, src.describes u = true ∨ src.Undescribed u := by
  cases h with
  | known _ => exact ⟨⟨[], by simp⟩, by simp⟩
  | scalar _ _ => cases ok
  | unknown _ _ _ => cases ok
  | failed _ _ _ _ _ => cases ok
  | succeeded new scalar _ visits succeeded =>
    obtain ⟨w, during, ends⟩ := During.of_visits new scalar visits
    have accounted := during.accounted hr
    cases ends with
    | done => exact ⟨accounted.added, accounted.answered⟩
    | refused _ _ => cases succeeded
    | barred _ _ _ => cases succeeded

/-- A registration that fails for a type that is no scalar asks last about the type it fails
    for. -/
theorem Registers.last_of_error (hr : r.Agree) (h : Registers src r t o) {e : Error} (failed : o.result = .error e)
    (entity : ∀ u, e ≠ .notAnEntity u) : ∃ before, o.asked = before ++ [e.typeName] ∧ e.typeName ∉ before := by
  cases h with
  | known _ => cases failed
  | scalar _ _ =>
    cases failed
    exact absurd rfl (entity t)
  | unknown _ _ _ =>
    cases failed
    exact ⟨[], rfl, List.not_mem_nil⟩
  | succeeded _ _ _ _ _ => cases failed
  | failed new scalar _ visits visitFailed =>
    cases failed
    obtain ⟨w, during, ends⟩ := During.of_visits new scalar visits
    exact ⟨w.asked, (during.accounted hr).last_of_error ends visitFailed⟩

/-! ## Edits -/

theorem Revises.map_typeName {edit : Edit} (h : Revises edit r r') :
    r'.entities.map (·.typeName) = r.entities.map (·.typeName) := by
  apply List.ext_getElem?
  intro i
  rw [List.getElem?_map, List.getElem?_map]
  have revised : Option.Rel (fun e e' => edit.revise e = .ok e') r.entities[i]? r'.entities[i]? := h ⟨i⟩
  cases found : r.entities[i]? with
  | none =>
    rw [found] at revised
    cases hr' : r'.entities[i]? with
    | none => rfl
    | some _ => simp [hr'] at revised
  | some e =>
    obtain ⟨e', found', made⟩ := exists_of_rel revised found
    rw [found']
    exact congrArg some (typeName_of_outline (Edit.outline_revise made))

/-- A change that asks nothing accounts for its questions if it keeps the types. -/
theorem ofChange_answers {change : Except Error Registry}
    (keeps : ∀ r', change = .ok r' → r'.entities.map (·.typeName) = r.entities.map (·.typeName)) :
    (Outcome.ofChange r change).registry.entities.map (·.typeName) =
      r.entities.map (·.typeName) ++ (Outcome.ofChange r change).asked.filter src.describes := by
  cases change with
  | error _ => simp [Outcome.ofChange]
  | ok r' => simpa [Outcome.ofChange] using keeps r' rfl

/-- What an edit was answered is what it added, unless it is a registration that fails. -/
theorem edit_answers (hr : r.Agree) {edit : Edit} {o : Outcome Unit} (h : r.edit src edit = some o)
    (unfailing : ∀ t, edit = .register t → o.result = .ok ()) :
    o.registry.entities.map (·.typeName) = r.entities.map (·.typeName) ++ o.asked.filter src.describes := by
  cases edit with
  | register t =>
    obtain ⟨tried, id, registers, ok, rfl⟩ := edit_register_ok_iff.mp ⟨h, unfailing t rfl⟩
    obtain ⟨⟨added, entities, answered⟩, -⟩ := registers.answered hr ok
    rw [answered, ← List.map_append]
    exact congrArg _ entities
  | storageName t table forceQuote =>
    cases h
    exact ofChange_answers fun r' changed => (revises_of_setStorageName hr changed).map_typeName
  | column t p =>
    cases h
    exact ofChange_answers fun r' changed => (revises_of_setColumn hr changed).map_typeName

theorem editAll_singleton (edit : Edit) : r.editAll src [edit] = r.edit src edit := by
  rw [editAll, Outcome.each]
  cases r.edit src edit with
  | none => rfl
  | some o =>
    obtain ⟨r', asked, result⟩ := o
    cases result with
    | error _ => rfl
    | ok _ => simp [Outcome.each, Outcome.followedBy, Outcome.done]

/-- None of the registrations among the edits fails when it is its turn. -/
def Unfailing (src : Sources) (r : Registry) (edits : List Edit) : Prop :=
  ∀ before t after mid o, edits = before ++ .register t :: after → Performs src r before mid →
    mid.edit src (.register t) = some o → o.result = .ok ()

theorem Unfailing.first {edit : Edit} {edits : List Edit} (h : Unfailing src r (edit :: edits)) {o : Outcome Unit}
    (called : r.edit src edit = some o) (t : TypeName) (register : edit = .register t) : o.result = .ok () :=
  h [] t edits r o (congrArg (· :: edits) register) ⟨_, rfl, rfl, rfl⟩ (register ▸ called)

theorem Unfailing.later {edit : Edit} {edits : List Edit} (h : Unfailing src r (edit :: edits)) {o : Outcome Unit}
    (called : r.edit src edit = some o) (ok : o.result = .ok ()) : Unfailing src o.registry edits := by
  intro before t after mid tried split performs
  exact h (edit :: before) t after mid tried (congrArg _ split) (each_cons_ok_iff.mpr ⟨o, called, ok, performs⟩)

theorem editAll_answers (hr : Sound src r) {edits : List Edit} (unfailing : Unfailing src r edits) {o : Outcome Unit}
    (h : r.editAll src edits = some o) :
    o.registry.entities.map (·.typeName) = r.entities.map (·.typeName) ++ o.asked.filter src.describes := by
  induction edits generalizing r o with
  | nil =>
    cases h
    simp [Outcome.done]
  | cons edit edits ih =>
    obtain ⟨first, hfirst, stops⟩ := each_cons_eq_some_iff.mp h
    have answers := edit_answers hr.agree hfirst (unfailing.first hfirst)
    obtain ⟨_, -, rfl⟩ | ⟨ok, after, hafter, rfl⟩ := stops
    · exact answers
    · have more := ih (edit_sound hr edit hfirst) (unfailing.later hfirst ok) hafter
      rw [answers, List.append_assoc, ← List.filter_append] at more
      exact more

end Registry

/-! ## Runs -/

namespace Context

open Registry

variable {src : Sources} {c c' : Context}

/-- What an event asks the describer, if the event ends. -/
def asked? (c : Context) : Event → Option (List TypeName)
  | .register t => (c.registry.register c.sources t).map (·.asked)
  | .populate roots overrides => (c.registry.populate c.sources roots overrides).map (·.asked)
  | .apply overrides => (c.registry.apply c.sources overrides).map (·.asked)
  | .setUserTypes _ => some []

/-- A run in which no registration fails, and all that it asked. -/
inductive Inquiry (src : Sources) : Context → List TypeName → Prop
  | new (userTypes : Option UserTypeStore) : Inquiry src (.new src userTypes) []
  | step {c c' : Context} {asked more : List TypeName} (e : Event) :
      Inquiry src c asked → Unfailing src c.registry e.edits → c.asked? e = some more → c.after? e = some c' →
      Inquiry src c' (asked ++ more)

theorem asked?_eq (c : Context) (e : Event) :
    c.asked? e = (c.registry.editAll c.sources e.edits).map (·.asked) := by
  cases e with
  | register t => rw [Event.edits, editAll_singleton, edit, Option.map_map]; rfl
  | _ => rfl

theorem registry_after? (c : Context) (e : Event) :
    (c.after? e).map (·.registry) = (c.registry.editAll c.sources e.edits).map (·.registry) := by
  cases e with
  | register t => rw [Event.edits, editAll_singleton, edit, after?, Option.map_map, Option.map_map]; rfl
  | setUserTypes _ => rfl
  | _ => rw [after?, Option.map_map]; rfl

theorem Inquiry.reach {asked : List TypeName} (h : Inquiry src c asked) : Reach src c := by
  induction h with
  | new userTypes => exact .new userTypes
  | step e _ _ _ ends ih => exact .step e ih ends

/-- What a run was answered is the types it registered, in the order of the ids. -/
theorem Inquiry.answers {asked : List TypeName} (h : Inquiry src c asked) :
    asked.filter src.describes = c.registry.entities.map (·.typeName) := by
  induction h with
  | new _ => rfl
  | @step c c' asked more e run unfailing asks ends ih =>
    have sources := reach_sources run.reach
    subst sources
    obtain ⟨o, called, rfl⟩ := Option.map_eq_some_iff.mp ((c.asked?_eq e).symm.trans asks)
    have same : o.registry = c'.registry := by
      have left := c.registry_after? e
      rw [called, ends] at left
      exact (Option.some.inj left).symm
    have answers := editAll_answers (reach_sound run.reach) unfailing called
    rw [same, ← ih, ← List.filter_append] at answers
    exact answers.symm

theorem Inquiry.asked_once {asked : List TypeName} (h : Inquiry src c asked) {t : TypeName}
    (there : c.registry.isRegistered t = true) : src.describes t = true ∧ asked.count t = 1 := by
  have agree := (reach_sound h.reach).agree
  obtain ⟨e, he, rfl⟩ := agree.isRegistered_iff.mp there
  have mem : e.typeName ∈ c.registry.entities.map (·.typeName) := List.mem_map_of_mem he
  have described : src.describes e.typeName = true := (List.mem_filter.mp (h.answers ▸ mem)).2
  refine ⟨described, ?_⟩
  rw [← List.count_filter described, h.answers]
  exact List.count_eq_one_of_mem agree.nodup_types mem

/-- An order is registered first thing. -/
theorem inquiry_ordered :
    Inquiry Shop.sources ⟨Shop.sources, Shop.ordered, none⟩ [Shop.order, Shop.customer, ⟨"Note"⟩] := by
  have called := register_eq_some_iff.mpr Shop.registers_order
  refine .step (.register Shop.order) (.new none) ?_ (Option.map_eq_some_iff.mpr ⟨_, called, rfl⟩)
    (Option.map_eq_some_iff.mpr ⟨_, called, rfl⟩)
  intro before t after mid o split performs edited
  have split : [] ++ [Edit.register Shop.order] = before ++ .register t :: after := split
  obtain ⟨rfl, rest⟩ | ⟨_, impossible⟩ := Walk.split_of_concat split
  · cases rest
    obtain ⟨_, done, -, rfl⟩ := performs
    cases done
    obtain ⟨o', called', rfl⟩ := Option.map_eq_some_iff.mp edited
    cases called.symm.trans called'
    rfl
  · simp at impossible

/-- What the describer is asked, moment by moment, registration by registration, and over a
    run whose registrations all succeed. -/
theorem questions_are_accounted_for (h : Reach src c) :
    (∀ t w u, During src c.registry t w → w.Puts src u →
      w.registry.isRegistered u = false ∧ src.isScalar u = false) ∧
    (∀ t o, c.registry.register src t = some o →
      (∀ before u after, o.asked = before ++ u :: after →
        ∃ w, During src c.registry t w ∧ w.asked = before ∧ w.Puts src u) ∧
      (∀ id, o.result = .ok id →
        ∃ added, o.registry.entities = c.registry.entities ++ added ∧
          (∀ i e, added[i]? = some e → e.id.index = c.registry.entities.length + i) ∧
          o.asked.filter src.describes = added.map (·.typeName) ∧
          (added.map (·.typeName)).Nodup ∧
          ∀ u ∈ o.asked, src.describes u = true ∨ src.Undescribed u) ∧
      ∀ e, o.result = .error e → (∀ u, e ≠ .notAnEntity u) →
        ∃ before, o.asked = before ++ [e.typeName] ∧ e.typeName ∉ before) ∧
    ∀ c' asked, Inquiry src c' asked →
      ∀ t, c'.registry.isRegistered t = true → src.describes t = true ∧ asked.count t = 1 := by
  have sound := reach_sound h
  refine ⟨fun t w u during puts => puts.new (during.accounted sound.agree), fun t o called => ?_,
    fun c' asked run t there => run.asked_once there⟩
  have registers := register_eq_some_iff.mp called
  refine ⟨fun before u after => registers.moment, fun id ok => ?_, fun e => registers.last_of_error sound.agree⟩
  obtain ⟨⟨added, entities, described⟩, answered⟩ := registers.answered sound.agree ok
  have agree := (registers_sound sound registers).agree
  refine ⟨added, entities, fun i e found => ?_, described, ?_, answered⟩
  · have place : o.registry.entity? ⟨c.registry.entities.length + i⟩ = some e := by
      rw [entity?, entities, List.getElem?_append_right (Nat.le_add_right _ _), Nat.add_sub_cancel_left, found]
    rw [agree.ids _ e place]
  · have once := agree.nodup_types
    rw [entities, List.map_append] at once
    exact (List.nodup_append.mp once).2.1

/-- The note is asked about and not entered. When the receipt is asked about, the invoice is
    entered already, and the receipt ends its registration. -/
theorem shop_questions : Reach Shop.sources (.new Shop.sources none) ∧
    Reach Shop.sources ⟨Shop.sources, Shop.ordered, none⟩ ∧
    [Shop.order, Shop.customer, ⟨"Note"⟩].filter Shop.sources.describes = Shop.ordered.entities.map (·.typeName) ∧
    (∃ w, During Shop.sources Shop.ordered Shop.invoice w ∧ w.asked = [Shop.invoice] ∧
      w.Puts Shop.sources Shop.receipt ∧ w.registry.isRegistered Shop.receipt = false) ∧
    (∃ before, [Shop.invoice, Shop.receipt] = before ++ [Shop.receipt] ∧ Shop.receipt ∉ before) ∧
    [Shop.order, Shop.customer, ⟨"Note"⟩].count Shop.customer = 1 := by
  have start : Reach Shop.sources (.new Shop.sources none) := .new none
  obtain ⟨-, first, -⟩ := questions_are_accounted_for start
  obtain ⟨-, answered, -⟩ := first Shop.order _ (register_eq_some_iff.mpr Shop.registers_order)
  obtain ⟨added, entities, -, described, -⟩ := answered _ rfl
  obtain ⟨puts, second, runs⟩ := questions_are_accounted_for Shop.reach_ordered
  obtain ⟨moments, -, last⟩ := second Shop.invoice _ (register_eq_some_iff.mpr Shop.refuses_invoice)
  refine ⟨start, Shop.reach_ordered, ?_, ?_, ?_, (runs _ _ inquiry_ordered Shop.customer rfl).2⟩
  · exact described.trans (congrArg _ entities).symm
  · obtain ⟨w, during, asked, put⟩ := moments [Shop.invoice] Shop.receipt [] rfl
    exact ⟨w, during, asked, put, (puts _ w _ during put).1⟩
  · exact last _ rfl fun u h => nomatch h

end Context

end WideColumn
