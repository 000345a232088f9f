/-
  WideColumn.Proofs.Registry.Walk — a visit seen while it runs.

  A visit says what it comes to and not what happened on the way. The walk has the moments in
  between: the registry as it is, what each unfinished call has yet to go through, innermost
  first, and the questions asked so far. One step looks at the first type of the innermost
  call. A type that is entered opens a call of its own for the types it reaches, and the rest
  of the list waits below it; this list was made when its call began, so it may hold types
  that other calls have entered meanwhile. A call that has nothing left returns.

  Proved:
  - `steps_of_visits`, `ends_of_visits`: a visit is walked in the midst of whatever waits for it.
  - `Comes.of_step`: what a walk comes to is what it came to before the step.
  - `visit_eq_some_iff_walk`: a visit comes to what its walk ends with, and without an end of
    its walk it comes to nothing.
  - `Puts.next`, `moment_of_question`: a question is about the next type, if this is new, and each
    question of a walk was put at one of its moments.
-/

import WideColumn.Proofs.Registry.Visit

namespace WideColumn

/-! ## What is described -/

/-- Whether the describer has a seed for the type. -/
def Sources.describes (src : Sources) (t : TypeName) : Bool := (src.describer.describe t).isOk

namespace Sources

variable {src : Sources} {t : TypeName}

theorem describes_of_ok {seed : EntitySeed} (h : src.describer.describe t = .ok seed) : src.describes t = true := by
  rw [describes, h]
  rfl

theorem Undescribed.describes (h : src.Undescribed t) : src.describes t = false := by
  obtain ⟨n, h⟩ := h
  rw [Sources.describes, h]
  rfl

end Sources

namespace Registry

/-! ## Steps -/

/-- A visit that may have work left. -/
structure Walk where
  registry : Registry
  /-- What each unfinished call has yet to go through, the innermost call first. -/
  calls : List (List TypeName)
  asked : List TypeName

variable {src : Sources} {r : Registry}

namespace Walk

def start (r : Registry) (ts : List TypeName) : Walk := ⟨r, [ts], []⟩

inductive Step (src : Sources) : Walk → Walk → Prop
  | returns {r : Registry} {calls : List (List TypeName)} {asked : List TypeName} :
      Step src ⟨r, [] :: calls, asked⟩ ⟨r, calls, asked⟩
  | known {r : Registry} {t : TypeName} {rest : List TypeName} {calls : List (List TypeName)} {asked : List TypeName} :
      r.isRegistered t = true → Step src ⟨r, (t :: rest) :: calls, asked⟩ ⟨r, rest :: calls, asked⟩
  | passes {r : Registry} {t : TypeName} {rest : List TypeName} {calls : List (List TypeName)} {asked : List TypeName} :
      r.isRegistered t = false → src.Undescribed t →
      Step src ⟨r, (t :: rest) :: calls, asked⟩ ⟨r, rest :: calls, asked ++ [t]⟩
  | enters {r r' : Registry} {t : TypeName} {rest : List TypeName} {seed : EntitySeed} {calls : List (List TypeName)}
      {asked : List TypeName} :
      r.isRegistered t = false → src.describer.describe t = .ok seed → r.enter src t seed = .ok r' →
      Step src ⟨r, (t :: rest) :: calls, asked⟩ ⟨r', src.reachable seed :: rest :: calls, asked ++ [t]⟩

abbrev Steps (src : Sources) : Walk → Walk → Prop := Relation.ReflTransGen (Step src)

/-- The walk is over, and this is what came of it. -/
inductive Ends (src : Sources) : Walk → Outcome Unit → Prop
  | done {r : Registry} {asked : List TypeName} : Ends src ⟨r, [], asked⟩ ⟨r, asked, .ok ()⟩
  | refused {r : Registry} {t n : TypeName} {rest : List TypeName} {reason : String} {calls : List (List TypeName)}
      {asked : List TypeName} :
      r.isRegistered t = false → src.describer.describe t = .error (.invalid n reason) →
      Ends src ⟨r, (t :: rest) :: calls, asked⟩ ⟨r, asked ++ [t], .error (.unknownEntity t (.invalid n reason))⟩
  | barred {r : Registry} {t : TypeName} {rest : List TypeName} {seed : EntitySeed} {e : Error}
      {calls : List (List TypeName)} {asked : List TypeName} :
      r.isRegistered t = false → src.describer.describe t = .ok seed → r.enter src t seed = .error e →
      Ends src ⟨r, (t :: rest) :: calls, asked⟩ ⟨r, asked ++ [t], .error e⟩

/-! ## A visit is walked -/

theorem steps_of_visits {ts : List TypeName} {o : Outcome Unit} (h : Visits src r ts o) (succeeded : o.result = .ok ())
    (calls : List (List TypeName)) (asked : List TypeName) :
    Steps src ⟨r, ts :: calls, asked⟩ ⟨o.registry, calls, asked ++ o.asked⟩ := by
  induction h generalizing calls asked with
  | nil r => exact .single (by simpa [Outcome.done] using Step.returns)
  | registered there _ ih => exact .head (.known there) (ih succeeded calls asked)
  | @passed r t rest o new undescribed _ ih =>
    refine .head (.passes new undescribed) ?_
    simpa [Outcome.asking] using ih succeeded calls (asked ++ [t])
  | refused _ _ => cases succeeded
  | barred _ _ _ => cases succeeded
  | failed _ _ _ _ failed _ => cases failed.symm.trans succeeded
  | @entered r r' t rest seed below after new described entered _ belowOk _ ihBelow ihAfter =>
    refine .head (.enters new described entered) ((ihBelow belowOk (rest :: calls) (asked ++ [t])).trans ?_)
    simpa [Outcome.asking, Outcome.followedBy] using ihAfter succeeded calls (asked ++ [t] ++ below.asked)

/-- A visit that fails is walked up to its failure. The calls that it leaves unfinished stand
    there as they are. -/
theorem ends_of_visits {ts : List TypeName} {o : Outcome Unit} (h : Visits src r ts o) {e : Error}
    (failed : o.result = .error e) (calls : List (List TypeName)) (asked : List TypeName) :
    ∃ w, Steps src ⟨r, ts :: calls, asked⟩ w ∧ w.Ends src ⟨o.registry, asked ++ o.asked, .error e⟩ := by
  induction h generalizing calls asked with
  | nil r => cases failed
  | registered there _ ih =>
    obtain ⟨w, steps, ends⟩ := ih failed calls asked
    exact ⟨w, .head (.known there) steps, ends⟩
  | @passed r t rest o new undescribed _ ih =>
    obtain ⟨w, steps, ends⟩ := ih failed calls (asked ++ [t])
    exact ⟨w, .head (.passes new undescribed) steps, by simpa [Outcome.asking] using ends⟩
  | refused new described =>
    injection failed with failed
    exact ⟨_, .refl, failed ▸ .refused new described⟩
  | barred new described barred =>
    injection failed with failed
    exact ⟨_, .refl, failed ▸ .barred new described barred⟩
  | @failed r r' t rest seed below e' new described entered _ _ ih =>
    obtain ⟨w, steps, ends⟩ := ih failed (rest :: calls) (asked ++ [t])
    exact ⟨w, .head (.enters new described entered) steps, by simpa [Outcome.asking] using ends⟩
  | @entered r r' t rest seed below after new described entered hbelow belowOk _ _ ihAfter =>
    obtain ⟨w, steps, ends⟩ := ihAfter failed calls (asked ++ [t] ++ below.asked)
    have first := (steps_of_visits hbelow belowOk (rest :: calls) (asked ++ [t])).trans steps
    refine ⟨w, .head (.enters new described entered) first, ?_⟩
    simpa [Outcome.asking, Outcome.followedBy] using ends

end Walk

/-! ## A walk is a visit -/

/-- To visit one list and then another is to visit the first, and the second if the first is
    visited to a good end. -/
theorem Visits.split {ts us : List TypeName} {o : Outcome Unit} (h : Visits src r (ts ++ us) o) :
    ∃ first, Visits src r ts first ∧
      ((∃ e, first.result = .error e ∧ o = first) ∨
        (first.result = .ok () ∧ ∃ after, Visits src first.registry us after ∧ o = first.followedBy after)) := by
  induction ts generalizing r o with
  | nil => exact ⟨_, .nil r, Or.inr ⟨rfl, o, h, rfl⟩⟩
  | cons t ts ih =>
    cases h with
    | registered there h =>
      obtain ⟨first, hfirst, ends⟩ := ih h
      exact ⟨first, .registered there hfirst, ends⟩
    | passed new undescribed h =>
      obtain ⟨first, hfirst, ⟨e, failed, rfl⟩ | ⟨firstOk, after, hafter, rfl⟩⟩ := ih h
      · exact ⟨_, .passed new undescribed hfirst, Or.inl ⟨e, failed, rfl⟩⟩
      · exact ⟨_, .passed new undescribed hfirst, Or.inr ⟨firstOk, after, hafter, rfl⟩⟩
    | refused new described => exact ⟨_, .refused new described, Or.inl ⟨_, rfl, rfl⟩⟩
    | barred new described barred => exact ⟨_, .barred new described barred, Or.inl ⟨_, rfl, rfl⟩⟩
    | failed new described entered below failed =>
      exact ⟨_, .failed new described entered below failed, Or.inl ⟨_, failed, rfl⟩⟩
    | @entered _ _ _ _ _ below _ new described entered hbelow belowOk h =>
      obtain ⟨first, hfirst, ⟨e, failed, rfl⟩ | ⟨firstOk, after, hafter, rfl⟩⟩ := ih h
      · exact ⟨_, .entered new described entered hbelow belowOk hfirst, Or.inl ⟨e, failed, rfl⟩⟩
      · refine ⟨_, .entered new described entered hbelow belowOk hfirst, Or.inr ⟨firstOk, after, hafter, ?_⟩⟩
        simp [Outcome.asking, Outcome.followedBy]

namespace Walk

/-- What a walk will come to: what is still to go through, innermost first, is visited as one
    list, and the questions asked so far come before those of this visit. -/
def Comes (src : Sources) (w : Walk) (o : Outcome Unit) : Prop :=
  ∃ visited, Visits src w.registry w.calls.flatten visited ∧
    o = ⟨visited.registry, w.asked ++ visited.asked, visited.result⟩

theorem Ends.comes {w : Walk} {o : Outcome Unit} (h : w.Ends src o) : w.Comes src o := by
  cases h with
  | done => exact ⟨_, .nil _, by simp [Outcome.done]⟩
  | refused new described => exact ⟨_, .refused new described, rfl⟩
  | barred new described barred => exact ⟨_, .barred new described barred, rfl⟩

/-- What a walk comes to is what it came to before the step. -/
theorem Comes.of_step {w w' : Walk} (step : w.Step src w') {o : Outcome Unit} (h : w'.Comes src o) :
    w.Comes src o := by
  obtain ⟨visited, hvisited, rfl⟩ := h
  cases step with
  | returns => exact ⟨visited, by simpa using hvisited, rfl⟩
  | known there => exact ⟨visited, .registered there hvisited, rfl⟩
  | passes new undescribed => exact ⟨_, .passed new undescribed hvisited, by simp [Outcome.asking]⟩
  | enters new described entered =>
    obtain ⟨below, hbelow, ⟨e, failed, rfl⟩ | ⟨belowOk, after, hafter, rfl⟩⟩ := Visits.split hvisited
    · exact ⟨_, .failed new described entered hbelow failed, by simp [Outcome.asking]⟩
    · exact ⟨_, .entered new described entered hbelow belowOk hafter, by simp [Outcome.asking, Outcome.followedBy]⟩

theorem Comes.of_steps {w w' : Walk} (steps : w.Steps src w') {o : Outcome Unit} (h : w'.Comes src o) :
    w.Comes src o := by
  induction steps with
  | refl => exact h
  | tail _ step ih => exact ih (h.of_step step)

end Walk

/-- A visit comes to what its walk ends with. -/
theorem visit_eq_some_iff_walk {ts : List TypeName} {o : Outcome Unit} :
    visit src r ts = some o ↔ ∃ w, (Walk.start r ts).Steps src w ∧ w.Ends src o := by
  rw [visit_eq_some_iff]
  constructor
  · intro h
    rcases hresult : o.result with e | ⟨⟩
    · obtain ⟨w, steps, ends⟩ := Walk.ends_of_visits h hresult [] []
      exact ⟨w, steps, by simpa [← hresult] using ends⟩
    · have steps := Walk.steps_of_visits h hresult [] []
      have ends : Walk.Ends src ⟨o.registry, [], o.asked⟩ ⟨o.registry, o.asked, .ok ()⟩ := .done
      exact ⟨_, steps, by simpa [← hresult] using ends⟩
  · intro ⟨w, steps, ends⟩
    obtain ⟨visited, hvisited, rfl⟩ := ends.comes.of_steps steps
    simpa [Walk.start] using hvisited

/-! ## Questions of a walk -/

namespace Walk

/-- At this moment the describer is asked about `u`, by the next step or at the end. -/
def Puts (src : Sources) (w : Walk) (u : TypeName) : Prop :=
  (∃ w', w.Step src w' ∧ w'.asked = w.asked ++ [u]) ∨ ∃ o, w.Ends src o ∧ o.asked = w.asked ++ [u]

/-- A question is about the next type of the innermost call, and only if this is new. -/
theorem Puts.next {w : Walk} {u : TypeName} (puts : w.Puts src u) :
    ∃ rest calls, w.calls = (u :: rest) :: calls ∧ w.registry.isRegistered u = false := by
  obtain ⟨w', step, asked⟩ | ⟨o, ends, asked⟩ := puts
  · cases step with
    | returns => simp at asked
    | known _ => simp at asked
    | passes new _ =>
      cases List.append_cancel_left asked
      exact ⟨_, _, rfl, new⟩
    | enters new _ _ =>
      cases List.append_cancel_left asked
      exact ⟨_, _, rfl, new⟩
  · cases ends with
    | done => simp at asked
    | refused new _ =>
      cases List.append_cancel_left asked
      exact ⟨_, _, rfl, new⟩
    | barred new _ _ =>
      cases List.append_cancel_left asked
      exact ⟨_, _, rfl, new⟩

theorem Step.asked {w w' : Walk} (h : w.Step src w') :
    w'.asked = w.asked ∨ ∃ u, w'.asked = w.asked ++ [u] := by
  cases h with
  | returns => exact Or.inl rfl
  | known _ => exact Or.inl rfl
  | passes _ _ => exact Or.inr ⟨_, rfl⟩
  | enters _ _ _ => exact Or.inr ⟨_, rfl⟩

theorem Ends.asked {w : Walk} {o : Outcome Unit} (h : w.Ends src o) :
    o.asked = w.asked ∨ ∃ u, o.asked = w.asked ++ [u] := by
  cases h with
  | done => exact Or.inl rfl
  | refused _ _ => exact Or.inr ⟨_, rfl⟩
  | barred _ _ _ => exact Or.inr ⟨_, rfl⟩

/-- A place in a list that has one element more is a place in the list or is the new end. -/
theorem split_of_concat {α : Type} {xs before after : List α} {x y : α} (h : xs ++ [y] = before ++ x :: after) :
    (xs = before ∧ y = x) ∨ ∃ later, xs = before ++ x :: later := by
  rcases List.eq_nil_or_concat after with rfl | ⟨later, last, rfl⟩
  · obtain ⟨same, rest⟩ := List.append_inj' h rfl
    exact Or.inl ⟨same, by simpa using rest⟩
  · refine Or.inr ⟨later, ?_⟩
    rw [List.concat_eq_append, ← List.cons_append, ← List.append_assoc] at h
    exact (List.append_inj' h rfl).1

/-- Every question so far was put at a moment of the walk, when those before it were asked. -/
theorem moment_of_step_question {w₀ w : Walk} (start : w₀.asked = []) (steps : w₀.Steps src w) {u : TypeName}
    {before after : List TypeName} (asked : w.asked = before ++ u :: after) :
    ∃ m, w₀.Steps src m ∧ m.asked = before ∧ m.Puts src u := by
  induction steps generalizing after with
  | refl => simp [start] at asked
  | @tail m w earlier step ih =>
    rcases step.asked with same | ⟨v, more⟩
    · exact ih (same ▸ asked)
    · rcases split_of_concat (more ▸ asked) with ⟨rfl, rfl⟩ | ⟨later, split⟩
      · exact ⟨m, earlier, rfl, Or.inl ⟨w, step, more⟩⟩
      · exact ih split

theorem moment_of_question {w₀ w : Walk} (start : w₀.asked = []) (steps : w₀.Steps src w) {o : Outcome Unit}
    (ends : w.Ends src o) {u : TypeName} {before after : List TypeName} (asked : o.asked = before ++ u :: after) :
    ∃ m, w₀.Steps src m ∧ m.asked = before ∧ m.Puts src u := by
  rcases ends.asked with same | ⟨v, more⟩
  · exact moment_of_step_question start steps (same ▸ asked)
  · rcases split_of_concat (more ▸ asked) with ⟨rfl, rfl⟩ | ⟨later, split⟩
    · exact ⟨w, steps, rfl, Or.inr ⟨o, ends, more⟩⟩
    · exact moment_of_step_question start steps split

end Walk

/-! ## Moments of a registration -/

/-- A moment of the registration of `t`. A type that is registered already, or stored as a
    scalar, is not looked at any further, and its registration has none. Where nothing describes
    the root itself, the registration fails and the walk passes over it, after the same one
    question. -/
structure During (src : Sources) (r : Registry) (t : TypeName) (w : Walk) : Prop where
  new : r.isRegistered t = false
  scalar : src.isScalar t = false
  steps : (Walk.start r [t]).Steps src w

end Registry

end WideColumn
