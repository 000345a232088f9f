/-
  WideColumn.Proofs.DataType.Written — the text of a type is the text of one type only.

  A type is written as a word, and after it comes a bracket, a point or the end. What has parts has
  a keyword of its own and a bracket, and its parts stand in the bracket one after the other, each
  ended by a comma or by the bracket that closes. A user type in a keyspace has a point after the
  keyspace, and only such a type has one. What is left is a scalar or a user type alone, and the two
  are confused only if the user type has the name of a scalar. A name in quotes may hold points,
  commas and brackets, and ends where it ends (`Identifier.cql_append_inj`). So a type in front of
  anything that may follow one is split off in one way, by induction on the type.

  A literal reference is the one form that is written like another: like the frozen user type it
  stands for. `settled` writes the one for the other.

  Proved:
  - `UserTypeRef.cql_append_inj`, `Readable.splitsOff`: a reference that is not literal, or a type
    of such references, is split off in one way.
  - `cql_settled`: a type is written as it is with its literal references settled.
  - `texts_are_unambiguous`: types are written alike exactly if they are the same when settled.
-/

import WideColumn.Proofs.Identifier.Written
import WideColumn.Proofs.Resolution.Stores

namespace WideColumn

open Identifier (Ends Lexeme ends_cons)

/-! ## What may follow a type -/

/-- The end, a comma or a bracket that closes. -/
def DataType.Stops (x : List Char) : Prop := ∀ c ∈ x.head?, c = ',' ∨ c = '>'

theorem DataType.stops_nil : Stops [] := nofun

theorem DataType.stops_cons {c : Char} {x : List Char} : Stops (c :: x) ↔ c = ',' ∨ c = '>' := by
  simp [Stops]

theorem DataType.Stops.ends {x : List Char} (h : Stops x) : Ends x := by
  intro c hc
  rcases h c hc with rfl | rfl <;> decide

/-! ## Scalars and references -/

theorem Scalar.lexeme_cqlName (k : Scalar) : Lexeme k.cqlName.toList := by
  cases k <;> exact .of_word (by decide)

namespace UserTypeRef

open DataType (Stops stops_cons)

/-- A reference to a user type in the store, under a name that no scalar has. -/
structure Readable (r : UserTypeRef) : Prop where
  resolved : r.standing = .resolved
  noScalar : ∀ k : Scalar, r.name.caseSensitive = false → r.name.name ≠ k.cqlName

variable {r s : UserTypeRef} {x y : List Char}

theorem cql_of_keyspace {keyspace : Identifier} (h : r.Readable) (within : r.keyspace = some keyspace) (x : List Char) :
    r.cql.toList ++ x = keyspace.cql.toList ++ '.' :: (r.name.cql.toList ++ x) := by
  simp [cql, h.resolved, within]

theorem cql_of_no_keyspace (h : r.Readable) (alone : r.keyspace = none) : r.cql = r.name.cql := by
  simp [cql, h.resolved, alone]

theorem ends_point (x : List Char) : Ends ('.' :: x) := ends_cons.mpr (by decide)

/-- A keyspace in front of a point is no name, which no point may follow. -/
theorem ne_of_keyspace (hr : r.Readable) (hs : s.Readable) (alone : r.keyspace = none) {keyspace : Identifier}
    (within : s.keyspace = some keyspace) (hx : Stops x) : r.cql.toList ++ x ≠ s.cql.toList ++ y := by
  intro same
  rw [cql_of_no_keyspace hr alone, cql_of_keyspace hs within] at same
  obtain ⟨-, rfl⟩ := Identifier.cql_append_inj hx.ends (ends_point _) same
  simp [stops_cons] at hx

/-- A reference in front of what may follow a type is split off in one way. -/
theorem cql_append_inj (hr : r.Readable) (hs : s.Readable) (hx : Stops x) (hy : Stops y)
    (same : r.cql.toList ++ x = s.cql.toList ++ y) : r = s ∧ x = y := by
  have equal : r.keyspace = s.keyspace → r.name = s.name → r = s := by
    intro keyspaces names
    obtain ⟨_, _, _⟩ := r
    obtain ⟨_, _, _⟩ := s
    cases hr.resolved
    cases hs.resolved
    cases keyspaces
    cases names
    rfl
  cases left : r.keyspace with
  | none =>
    cases right : s.keyspace with
    | none =>
      rw [cql_of_no_keyspace hr left, cql_of_no_keyspace hs right] at same
      obtain ⟨names, rest⟩ := Identifier.cql_append_inj hx.ends hy.ends same
      exact ⟨equal (left.trans right.symm) names, rest⟩
    | some keyspace => exact absurd same (ne_of_keyspace hr hs left right hx)
  | some keyspace =>
    cases right : s.keyspace with
    | none => exact absurd same.symm (ne_of_keyspace hs hr right left hy)
    | some keyspace' =>
      rw [cql_of_keyspace hr left, cql_of_keyspace hs right] at same
      obtain ⟨rfl, names⟩ := Identifier.cql_append_inj (ends_point _) (ends_point _) same
      obtain ⟨names, rest⟩ := Identifier.cql_append_inj hx.ends hy.ends (List.cons.inj names).2
      exact ⟨equal (left.trans right.symm) names, rest⟩

/-- A reference is not written like a scalar. -/
theorem cql_ne_scalar (hr : r.Readable) {k : Scalar} (hx : Stops x) (hy : Stops y) :
    r.cql.toList ++ x ≠ k.cqlName.toList ++ y := by
  intro same
  cases within : r.keyspace with
  | some keyspace =>
    rw [cql_of_keyspace hr within] at same
    have rest := (keyspace.lexeme_cql.append_inj k.lexeme_cqlName (ends_point _) hy.ends same).2
    rw [← rest] at hy
    simp [stops_cons] at hy
  | none =>
    rw [cql_of_no_keyspace hr within] at same
    have words := (r.name.lexeme_cql.append_inj k.lexeme_cqlName hx.ends hy.ends same).1
    cases flag : r.name.caseSensitive with
    | true =>
      rw [Identifier.toList_cql_quoted flag] at words
      revert words
      cases k <;> simp [Scalar.cqlName]
    | false =>
      rw [Identifier.toList_cql_unquoted flag] at words
      exact hr.noScalar k flag (String.toList_inj.mp words)

end UserTypeRef

namespace DataType

variable {t u : DataType} {word : String} {es fs : List DataType} {x y : List Char}

/-! ## Types with parts -/

/-- The word in front of the bracket that the parts of a type stand in. -/
def keyword? : DataType → Option String
  | .scalar _ | .userType _ => none
  | .list _ => some "list"
  | .set _ => some "set"
  | .map .. => some "map"
  | .tuple _ => some "tuple"
  | .frozen _ => some "frozen"

/-- Types one after the other, each behind a comma, up to the bracket that closes. -/
def others : List DataType → List Char → List Char
  | [], x => '>' :: x
  | e :: es, x => ',' :: ' ' :: (e.cql.toList ++ others es x)

/-- Types with commas between them, up to the bracket that closes. -/
def bracket : List DataType → List Char → List Char
  | [], x => '>' :: x
  | e :: es, x => e.cql.toList ++ others es x

theorem lexeme_of_keyword? (h : t.keyword? = some word) : Lexeme word.toList := by
  cases t <;> cases h <;> exact .of_word (by decide)

theorem isAtom_of_keyword? (h : t.keyword? = none) : t.IsAtom := by
  cases t with
  | scalar k => exact Or.inl ⟨k, rfl⟩
  | userType r => exact Or.inr ⟨r, rfl⟩
  | _ => cases h

/-- A keyword and the parts behind it make the type. -/
theorem eq_of_keyword? (left : t.keyword? = some word) (right : u.keyword? = some word) (parts : t.parts = u.parts) :
    t = u := by
  cases t <;> cases left <;> cases u <;> simp_all [keyword?, DataType.parts]

theorem stops_others (es : List DataType) (x : List Char) : Stops (others es x) := by
  cases es <;> simp [others, stops_cons]

theorem intercalate_append (es : List DataType) (x : List Char) :
    (", ".intercalate (es.map cql)).toList ++ '>' :: x = bracket es x := by
  rw [String.toList_intercalate]
  cases es with
  | nil => rfl
  | cons e es =>
    induction es generalizing e with
    | nil => simp [bracket, others]
    | cons f es ih =>
      simp only [List.map_cons] at ih ⊢
      rw [List.intercalate_cons_cons, List.append_assoc, ih]
      simp [bracket, others]

theorem cql_append_of_some (h : t.keyword? = some word) (x : List Char) :
    t.cql.toList ++ x = word.toList ++ '<' :: bracket t.parts x := by
  rw [← intercalate_append]
  cases t <;> cases h <;> simp [cql, parts, cqlAll_eq_map, String.toList_intercalate]

theorem ends_angle (x : List Char) : Ends ('<' :: x) := ends_cons.mpr (by decide)

/-! ## Readable types -/

/-- Every reference in the type is to a user type in the store, under a name that no scalar has. -/
def Readable (t : DataType) : Prop := ∀ r ∈ t.references, r.Readable

theorem Readable.part (h : t.Readable) {s : DataType} (hs : s ∈ t.parts) : s.Readable := by
  intro r hr
  refine h r ?_
  rw [references, nodes_eq]
  obtain ⟨node, there, same⟩ := List.mem_filterMap.mp hr
  exact List.mem_filterMap.mpr ⟨node, List.mem_cons_of_mem _ (List.mem_flatMap.mpr ⟨s, hs, there⟩), same⟩

theorem Readable.ref {r : UserTypeRef} (h : (userType r).Readable) : r.Readable := h r (by simp)

/-- A scalar or a user type in front of what may follow one starts with a word, after which no bracket opens. -/
theorem Readable.atom_split (h : t.Readable) (key : t.keyword? = none) (hx : Stops x) :
    ∃ word rest, Lexeme word ∧ t.cql.toList ++ x = word ++ rest ∧ Ends rest ∧ rest.head? ≠ some '<' := by
  have angle : x.head? ≠ some '<' := fun first => by simpa using hx '<' first
  rcases isAtom_of_keyword? key with ⟨k, rfl⟩ | ⟨r, rfl⟩
  · exact ⟨_, x, k.lexeme_cqlName, rfl, hx.ends, angle⟩
  · rw [cql]
    cases within : r.keyspace with
    | none =>
      rw [UserTypeRef.cql_of_no_keyspace h.ref within]
      exact ⟨_, x, r.name.lexeme_cql, rfl, hx.ends, angle⟩
    | some keyspace =>
      rw [UserTypeRef.cql_of_keyspace h.ref within]
      exact ⟨_, _, keyspace.lexeme_cql, rfl, UserTypeRef.ends_point _, by simp⟩

/-- A type starts with a word, so a bracket that closes has no type in front of it. -/
theorem Readable.ne_closed (h : t.Readable) (hx : Stops x) : t.cql.toList ++ x ≠ '>' :: y := by
  intro same
  have closed : Ends ('>' :: y) := ends_cons.mpr (by decide)
  rw [← same] at closed
  cases key : t.keyword? with
  | some word =>
    rw [cql_append_of_some key] at closed
    exact (lexeme_of_keyword? key).not_ends _ closed
  | none =>
    obtain ⟨word, rest, lexeme, split, -⟩ := h.atom_split key hx
    rw [split] at closed
    exact lexeme.not_ends rest closed

/-! ## One reading -/

/-- A type without parts is not written like one with parts. -/
theorem Readable.atom_ne_worded (ht : t.Readable) (left : t.keyword? = none) (right : u.keyword? = some word)
    (hx : Stops x) : t.cql.toList ++ x ≠ u.cql.toList ++ y := by
  intro same
  obtain ⟨first, rest, lexeme, split, ends, angle⟩ := ht.atom_split left hx
  rw [split, cql_append_of_some right] at same
  obtain ⟨-, rfl⟩ := lexeme.append_inj (lexeme_of_keyword? right) ends (ends_angle _) same
  exact angle rfl

theorem Readable.atom_append_inj (ht : t.Readable) (hu : u.Readable) (left : t.keyword? = none)
    (right : u.keyword? = none) (hx : Stops x) (hy : Stops y) (same : t.cql.toList ++ x = u.cql.toList ++ y) :
    t = u ∧ x = y := by
  rcases isAtom_of_keyword? left with ⟨k, rfl⟩ | ⟨r, rfl⟩ <;> rcases isAtom_of_keyword? right with ⟨l, rfl⟩ | ⟨s, rfl⟩
  · obtain ⟨names, rest⟩ := k.lexeme_cqlName.append_inj l.lexeme_cqlName hx.ends hy.ends same
    exact ⟨congrArg scalar (Scalar.cqlName_injective (String.toList_inj.mp names)), rest⟩
  · exact absurd same.symm (UserTypeRef.cql_ne_scalar hu.ref hy hx)
  · exact absurd same (UserTypeRef.cql_ne_scalar ht.ref hx hy)
  · obtain ⟨rfl, rest⟩ := UserTypeRef.cql_append_inj ht.ref hu.ref hx hy same
    exact ⟨rfl, rest⟩

/-- In front of what may follow a type, the type is split off in one way. -/
def SplitsOff (t : DataType) : Prop :=
  ∀ ⦃u : DataType⦄ ⦃x y : List Char⦄, u.Readable → Stops x → Stops y → t.cql.toList ++ x = u.cql.toList ++ y → t = u ∧ x = y

theorem others_inj (split : ∀ e ∈ es, e.SplitsOff) (readable : ∀ f ∈ fs, f.Readable) (same : others es x = others fs y) :
    es = fs ∧ x = y := by
  induction es generalizing fs with
  | nil =>
    cases fs with
    | nil => exact ⟨rfl, (List.cons.inj same).2⟩
    | cons f fs => simp [others] at same
  | cons e es ih =>
    cases fs with
    | nil => simp [others] at same
    | cons f fs =>
      rw [List.forall_mem_cons] at split readable
      simp only [others, List.cons.injEq, true_and] at same
      obtain ⟨rfl, later⟩ := split.1 readable.1 (stops_others es x) (stops_others fs y) same
      obtain ⟨rfl, rest⟩ := ih split.2 readable.2 later
      exact ⟨rfl, rest⟩

/-- The parts in a bracket are told one by one, and the bracket that closes ends them. -/
theorem bracket_inj (split : ∀ e ∈ es, e.SplitsOff) (left : ∀ e ∈ es, e.Readable) (right : ∀ f ∈ fs, f.Readable)
    (same : bracket es x = bracket fs y) : es = fs ∧ x = y := by
  cases es with
  | nil =>
    cases fs with
    | nil => exact ⟨rfl, (List.cons.inj same).2⟩
    | cons f fs => exact absurd same.symm ((right f List.mem_cons_self).ne_closed (stops_others fs y))
  | cons e es =>
    cases fs with
    | nil => exact absurd same ((left e List.mem_cons_self).ne_closed (stops_others es x))
    | cons f fs =>
      rw [List.forall_mem_cons] at split right
      obtain ⟨rfl, later⟩ := split.1 right.1 (stops_others es x) (stops_others fs y) same
      obtain ⟨rfl, rest⟩ := others_inj split.2 right.2 later
      exact ⟨rfl, rest⟩

/-- A readable type in front of what may follow it is split off in one way. -/
theorem Readable.splitsOff (ht : t.Readable) : t.SplitsOff := by
  induction t using induct_parts with
  | step t ih =>
    intro u x y hu hx hy same
    cases left : t.keyword? with
    | none =>
      cases right : u.keyword? with
      | none => exact ht.atom_append_inj hu left right hx hy same
      | some word => exact absurd same (ht.atom_ne_worded left right hx)
    | some word =>
      cases right : u.keyword? with
      | none => exact absurd same.symm (hu.atom_ne_worded right left hy)
      | some word' =>
        rw [cql_append_of_some left, cql_append_of_some right] at same
        obtain ⟨words, rest⟩ :=
          (lexeme_of_keyword? left).append_inj (lexeme_of_keyword? right) (ends_angle _) (ends_angle _) same
        obtain rfl := String.toList_inj.mp words
        obtain ⟨parts, rest⟩ :=
          bracket_inj (fun e he => ih e he (ht.part he)) (fun e => ht.part) (fun f => hu.part) (List.cons.inj rest).2
        exact ⟨eq_of_keyword? left right parts, rest⟩

end DataType

/-! ## Literal references -/

/-- The reference that is written where this one stands: a literal one is to the user type alone. -/
def UserTypeRef.settled (r : UserTypeRef) : UserTypeRef := if r.isLiteral then .resolved r.name else r

theorem UserTypeRef.standing_settled (r : UserTypeRef) : r.settled.standing = .resolved := by
  unfold settled isLiteral
  cases kind : r.standing <;> simp [kind, resolved]

theorem UserTypeRef.name_settled (r : UserTypeRef) : r.settled.name = r.name := by
  unfold settled
  split <;> rfl

namespace DataType

mutual

/-- The type with its literal references written out: each is the frozen user type it stands for. -/
def settled : DataType → DataType
  | .scalar k => .scalar k
  | .list e => .list e.settled
  | .set e => .set e.settled
  | .map k v => .map k.settled v.settled
  | .tuple es => .tuple (settledAll es)
  | .userType r => if r.isLiteral then .frozen (.userType r.settled) else .userType r
  | .frozen t => .frozen t.settled

def settledAll : List DataType → List DataType
  | [] => []
  | e :: es => e.settled :: settledAll es

end

variable {t u : DataType}

theorem settledAll_eq_map (es : List DataType) : settledAll es = es.map settled := by
  induction es with
  | nil => rfl
  | cons e es ih => simp [settledAll, ih]

/-- A literal reference is written as the frozen user type it stands for. -/
theorem cql_settled (t : DataType) : t.settled.cql = t.cql := by
  induction t with
  | scalar _ => rfl
  | list e ih | set e ih | frozen e ih => simp [settled, cql, ih]
  | map k v ihKey ihValue => simp [settled, cql, ihKey, ihValue]
  | tuple es ih =>
    have texts : (es.map settled).map cql = es.map cql := by
      rw [List.map_map]
      exact List.map_congr_left ih
    simp [settled, settledAll_eq_map, cql, cqlAll_eq_map, texts]
  | userType r =>
    rw [settled]
    split
    next literal => simp_all [cql, UserTypeRef.settled, UserTypeRef.isLiteral, UserTypeRef.cql, UserTypeRef.resolved]
    next => rfl

theorem references_settled (t : DataType) : t.settled.references = t.references.map UserTypeRef.settled := by
  induction t with
  | scalar _ => rfl
  | list e ih => rw [settled, references_list, references_list, ih]
  | set e ih => rw [settled, references_set, references_set, ih]
  | frozen e ih => rw [settled, references_frozen, references_frozen, ih]
  | map k v ihKey ihValue => rw [settled, references_map, references_map, ihKey, ihValue, List.map_append]
  | tuple es ih =>
    rw [settled, settledAll_eq_map, references_tuple, references_tuple, List.flatMap_map, List.map_flatMap]
    exact List.flatMap_congr ih
  | userType r =>
    rw [settled, references_userType, List.map_singleton]
    split
    next => rw [references_frozen, references_userType]
    next resolved => rw [references_userType, UserTypeRef.settled, if_neg resolved]

/-- No reference in the type has an unquoted name that is the name of a scalar. -/
def NamesNoScalar (t : DataType) : Prop :=
  ∀ r ∈ t.references, ∀ k : Scalar, r.name.caseSensitive = false → r.name.name ≠ k.cqlName

instance : Decidable t.NamesNoScalar :=
  decidable_of_iff (∀ r ∈ t.references, ∀ k ∈ Scalar.all, r.name.caseSensitive = false → r.name.name ≠ k.cqlName)
    (by simp [NamesNoScalar, Scalar.mem_all])

theorem NamesNoScalar.readable_settled (h : t.NamesNoScalar) : t.settled.Readable := by
  intro r hr
  rw [references_settled] at hr
  obtain ⟨s, hs, rfl⟩ := List.mem_map.mp hr
  refine ⟨s.standing_settled, ?_⟩
  rw [s.name_settled]
  exact h s hs

/-- Types are written alike exactly if they are the same up to how their literal references are
    put, unless a user type goes by the name of a scalar. -/
theorem texts_are_unambiguous (ht : t.NamesNoScalar) (hu : u.NamesNoScalar) : t.cql = u.cql ↔ t.settled = u.settled := by
  refine ⟨fun same => ?_, fun same => by rw [← cql_settled t, same, cql_settled u]⟩
  rw [← cql_settled t, ← cql_settled u] at same
  have lists := congrArg String.toList same
  rw [← List.append_nil t.settled.cql.toList, ← List.append_nil u.settled.cql.toList] at lists
  exact (ht.readable_settled.splitsOff hu.readable_settled stops_nil stops_nil lists).1

/-- A literal reference and a frozen one to the same user type are written alike. Two quoted names in a
    tuple are not written like the one that holds the quotes and the comma between them. -/
theorem quotes_hold_commas :
    let a : Identifier := ⟨"a", true, by simp [Identifier.Legal]⟩
    let b : Identifier := ⟨"b", true, by simp [Identifier.Legal]⟩
    let both : Identifier := ⟨"a\", \"b", true, by simp [Identifier.Legal]⟩
    let literal := map (scalar .text) (userType (.literal both))
    let frozen := map (scalar .text) (frozen (userType (.resolved both)))
    let two := tuple [userType (.resolved a), userType (.resolved b)]
    let one := tuple [userType (.resolved both)]
    (literal.NamesNoScalar ∧ frozen.NamesNoScalar ∧ two.NamesNoScalar ∧ one.NamesNoScalar) ∧
      literal.cql = frozen.cql ∧ two.cql ≠ one.cql := by
  intro a b both literal frozen two one
  have literalApart : literal.NamesNoScalar := by decide
  have frozenApart : frozen.NamesNoScalar := by decide
  have twoApart : two.NamesNoScalar := by decide
  have oneApart : one.NamesNoScalar := by decide
  refine ⟨⟨literalApart, frozenApart, twoApart, oneApart⟩, ?_, fun same => ?_⟩
  · exact (texts_are_unambiguous literalApart frozenApart).mpr rfl
  · have lengths := congrArg (·.parts.length) ((texts_are_unambiguous twoApart oneApart).mp same)
    cases lengths

/-- A user type that goes by the unquoted name of a scalar is written like the scalar. -/
example : (userType (.resolved ⟨"int", false, by simp [Identifier.Legal]; decide⟩)).cql = (scalar .int).cql := rfl

end DataType

end WideColumn
