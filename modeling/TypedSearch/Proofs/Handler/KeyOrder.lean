import TypedSearch.Proofs.Json.Agreement
import TypedSearch.Proofs.Query.TermFilter
import TypedSearch.Proofs.Schema.Leaves
import TypedSearch.Search.Field

/-!
Filters and sorts on records beside the order of keys. A record looks every field up in what the
client gives, and a term filter every part, so that the order of keys has no influence on the
clauses, however deep the records are nested; it may decide only which problem of several is
reported. The clauses are those of the primitives in the record, in the order of the schema.
-/

namespace TypedSearch

open Outcome Json

variable {left right params : Json} {path : FieldPath}
  {hook : Handler → HandlerCapability Json (List Json)}

namespace Json.Rearranged

/-- What can be rearranged is no value of a scalar. -/
theorem not_scalar (step : Rearranged left right) (scalar : String) :
    ¬ (left = .null ∨ Scalar.admits scalar left = true) := by
  cases step <;> simp [Scalar.admits]

theorem ne_null (step : Rearranged left right) : left ≠ .null :=
  fun null => step.not_scalar Scalar.string (.inl null)

end Json.Rearranged

/-- A filter whose entries are read has nothing inside that could be rearranged, so it can only have
its own entries in another order. -/
theorem TermKind.ofParams_rearranged {kind : TermKind} (step : Rearranged left right)
    {filter : kind.Filter} (read : kind.ofParams path left = .ok filter) :
    ∃ entries others, left = .object entries ∧ right = .object others ∧ entries.Perm others := by
  obtain null | ⟨entries, rfl, each⟩ := kind.ofParams_iff.mp ⟨filter, read⟩
  · exact (step.ne_null null).elim
  · cases step with
    | @here _ others order => exact ⟨entries, others, rfl, rfl, order⟩
    | @entry before after key value other inside =>
      obtain ⟨scalar, -, fits⟩ := each (key, value) (by simp)
      exact (inside.not_scalar scalar fits).elim

/-- A term filter that is read is read with its entries in another order as well. -/
theorem TermKind.accepts_rearranged {kind : TermKind} (step : Rearranged left right)
    (accepted : ∃ filter, kind.ofParams path left = .ok filter) :
    ∃ filter, kind.ofParams path right = .ok filter := by
  obtain ⟨filter, read⟩ := accepted
  obtain ⟨entries, others, rfl, rfl, order⟩ := ofParams_rearranged step read
  obtain null | ⟨same, equal, each⟩ := kind.ofParams_iff.mp ⟨filter, read⟩
  · cases null
  · cases equal
    refine kind.ofParams_iff.mpr (.inr ⟨others, rfl, fun entry member => ?_⟩)
    exact each entry (order.mem_iff.mpr member)

theorem TermKind.answer_rearranged (kind : TermKind) (step : Rearranged left right)
    (keyed : left.Keyed) (path : FieldPath) :
    (kind.answer path left).toOption = (kind.answer path right).toOption := by
  rw [answer, answer]
  cases one : kind.ofParams path left with
  | error problem =>
    cases two : kind.ofParams path right with
    | error other => rfl
    | ok filter =>
      obtain ⟨own, read⟩ := kind.accepts_rearranged step.symm ⟨filter, two⟩
      cases one.symm.trans read
  | ok filter =>
    obtain ⟨other, two⟩ := kind.accepts_rearranged step ⟨filter, one⟩
    have same : kind.clauses filter path = kind.clauses other path := by
      apply List.map_injective_iff.mpr (fun _ _ => Option.some.inj)
      rw [kind.clauses_ofParams keyed one, kind.clauses_ofParams (step.keyed keyed) two]
      obtain ⟨entries, others, rfl, rfl, order⟩ := kind.ofParams_rearranged step one
      refine List.filterMap_congr fun key _ => ?_
      rw [Json.given?, Json.given?, Json.get?, Json.get?,
        Entries.lookup_perm order (keyed_object.mp keyed).1]
    rw [two, ok_bind, ok_bind, same]

/-- An object that a direction is read from has one entry, with null under the name. -/
theorem Direction.entries_of_read {entries : Entries} {direction : Direction}
    (read : Direction.ofParams path (.object entries) = .ok direction) :
    ∃ name, entries = [(name, .null)] := by
  rcases entries with _ | ⟨⟨name, value⟩, _ | ⟨next, rest⟩⟩
  · cases read
  · refine ⟨name, ?_⟩
    by_cases null : value = .null
    · rw [null]
    · have refused : ∃ cause, Direction.ofJson? (.object [(name, value)]) = .error cause := by
        cases value with
        | null => exact (null rfl).elim
        | bool | number | string | array | object =>
          simp only [Direction.ofJson?, Json.toBareVariant, Json.toVariant]
          split <;> exact ⟨_, rfl⟩
      obtain ⟨cause, failed⟩ := refused
      rw [Direction.ofParams, failed] at read
      cases read
  · cases read

/-- There is nothing to rearrange in what a direction is read from. -/
theorem Direction.rearranged_eq (step : Rearranged left right) {direction : Direction}
    (read : Direction.ofParams path left = .ok direction) : right = left := by
  cases step with
  | here order =>
    obtain ⟨name, rfl⟩ := entries_of_read read
    rw [List.singleton_perm.mp order]
  | item => cases read
  | entry before after key inside =>
    obtain ⟨name, single⟩ := entries_of_read read
    obtain ⟨-, equal⟩ | ⟨-, impossible⟩ := List.append_eq_singleton_iff.mp single
    · cases equal
      exact (inside.ne_null rfl).elim
    · cases impossible

theorem Direction.toOption_rearranged (step : Rearranged left right) (path : FieldPath) :
    (Direction.ofParams path left).toOption = (Direction.ofParams path right).toOption := by
  cases one : Direction.ofParams path left with
  | ok direction => rw [Direction.rearranged_eq step one, one]
  | error problem =>
    cases two : Direction.ofParams path right with
    | error other => rfl
    | ok direction =>
      rw [Direction.rearranged_eq step.symm two, two] at one
      cases one

namespace Handler

variable {entries others : Entries}

/-- A part answers the same for rearranged entries if it does for rearranged values. -/
theorem partAnswer_rearranged {part : Part Json (List Json)}
    (step : Rearranged (.object entries) (.object others)) (keyed : (Json.object entries).Keyed)
    (inner : ∀ {left right}, Rearranged left right → left.Keyed →
      (part.answer left).toOption = (part.answer right).toOption) :
    (partAnswer entries part).toOption = (partAnswer others part).toOption := by
  rcases step.lookup keyed part.field.name with same | ⟨value, other, one, two, inside⟩
  · rw [partAnswer, partAnswer, same]
  · have held : value.Keyed := (keyed_object.mp keyed).2 _ (Table.mem_of_lookup one)
    rw [partAnswer_addressed ⟨one, inside.ne_null⟩, partAnswer_addressed ⟨two, inside.symm.ne_null⟩]
    exact (toOption_map _ _).trans
      ((congrArg (Option.map _) (inner inside held)).trans (toOption_map _ _).symm)

end Handler

/-- A surface on which records answer with the clauses of their fields, and primitives answer the
same for rearranged values. -/
structure OrderBlind (hook : Handler → HandlerCapability Json (List Json)) : Prop where
  records : hook .record = Handler.recordClauses
  leaves : ∀ (primitive : Primitive) (path : FieldPath) {left right : Json},
    Rearranged left right → left.Keyed →
      (Registry.standard.resolve hook (.primitive primitive) path left).toOption =
        (Registry.standard.resolve hook (.primitive primitive) path right).toOption

theorem orderBlind_filter : OrderBlind Handler.filter where
  records := rfl
  leaves primitive path left right step keyed := by
    change (Registry.standard.filter _ _ _).toOption = (Registry.standard.filter _ _ _).toOption
    rw [standard_filter_primitive, standard_filter_primitive]
    cases primitive.termKind? with
    | none => rfl
    | some kind => exact kind.answer_rearranged step keyed path

theorem orderBlind_sort : OrderBlind Handler.sort where
  records := rfl
  leaves primitive path left right step keyed := by
    change (Registry.standard.sort _ _ _).toOption = (Registry.standard.sort _ _ _).toOption
    rw [standard_sort_primitive, standard_sort_primitive]
    cases primitive.termKind? with
    | none => rfl
    | some kind =>
      exact (toOption_map _ _).trans ((congrArg (Option.map _)
        (Direction.toOption_rearranged step path)).trans (toOption_map _ _).symm)

namespace OrderBlind

variable (blind : OrderBlind hook)

include blind

/-- Where one object has its entries in another order the answer is the same. -/
theorem step (type : SchemaType) (path : FieldPath) (step : Rearranged left right)
    (keyed : left.Keyed) :
    (Registry.standard.resolve hook type path left).toOption =
      (Registry.standard.resolve hook type path right).toOption := by
  induction type using SchemaType.type_induction generalizing path left right with
  | primitive primitive => exact blind.leaves primitive path step keyed
  | record name fields ih =>
    rw [Registry.standard_resolve_record, Registry.standard_resolve_record, blind.records]
    simp only [Handler.recordClauses, Capability.resolve]
    obtain ⟨items, others, rfl, rfl⟩ | ⟨entries, others, rfl, rfl⟩ := step.kinds
    · rfl
    · have parts := Handler.toOption_partClauses_congr
        (fields.map fun field =>
          ⟨field, Registry.standard.resolve hook field.type (path.child field.name)⟩)
        (List.forall_mem_map.mpr fun field listed =>
          Handler.partAnswer_rearranged step keyed fun inside held =>
            ih field listed (path.child field.name) inside held)
      rw [toOption_bind, toOption_bind, parts]

/-- Where any number of objects have their entries in another order the answer is the same. -/
theorem run (type : SchemaType) (path : FieldPath) (same : Reordered left right)
    (keyed : left.Keyed) :
    (Registry.standard.resolve hook type path left).toOption =
      (Registry.standard.resolve hook type path right).toOption := by
  induction same with
  | refl => rfl
  | tail before next ih => exact ih.trans (blind.step type path next (Reordered.keyed before keyed))

end OrderBlind

/-- The clauses of a primitive inside a type at a path, for what the client gives along its names;
where nothing is given there are none. -/
def leafClauses (hook : Handler → HandlerCapability Json (List Json)) (path : FieldPath)
    (params : Json) (leaf : List String × Primitive) : Except Problem (List Json) :=
  match params.along leaf.1 with
  | none | some .null => .ok []
  | some given =>
    (·.getD []) <$>
      Registry.standard.resolve hook (.primitive leaf.2) ⟨path.segments ++ leaf.1⟩ given

/-- Clauses are those of some primitives, one after the other. -/
def InOrder (hook : Handler → HandlerCapability Json (List Json)) (path : FieldPath) (params : Json)
    (leaves : List (List String × Primitive)) (clauses : List Json) : Prop :=
  ∃ answers, List.Forall₂ (fun leaf answer => leafClauses hook path params leaf = .ok answer)
    leaves answers ∧ answers.flatten = clauses

namespace InOrder

variable {leaves others : List (List String × Primitive)} {clauses more : List Json}

theorem append (first : InOrder hook path params leaves clauses)
    (later : InOrder hook path params others more) :
    InOrder hook path params (leaves ++ others) (clauses ++ more) := by
  obtain ⟨answers, each, rfl⟩ := first
  obtain ⟨last, eachLast, rfl⟩ := later
  exact ⟨answers ++ last, List.rel_append each eachLast, List.flatten_append⟩

/-- Where nothing is given to any of the primitives there are no clauses. -/
theorem silent (none : ∀ leaf ∈ leaves, leafClauses hook path params leaf = .ok []) :
    InOrder hook path params leaves [] := by
  induction leaves with
  | nil => exact ⟨[], .nil, rfl⟩
  | cons leaf rest ih =>
    obtain ⟨first, later⟩ := List.forall_mem_cons.mp none
    obtain ⟨answers, each, empty⟩ := ih later
    exact ⟨[] :: answers, .cons first each, empty⟩

/-- The primitives in a field answer in the record as they do in the field's own type. -/
theorem inside {entries : Entries} {name : String} {given : Json}
    (found : entries.lookup name = some given)
    (own : InOrder hook (path.child name) given leaves clauses) :
    InOrder hook path (.object entries) (leaves.map fun leaf => (name :: leaf.1, leaf.2))
      clauses := by
  obtain ⟨answers, each, rfl⟩ := own
  refine ⟨answers, List.forall₂_map_left_iff.mpr (each.imp fun leaf answer answered => ?_), rfl⟩
  rw [← answered, leafClauses, leafClauses]
  simp only [Json.along, Json.get?, found, FieldPath.child, List.append_assoc,
    List.singleton_append]

end InOrder

/-- What a field is not given is given to none of the primitives in it. -/
theorem leafClauses_unaddressed {entries : Entries} {name : String} {leaf : List String × Primitive}
    (not : ∀ given, entries.lookup name = some given → given = .null) :
    leafClauses hook path (.object entries) (name :: leaf.1, leaf.2) = .ok [] := by
  rw [leafClauses, Json.along, Json.get?]
  cases found : entries.lookup name with
  | none => rfl
  | some given =>
    obtain rfl := not given found
    cases leaf.1 <;> rfl

/-- The fields of a record answer in their order, if each one is answered for in order. -/
theorem InOrder.fields {entries : Entries} {fields : List SchemaField} {clauses : List Json}
    (each : ∀ field ∈ fields, ∀ {params answer}, params ≠ .null →
      Registry.standard.resolve hook field.type (path.child field.name) params = .ok answer →
        InOrder hook (path.child field.name) params field.type.leaves (answer.getD []))
    (ran : Handler.partClauses entries (fields.map fun field =>
      ⟨field, Registry.standard.resolve hook field.type (path.child field.name)⟩) = .ok clauses) :
    InOrder hook path (.object entries) (SchemaField.leaves fields) clauses := by
  induction fields generalizing clauses with
  | nil =>
    cases ran
    exact ⟨[], .nil, rfl⟩
  | cons field rest ih =>
    obtain ⟨first, later⟩ := List.forall_mem_cons.mp each
    obtain ⟨name, type⟩ := field
    rw [List.map_cons, Handler.partClauses_cons] at ran
    obtain ⟨own, others, ranOwn, ranOthers, rfl⟩ := joined_eq_ok.mp ran
    rw [SchemaField.leaves]
    refine InOrder.append ?_ (ih later ranOthers)
    rcases Handler.addressed_or_not entries
      ⟨⟨name, type⟩, Registry.standard.resolve hook type (path.child name)⟩ with
      ⟨params, addressed⟩ | not
    · rw [Handler.partAnswer_addressed addressed] at ranOwn
      obtain ⟨answer, answered, rfl⟩ := map_eq_ok.mp ranOwn
      exact InOrder.inside addressed.1 (first addressed.2 answered)
    · rw [Handler.partAnswer_unaddressed not] at ranOwn
      cases ranOwn
      refine InOrder.silent (List.forall_mem_map.mpr fun leaf _ => leafClauses_unaddressed ?_)
      intro given found
      by_contra present
      exact not given ⟨found, present⟩

namespace OrderBlind

variable (blind : OrderBlind hook)

include blind

/-- The clauses of a type are those of the primitives in it, in the order of the schema. -/
theorem inOrder (type : SchemaType) {answer : Option (List Json)} (given : params ≠ .null)
    (ran : Registry.standard.resolve hook type path params = .ok answer) :
    InOrder hook path params type.leaves (answer.getD []) := by
  induction type using SchemaType.type_induction generalizing path params answer with
  | primitive primitive =>
    refine ⟨[answer.getD []], .cons ?_ .nil, by simp⟩
    rw [leafClauses, Json.along]
    split
    next missing => cases missing
    next null => exact (given (Option.some.inj null)).elim
    next own same =>
      cases same
      rw [List.append_nil, ran, map_ok]
  | record name fields ih =>
    rw [Registry.standard_resolve_record, blind.records] at ran
    simp only [Handler.recordClauses, Capability.resolve] at ran
    cases params with
    | null => exact (given rfl).elim
    | object entries =>
      obtain ⟨clauses, ranParts, same⟩ := bind_eq_ok.mp ran
      cases same
      rw [SchemaType.leaves]
      exact InOrder.fields (fun field listed => ih field listed) ranParts
    | bool | number | string | array => cases ran

theorem record_inOrder (shape : RecordType) {clauses : List Json}
    (ran : Registry.standard.resolve hook (.record shape) path params = .ok (some clauses)) :
    InOrder hook path params (SchemaField.leaves shape.fields) clauses := by
  obtain ⟨name, fields⟩ := shape
  by_cases null : params = .null
  · subst null
    rw [Registry.standard_resolve_record, blind.records] at ran
    cases ran
    refine InOrder.silent fun leaf _ => ?_
    rw [leafClauses]
    cases leaf.1 <;> rfl
  · have ordered := blind.inOrder (.record ⟨name, fields⟩) null ran
    rwa [SchemaType.leaves, Option.getD_some] at ordered

end OrderBlind

/-- Whatever objects in the values for a record have their entries in another order, filters on it
have the same clauses or are refused alike, and so are sorts. The clauses are those of the
primitives in the record, in the order of the schema. -/
theorem standard_order_blind (shape : RecordType) (path : FieldPath) (left right : Json)
    (keyed : left.Keyed) (same : Reordered left right) :
    (Registry.standard.filter (.record shape) path left).toOption =
        (Registry.standard.filter (.record shape) path right).toOption ∧
      (Registry.standard.sort (.record shape) path left).toOption =
        (Registry.standard.sort (.record shape) path right).toOption ∧
      (∀ clauses, Registry.standard.filter (.record shape) path left = .ok (some clauses) →
        InOrder Handler.filter path left (SchemaField.leaves shape.fields) clauses) ∧
      ∀ clauses, Registry.standard.sort (.record shape) path left = .ok (some clauses) →
        InOrder Handler.sort path left (SchemaField.leaves shape.fields) clauses :=
  ⟨orderBlind_filter.run _ path same keyed, orderBlind_sort.run _ path same keyed,
    fun _ ran => orderBlind_filter.record_inOrder shape ran,
    fun _ ran => orderBlind_sort.record_inOrder shape ran⟩

/-- A record with a record inside. -/
def contactShape : RecordType :=
  ⟨"Contact", [⟨"name", .primitive .string⟩,
    ⟨"address", .record ⟨"Address", [⟨"zip", .primitive .int⟩, ⟨"known", .primitive .boolean⟩]⟩⟩]⟩

/-- A filter on contacts with the keys in another order than the fields, on both levels. -/
def contactFilter : Json :=
  .object [("address", .object [("known", .single "equals" (.bool true)),
    ("zip", .single "lessThan" (.ofInt 500))]), ("name", .single "equals" (.string "Ada"))]

theorem contact_filter_sorted :
    (Registry.standard.filter (.record contactShape) .root
      (.object [("name", .single "equals" (.string "Ada")),
        ("address", .object [("zip", .single "lessThan" (.ofInt 500)),
          ("known", .single "equals" (.bool true))])])).toOption =
    some (some [Clause.term "name.keyword" (.string "Ada"),
      Clause.range "address.zip" "lt" (.ofInt 500), Clause.term "address.known" (.bool true)]) := by
  have keyed : contactFilter.Keyed := by
    simp [contactFilter, Json.single, Json.ofInt, keyed_object, Entries.keys, Keyed.bool,
      Keyed.string, Keyed.number]
  have same := (standard_order_blind contactShape .root contactFilter _ keyed
    (.head (.here (.swap _ _ _))
      (.single (.entry [_] [] "address" (.here (.swap _ _ _)))))).1
  exact same.symm.trans rfl

end TypedSearch
