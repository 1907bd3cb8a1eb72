import TypedSearch.Proofs.Handler.Dispatch
import TypedSearch.Proofs.Schema.Induction
import TypedSearch.Proofs.Schema.Leaves

/-!
Which handler governs a type. No two standard handlers select the same type, so the order in which
they are tried has no influence on any answer. Handlers that stand behind them are asked only for what
none of them selects, and no answer for a type without such primitives depends on them.
-/

namespace TypedSearch.Registry

variable {π α : Type} {pick : Handler → HandlerCapability π α} {one two : Registry}
  {handlers others : List Handler} {handler : Handler} {type : SchemaType} {path : FieldPath}

/-- A registry has the answers of another one for a type on every surface, wherever the type occurs
and whatever a client gives. -/
structure AnswersLike (one two : Registry) (type : SchemaType) : Prop where
  fieldType (path : FieldPath) : one.fieldType type path = two.fieldType type path
  filterArg (path : FieldPath) : one.filterArg type path = two.filterArg type path
  orderArg (path : FieldPath) : one.orderArg type path = two.orderArg type path
  mapping (path : FieldPath) : one.mapping type path = two.mapping type path
  filter (path : FieldPath) (params : Json) :
    one.filter type path params = two.filter type path params
  sort (path : FieldPath) (params : Json) : one.sort type path params = two.sort type path params

/-- An answer depends only on the handlers that govern records and the primitives in the type. -/
theorem resolve_congr (records : ∀ shape path, one.select? (.record shape) path =
      two.select? (.record shape) path) (type : SchemaType)
    (leaves : ∀ leaf ∈ type.leaves, ∀ path, one.select? (.primitive leaf.2) path =
      two.select? (.primitive leaf.2) path) (path : FieldPath) (params : π) :
    one.resolve pick type path params = two.resolve pick type path params := by
  induction type using SchemaType.type_induction generalizing path params with
  | primitive kind =>
    rw [resolve, resolve, answerAt, answerAt, leaves ([], kind) List.mem_cons_self]
  | record name fields ih =>
    have inner := (SchemaType.forall_leaves_record fun kind => ∀ path,
      one.select? (.primitive kind) path = two.select? (.primitive kind) path).mp leaves
    have parts : one.parts pick fields path = two.parts pick fields path := by
      rw [parts_eq_map, parts_eq_map]
      refine List.map_congr_left fun field listed => ?_
      exact congrArg _ (funext fun params => ih field listed (inner field listed) _ params)
    rw [resolve, resolve, answerAt, answerAt, records, parts]

theorem answersLike_of_select (records : ∀ shape path, one.select? (.record shape) path =
      two.select? (.record shape) path)
    (leaves : ∀ leaf ∈ type.leaves, ∀ path, one.select? (.primitive leaf.2) path =
      two.select? (.primitive leaf.2) path) : AnswersLike one two type where
  fieldType path := resolve_congr records type leaves path ()
  filterArg path := resolve_congr records type leaves path ()
  orderArg path := resolve_congr records type leaves path ()
  mapping path := resolve_congr records type leaves path ()
  filter path params := resolve_congr records type leaves path params
  sort path params := resolve_congr records type leaves path params

/-- At most one handler selects a type at a path. -/
def SelectsOnce (handlers : List Handler) (type : SchemaType) (path : FieldPath) : Prop :=
  ∀ first ∈ handlers, ∀ second ∈ handlers, first.selects type path = true →
    second.selects type path = true → first = second

theorem mem_of_select? {registry : Registry}
    (found : registry.select? type path = some handler) :
    handler ∈ registry.handlers ∧ handler.selects type path = true := by
  unfold select? at found
  exact ⟨List.mem_of_find?_eq_some found, by simpa using List.find?_some found⟩

/-- Where at most one handler selects a type, that one is found wherever it stands. -/
theorem select?_eq_some_iff (once : SelectsOnce handlers type path) :
    (Registry.mk handlers).select? type path = some handler ↔
      handler ∈ handlers ∧ handler.selects type path = true := by
  refine ⟨mem_of_select?, fun ⟨listed, selects⟩ => ?_⟩
  cases found : (Registry.mk handlers).select? type path with
  | none => exact (List.find?_eq_none.mp found handler listed selects).elim
  | some other =>
    obtain ⟨own, alike⟩ := mem_of_select? found
    rw [once other own handler listed alike selects]

theorem select?_perm (order : handlers.Perm others) (once : SelectsOnce others type path) :
    (Registry.mk handlers).select? type path = (Registry.mk others).select? type path := by
  have alike : SelectsOnce handlers type path := fun first one second two =>
    once first (order.mem_iff.mp one) second (order.mem_iff.mp two)
  refine Option.ext fun handler => ?_
  rw [select?_eq_some_iff alike, select?_eq_some_iff once, order.mem_iff]

/-- Handlers are asked for nothing that one before them selects. -/
theorem select?_append (further : List Handler)
    (found : (Registry.mk handlers).select? type path = some handler) :
    (Registry.mk (handlers ++ further)).select? type path = some handler := by
  rw [select?, List.find?_append]
  exact Option.or_eq_some_iff.mpr (.inl found)

theorem selectsPrimitive_iff {kind : Primitive} (path : FieldPath) :
    Handler.selectsPrimitive kind type path = true ↔ type = .primitive kind := by
  cases type <;> simp [Handler.selectsPrimitive, SchemaType.primitive?]

theorem selectsRecord_iff (path : FieldPath) :
    Handler.selectsRecord type path = true ↔ ∃ shape, type = .record shape := by
  cases type <;> simp [Handler.selectsRecord, SchemaType.record?]

/-- A standard handler that selects a type governs it. -/
theorem standard_governs (listed : handler ∈ standard.handlers)
    (selects : handler.selects type path = true) : standard.select? type path = some handler := by
  simp only [standard, List.mem_cons, List.not_mem_nil, or_false] at listed
  rcases listed with rfl | rfl | rfl | rfl | rfl | rfl
  case inr.inr.inr.inr.inl =>
    obtain ⟨shape, rfl⟩ := (selectsRecord_iff path).mp selects
    rfl
  all_goals
    obtain rfl := (selectsPrimitive_iff path).mp selects
    rfl

theorem standard_selectsOnce (type : SchemaType) (path : FieldPath) :
    SelectsOnce standard.handlers type path := by
  intro first one second two selects alike
  exact Option.some.inj ((standard_governs one selects).symm.trans (standard_governs two alike))

theorem standard_select_primitive (kind : Primitive) (path : FieldPath) :
    standard.select? (.primitive kind) path = leafHandler? kind := by
  cases kind <;> rfl

/-- The primitives that no standard handler selects. -/
theorem leafHandler?_eq_none {kind : Primitive} :
    leafHandler? kind = none ↔ kind ∈ [Primitive.null, .long, .double] := by
  cases kind <;> simp [leafHandler?]

/-- The standard handlers answer the same in every order. With other handlers behind them they still
do for every type in which there is no null, long or double. -/
theorem standard_answers_settled {handlers : List Handler}
    (order : handlers.Perm standard.handlers) (further : List Handler) :
    (∀ type, AnswersLike ⟨handlers⟩ standard type) ∧
    ∀ type, (∀ leaf ∈ type.leaves, leaf.2 ∉ [Primitive.null, .long, .double]) →
      AnswersLike ⟨handlers ++ further⟩ standard type := by
  have same : ∀ type path, (Registry.mk handlers).select? type path = standard.select? type path :=
    fun type path => select?_perm order (standard_selectsOnce type path)
  refine ⟨fun type => answersLike_of_select (fun shape => same _) fun leaf _ => same _,
    fun type governed => answersLike_of_select (fun shape path => ?_) fun leaf inside path => ?_⟩
  · exact select?_append further ((same _ path).trans (standard_select_record shape path))
  · have known : leafHandler? leaf.2 ≠ none := mt leafHandler?_eq_none.mp (governed leaf inside)
    obtain ⟨handler, found⟩ := Option.ne_none_iff_exists'.mp known
    have own := (standard_select_primitive leaf.2 path).trans found
    rw [own]
    exact select?_append further ((same _ path).trans own)

/-- A handler that selects every type. -/
def anyHandler : Handler where
  name := "any"
  selects := fun _ _ => true
  field := Handler.scalarField Scalar.string
  mapping := .constant (.single "type" (.string "keyword"))

/-- A record with a record inside. -/
def parcelShape : RecordType :=
  ⟨"Parcel", [⟨"label", .primitive .bytes⟩,
    ⟨"address", .record ⟨"Address", [⟨"street", .primitive .string⟩, ⟨"zip", .primitive .int⟩]⟩⟩]⟩

/-- Behind the standard handlers in reverse order a handler for every type maps nulls, but it has no
influence on parcels. -/
theorem reversed_answers_settled :
    (Registry.mk (standard.handlers.reverse ++ [anyHandler])).mapping (.primitive .null) .root ≠
        standard.mapping (.primitive .null) .root ∧
      AnswersLike ⟨standard.handlers.reverse ++ [anyHandler]⟩ standard (.record parcelShape) :=
  ⟨nofun, (standard_answers_settled (List.reverse_perm _) [anyHandler]).2 _ (by decide)⟩

end TypedSearch.Registry
