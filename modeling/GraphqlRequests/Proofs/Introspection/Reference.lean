import GraphqlRequests.Proofs.Introspection.Outcome
import GraphqlRequests.Proofs.Introspection.RoundTrip

/-!
# References in introspection values

A value is read as a reference just where it is a chain of wrappers that a kind and a name end, and
the reference has the wrappers of the chain. For every other value it is said what breaks the chain,
and a whole in which such a value stands for the type of something is malformed.
-/

namespace GraphqlRequests

namespace TypeKind

theorem eq_toName_of_ofName? {name : String} {kind : TypeKind} (found : ofName? name = some kind) :
    name = kind.toName := by
  rw [ofName?.eq_def] at found
  split at found
  case h_7 => cases found
  all_goals
    obtain rfl := Option.some.inj found
    rfl

end TypeKind

namespace Introspection

/-! ### Chains -/

inductive Wrapper where
  | list
  | nonNull
  deriving DecidableEq, Repr

namespace Wrapper

def toName : Wrapper → String
  | .list => "LIST"
  | .nonNull => "NON_NULL"

def wrap {α : Type} : Wrapper → TypeRef α → TypeRef α
  | .list => .list
  | .nonNull => .nonNull

end Wrapper

structure Wraps (wrapper : Wrapper) (value inner : Json) : Prop where
  kinded : value.get? "kind" = some (.string wrapper.toName)
  rest : value.get? "ofType" = some inner

/-- The value is the wrappers, the outermost first, around another value. -/
inductive Chain : List Wrapper → Json → Json → Prop where
  | bare {value} : Chain [] value value
  | wrapped {wrapper wrappers value inner last} (wraps : Wraps wrapper value inner)
      (rest : Chain wrappers inner last) : Chain (wrapper :: wrappers) value last

/-- The value has the kind and the name of a type. -/
structure Named (kind : TypeKind) (name value : Json) : Prop where
  kinded : value.get? "kind" = some (.string kind.toName)
  called : value.get? "name" = some name

/-- The value is the kind of neither a wrapper nor a type. -/
def IsUnknown (kind : Json) : Prop :=
  (∀ wrapper : Wrapper, kind ≠ .string wrapper.toName) ∧
    ∀ known : TypeKind, kind ≠ .string known.toName

/-- What keeps a value from being a reference: it is no object, its kind is missing or unknown, it
has no name, it ends at a wrapper, or what it wraps is broken. -/
inductive Breaks : Json → Malformed → Prop where
  | noObject {value} (other : value.object? = none) : Breaks value .wrongShape
  | noKind {members} (absent : Json.member? "kind" members = none) :
      Breaks (.object members) (.missingKey "kind")
  | unknownKind {value kind} (kinded : value.get? "kind" = some kind) (unknown : IsUnknown kind) :
      Breaks value (.unknownKind kind)
  | noName {value} {kind : TypeKind} (kinded : value.get? "kind" = some (.string kind.toName))
      (absent : value.get? "name" = none) : Breaks value (.missingKey "name")
  | cut {value} {wrapper : Wrapper} (kinded : value.get? "kind" = some (.string wrapper.toName))
      (absent : value.get? "ofType" = none) : Breaks value (.missingKey "ofType")
  | within {wrapper value inner cause} (wraps : Wraps wrapper value inner)
      (breaks : Breaks inner cause) : Breaks value cause

variable {key : String} {value inner : Json} {members : List (String × Json)} {cause : Malformed}

/-! ### One layer -/

theorem need_error (absent : Json.member? key members = none) :
    need key (.object members) = .error (.missingKey key) := by
  rw [need, absent]

theorem innerRef_error (absent : Json.member? "ofType" members = none) :
    innerRef members = .error (.missingKey "ofType") := by
  induction members with
  | nil => rfl
  | cons m rest ih =>
    obtain ⟨name, inner⟩ := m
    rw [Json.member?] at absent
    split at absent
    · cases absent
    · next other => rw [innerRef, if_neg other, ih absent]

theorem typeRef_wrapper {wrapper : Wrapper}
    (kinded : Json.member? "kind" members = some (.string wrapper.toName)) :
    typeRef (.object members) = (innerRef members).map wrapper.wrap := by
  have found : need "kind" (.object members) = .ok (.string wrapper.toName) := need_ok kinded
  rw [typeRef, found]
  cases wrapper <;> cases innerRef members <;> rfl

theorem typeRef_of_wraps {wrapper : Wrapper} (wraps : Wraps wrapper value inner) :
    typeRef value = (typeRef inner).map wrapper.wrap := by
  obtain ⟨members, rfl, held⟩ := exists_members wraps.rest
  rw [typeRef_wrapper wraps.kinded, innerRef_ok held]

theorem typeRef_bare {kind : Json} (kinded : Json.member? "kind" members = some kind)
    (bare : ∀ wrapper : Wrapper, kind ≠ .string wrapper.toName) :
    typeRef (.object members) = (do
      let kind ← Introspection.kind (.object members)
      let name ← need "name" (.object members)
      return .named ⟨kind, name⟩) := by
  have found : need "kind" (.object members) = .ok kind := need_ok kinded
  have noWrapper : kind ≠ .string "NON_NULL" := bare .nonNull
  have noList : kind ≠ .string "LIST" := bare .list
  rw [typeRef, found]
  simp only [bind, Except.bind, noWrapper, noList, if_false]

theorem toName_ne_toName (kind : TypeKind) (wrapper : Wrapper) :
    Json.string kind.toName ≠ .string wrapper.toName := by
  cases kind <;> cases wrapper <;> decide

theorem kind_unknown {kind : Json} (kinded : value.get? "kind" = some kind)
    (unknown : ∀ known : TypeKind, kind ≠ .string known.toName) :
    Introspection.kind value = .error (.unknownKind kind) := by
  have none : kind.string?.bind TypeKind.ofName? = none := by
    cases found : kind.string?.bind TypeKind.ofName? with
    | none => rfl
    | some known =>
      cases kind with
      | string name =>
        exact absurd (congrArg Json.string (TypeKind.eq_toName_of_ofName? found)) (unknown known)
      | _ => cases found
  rw [Introspection.kind, need_ok kinded]
  simp only [bind, Except.bind, none]

/-! ### References -/

/-- Nothing of a chain is lost: it is read with all of its wrappers, or its end cannot be read. -/
theorem typeRef_of_chain {wrappers : List Wrapper} {last : Json}
    (chain : Chain wrappers value last) :
    typeRef value = (typeRef last).map fun ref => wrappers.foldr Wrapper.wrap ref := by
  induction chain with
  | bare => cases typeRef _ <;> rfl
  | wrapped wraps _ ih =>
    rw [typeRef_of_wraps wraps, ih]
    cases typeRef _ <;> rfl

theorem typeRef_of_breaks (breaks : Breaks value cause) : typeRef value = .error cause := by
  induction breaks with
  | @noObject value other =>
    cases value with
    | object => cases other
    | _ => rfl
  | noKind absent =>
    rw [typeRef, need_error absent]
    rfl
  | unknownKind kinded unknown =>
    obtain ⟨members, rfl, held⟩ := exists_members kinded
    rw [typeRef_bare held unknown.1, kind_unknown kinded unknown.2]
    rfl
  | @noName value kind kinded absent =>
    obtain ⟨members, rfl, held⟩ := exists_members kinded
    rw [typeRef_bare held (toName_ne_toName kind), kind_ok kinded, need_error absent]
    rfl
  | cut kinded absent =>
    obtain ⟨members, rfl, held⟩ := exists_members kinded
    rw [typeRef_wrapper held, innerRef_error absent]
    rfl
  | within wraps _ ih =>
    rw [typeRef_of_wraps wraps, ih]
    rfl

theorem sizeOf_lt_of_get? (held : value.get? key = some inner) : sizeOf inner < sizeOf value := by
  obtain ⟨members, rfl, found⟩ := exists_members held
  have inside : sizeOf inner < sizeOf members := by
    clear held
    induction members with
    | nil => cases found
    | cons m rest ih =>
      obtain ⟨name, first⟩ := m
      rw [Json.member?] at found
      split at found
      · obtain rfl := Option.some.inj found
        simp only [List.cons.sizeOf_spec, Prod.mk.sizeOf_spec]
        omega
      · have later := ih found
        simp only [List.cons.sizeOf_spec]
        omega
  rw [Json.object.sizeOf_spec]
  omega

theorem EncodesRef.wrap {wrapper : Wrapper} {ref : TypeRef (NamedRef Json)}
    (wraps : Wraps wrapper value inner) (rest : EncodesRef ref inner) :
    EncodesRef (wrapper.wrap ref) value := by
  cases wrapper with
  | list => exact .list wraps.kinded wraps.rest rest
  | nonNull => exact .nonNull wraps.kinded wraps.rest rest

theorem encodesRef_iff {ref : TypeRef (NamedRef Json)} : EncodesRef ref value ↔
    ∃ wrappers last kind name, Chain wrappers value last ∧ Named kind name last ∧
      ref = wrappers.foldr Wrapper.wrap (.named ⟨kind, name⟩) := by
  constructor
  · intro encodes
    induction encodes with
    | @named kind name value kinded called =>
      exact ⟨[], value, kind, name, .bare, ⟨kinded, called⟩, rfl⟩
    | list kinded wraps _ ih =>
      obtain ⟨wrappers, last, kind, name, chain, named, rfl⟩ := ih
      exact ⟨.list :: wrappers, last, kind, name, .wrapped ⟨kinded, wraps⟩ chain, named, rfl⟩
    | nonNull kinded wraps _ ih =>
      obtain ⟨wrappers, last, kind, name, chain, named, rfl⟩ := ih
      exact ⟨.nonNull :: wrappers, last, kind, name, .wrapped ⟨kinded, wraps⟩ chain, named, rfl⟩
  · rintro ⟨wrappers, last, kind, name, chain, named, rfl⟩
    induction chain with
    | bare => exact .named named.kinded named.called
    | wrapped wraps _ ih => exact (ih named).wrap wraps

theorem encodesRef_or_breaks (value : Json) :
    (∃ ref, EncodesRef ref value) ∨ ∃ cause, Breaks value cause := by
  cases value with
  | object members =>
    cases kinded : (Json.object members).get? "kind" with
    | none => exact .inr ⟨_, .noKind kinded⟩
    | some kind =>
      by_cases unknown : IsUnknown kind
      · exact .inr ⟨_, .unknownKind kinded unknown⟩
      -- A kind that is known is that of a wrapper or of a named type.
      rw [IsUnknown, not_and_or, not_forall_not, not_forall_not] at unknown
      rcases unknown with ⟨wrapper, rfl⟩ | ⟨known, rfl⟩
      · cases wraps : (Json.object members).get? "ofType" with
        | none => exact .inr ⟨_, .cut kinded wraps⟩
        | some inner =>
          have shorter := sizeOf_lt_of_get? wraps
          rcases encodesRef_or_breaks inner with ⟨ref, encodes⟩ | ⟨cause, breaks⟩
          · exact .inl ⟨_, encodes.wrap ⟨kinded, wraps⟩⟩
          · exact .inr ⟨cause, .within ⟨kinded, wraps⟩ breaks⟩
      · cases called : (Json.object members).get? "name" with
        | none => exact .inr ⟨_, .noName kinded called⟩
        | some name => exact .inl ⟨_, .named kinded called⟩
  | _ => exact .inr ⟨_, .noObject rfl⟩
termination_by sizeOf value
decreasing_by exact shorter

theorem typeRef_eq_ok_iff {ref : TypeRef (NamedRef Json)} :
    typeRef value = .ok ref ↔ EncodesRef ref value := by
  refine ⟨fun done => ?_, typeRef_ok⟩
  rcases encodesRef_or_breaks value with ⟨other, encodes⟩ | ⟨cause, breaks⟩
  · obtain rfl := Except.ok.inj ((typeRef_ok encodes).symm.trans done)
    exact encodes
  · cases (typeRef_of_breaks breaks).symm.trans done

theorem typeRef_eq_error_iff : typeRef value = .error cause ↔ Breaks value cause := by
  refine ⟨fun failed => ?_, typeRef_of_breaks⟩
  rcases encodesRef_or_breaks value with ⟨ref, encodes⟩ | ⟨other, breaks⟩
  · cases (typeRef_ok encodes).symm.trans failed
  · obtain rfl := Except.error.inj ((typeRef_of_breaks breaks).symm.trans failed)
    exact breaks

/-! ### Where references stand -/

/-- The item stands in the list under the key. -/
def Holds (key : String) (value item : Json) : Prop :=
  ∃ items, value.get? key = some (.array items) ∧ item ∈ items

/-- The value describes a field of an object type or of an interface. -/
def DescribesField (value field : Json) : Prop :=
  ∃ item, Holds "types" value item ∧ (item.get? "kind" = some (.string (TypeKind.toName .object)) ∨
    item.get? "kind" = some (.string (TypeKind.toName .interface))) ∧ Holds "fields" item field

/-- The value gives the type of a field, of an argument of a field, or of an input field. -/
inductive GivesType (value : Json) : Json → Prop where
  | field {field ref} (described : DescribesField value field)
      (typed : field.get? "type" = some ref) : GivesType value ref
  | argument {field argument ref} (described : DescribesField value field)
      (given : Holds "args" field argument) (typed : argument.get? "type" = some ref) :
      GivesType value ref
  | input {item input ref} (listed : Holds "types" value item)
      (kinded : item.get? "kind" = some (.string (TypeKind.toName .inputObject)))
      (given : Holds "inputFields" item input) (typed : input.get? "type" = some ref) :
      GivesType value ref

theorem exists_of_holds {α : Type} {item : Json} {items : List Json} {step : Json → Decode α}
    {results : List α} (holds : Holds key value item) (apart : optionalParts key value = .ok items)
    (done : items.mapM step = .ok results) : ∃ result, step item = .ok result := by
  obtain ⟨others, held, member⟩ := holds
  obtain rfl := Except.ok.inj ((optionalParts_ok (.inl held)).symm.trans apart)
  exact exists_ok_of_mapM done item member

theorem exists_ref_of_bind {α : Type} {ref : Json} {next : TypeRef (NamedRef Json) → Decode α}
    {result : α} (typed : value.get? "type" = some ref)
    (done : (need "type" value >>= fun ref => typeRef ref >>= next) = .ok result) :
    ∃ read, typeRef ref = .ok read ∧ next read = .ok result := by
  obtain ⟨found, held, done⟩ := bind_ok done
  obtain rfl := Except.ok.inj ((need_ok typed).symm.trans held)
  exact bind_ok done

theorem exists_ref_of_inputValue {ref : Json} {input : InputValue Json}
    (typed : value.get? "type" = some ref) (done : inputValue value = .ok input) :
    ∃ read, typeRef ref = .ok read := by
  rw [inputValue] at done
  obtain ⟨read, reads, -⟩ := exists_ref_of_bind typed done
  exact ⟨read, reads⟩

theorem exists_ref_of_field {owner ref : Json} {field : Field Json}
    (typed : value.get? "type" = some ref) (done : Introspection.field owner value = .ok field) :
    ∃ read, typeRef ref = .ok read := by
  rw [Introspection.field] at done
  obtain ⟨read, reads, -⟩ := exists_ref_of_bind typed done
  exact ⟨read, reads⟩

theorem exists_argument_of_field {owner argument : Json} {field : Field Json}
    (given : Holds "args" value argument) (done : Introspection.field owner value = .ok field) :
    ∃ input, inputValue argument = .ok input := by
  rw [Introspection.field] at done
  obtain ⟨ref, -, done⟩ := bind_ok done
  obtain ⟨read, -, done⟩ := bind_ok done
  split at done
  · obtain ⟨name, -, done⟩ := bind_ok done
    cases done
  · obtain ⟨name, -, done⟩ := bind_ok done
    obtain ⟨items, apart, done⟩ := bind_ok done
    obtain ⟨inputs, each, -⟩ := bind_ok done
    exact exists_of_holds given apart each

theorem exists_field_of_body {name field : Json} {kind : TypeKind} {whole : TypeBody Json}
    (composite : kind = .object ∨ kind = .interface) (held : Holds "fields" value field)
    (done : body name value kind = .ok whole) :
    ∃ read, Introspection.field name field = .ok read := by
  rcases composite with rfl | rfl
  all_goals
    rw [body] at done
    obtain ⟨items, apart, done⟩ := bind_ok done
    obtain ⟨fields, each, -⟩ := bind_ok done
    exact exists_of_holds held apart each

theorem exists_input_of_body {name input : Json} {whole : TypeBody Json}
    (given : Holds "inputFields" value input) (done : body name value .inputObject = .ok whole) :
    ∃ read, inputValue input = .ok read := by
  rw [body] at done
  obtain ⟨items, apart, done⟩ := bind_ok done
  obtain ⟨inputs, each, -⟩ := bind_ok done
  exact exists_of_holds given apart each

theorem exists_body_of_namedType {type : NamedType Json} {kind : TypeKind}
    (kinded : value.get? "kind" = some (.string kind.toName)) (done : namedType value = .ok type) :
    ∃ name whole, body name value kind = .ok whole := by
  rw [namedType] at done
  obtain ⟨found, known, done⟩ := bind_ok done
  obtain rfl := Except.ok.inj ((kind_ok kinded).symm.trans known)
  obtain ⟨name, -, done⟩ := bind_ok done
  obtain ⟨whole, made, -⟩ := bind_ok done
  exact ⟨name, whole, made⟩

theorem exists_namedType_of_contents {item : Json} {parts} (listed : Holds "types" value item)
    (done : contents value = .ok parts) : ∃ type, namedType item = .ok type := by
  obtain ⟨items, held, member⟩ := listed
  rw [contents] at done
  obtain ⟨found, there, done⟩ := bind_ok done
  obtain rfl := Except.ok.inj ((need_ok held).symm.trans there)
  obtain ⟨others, apart, done⟩ := bind_ok done
  obtain rfl : items = others := Except.ok.inj apart
  obtain ⟨types, each, -⟩ := bind_ok done
  exact exists_ok_of_mapM each item member

theorem exists_field_of_contents {field : Json} {parts} (described : DescribesField value field)
    (done : contents value = .ok parts) :
    ∃ owner read, Introspection.field owner field = .ok read := by
  obtain ⟨item, listed, kinded, held⟩ := described
  obtain ⟨type, made⟩ := exists_namedType_of_contents listed done
  have composite : ∃ kind : TypeKind, (kind = .object ∨ kind = .interface) ∧
      item.get? "kind" = some (.string kind.toName) :=
    kinded.elim (⟨_, .inl rfl, ·⟩) (⟨_, .inr rfl, ·⟩)
  obtain ⟨kind, composite, kinded⟩ := composite
  obtain ⟨name, whole, made⟩ := exists_body_of_namedType kinded made
  exact ⟨name, exists_field_of_body composite held made⟩

theorem exists_ref_of_contents {ref : Json} {parts} (gives : GivesType value ref)
    (done : contents value = .ok parts) : ∃ read, typeRef ref = .ok read := by
  cases gives with
  | field described typed =>
    obtain ⟨owner, field, read⟩ := exists_field_of_contents described done
    exact exists_ref_of_field typed read
  | argument described given typed =>
    obtain ⟨owner, field, read⟩ := exists_field_of_contents described done
    obtain ⟨input, read⟩ := exists_argument_of_field given read
    exact exists_ref_of_inputValue typed read
  | input listed kinded given typed =>
    obtain ⟨type, made⟩ := exists_namedType_of_contents listed done
    obtain ⟨name, whole, made⟩ := exists_body_of_namedType kinded made
    obtain ⟨input, read⟩ := exists_input_of_body given made
    exact exists_ref_of_inputValue typed read

theorem decode_of_gives {ref : Json} (gives : GivesType (unwrap (.object members)) ref)
    (unread : ∀ read, typeRef ref ≠ .ok read) :
    ∃ cause, decode (.object members) = .error (.malformed cause) := by
  rw [decode]
  cases read : contents (unwrap (.object members)) with
  | error cause => exact ⟨cause, rfl⟩
  | ok parts =>
    obtain ⟨found, reads⟩ := exists_ref_of_contents gives read
    exact absurd reads (unread found)

/-- A value is read as a reference just where it is a chain of wrappers around a kind and a name, and
the reference has these wrappers around them. It is known what breaks every other value. Of a chain
all wrappers are read or nothing, so that one which is cut off is never read as a shorter one. A whole
fails to load, as malformed, if a value that cannot be read gives the type of a field, an argument or
an input field in it. -/
theorem typeRef_reads_chains [Schema.Language] :
    (∀ value ref, typeRef value = .ok ref ↔ ∃ wrappers last kind name,
      Chain wrappers value last ∧ Named kind name last ∧
        ref = wrappers.foldr Wrapper.wrap (.named ⟨kind, name⟩)) ∧
    (∀ value cause, typeRef value = .error cause ↔ Breaks value cause) ∧
    (∀ wrappers value last, Chain wrappers value last →
      typeRef value = (typeRef last).map fun ref => wrappers.foldr Wrapper.wrap ref) ∧
    ∀ members ref checked, GivesType (unwrap (.object members)) ref →
      (∀ read, typeRef ref ≠ .ok read) →
      ∃ cause, Schema.ofIntrospection (.object members) checked =
          .error (.introspection (.malformed cause)) ∧
        (LoadFailure.introspection (.malformed cause)).message?
          = some ("Malformed introspection result: " ++ cause.message) := by
  refine ⟨fun value ref => typeRef_eq_ok_iff.trans encodesRef_iff,
    fun value cause => typeRef_eq_error_iff, fun _ _ _ chain => typeRef_of_chain chain, ?_⟩
  intro members ref checked gives unread
  obtain ⟨cause, failed⟩ := decode_of_gives gives unread
  refine ⟨cause, ?_, rfl⟩
  rw [Schema.ofIntrospection, failed]
  rfl

def tagsType : Json :=
  .object [("kind", .string "NON_NULL"), ("name", .null),
    ("ofType", .object [("kind", .string "LIST"), ("name", .null), ("ofType", .null)])]

def shallow : List (String × Json) := [
  ("queryType", .object [("name", .string "Query")]),
  ("types", .array [.object [("kind", .string "OBJECT"), ("name", .string "Query"),
    ("fields", .array [.object [("name", .string "tags"), ("args", .array []),
      ("type", tagsType)]])]])]

theorem typeRef_reads_chains_of_shallow :
    Chain [.nonNull, .list] tagsType .null ∧ typeRef tagsType = .error .wrongShape ∧
      GivesType (unwrap (.object shallow)) tagsType ∧
      ∀ [Schema.Language], ∃ cause, Schema.ofIntrospection (.object shallow) true =
        .error (.introspection (.malformed cause)) := by
  have chain : Chain [.nonNull, .list] tagsType .null :=
    .wrapped ⟨rfl, rfl⟩ (.wrapped ⟨rfl, rfl⟩ .bare)
  have gives : GivesType (unwrap (.object shallow)) tagsType :=
    .field ⟨_, ⟨_, rfl, List.mem_singleton_self _⟩, .inl rfl, ⟨_, rfl, List.mem_singleton_self _⟩⟩ rfl
  have unread : typeRef tagsType = .error .wrongShape := typeRef_of_chain chain
  refine ⟨chain, unread, gives, fun {_} => ?_⟩
  obtain ⟨cause, failed, -⟩ := typeRef_reads_chains.2.2.2 shallow tagsType true gives
    fun read done => by cases unread.symm.trans done
  exact ⟨cause, failed⟩

end Introspection

end GraphqlRequests
