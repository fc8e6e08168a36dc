import GraphqlRequests.Proofs.Selection.Outcome

/-!
# Requested fields

What is selected of an object type for a list of requested names. Requests are refused for names
that the type does not have. All others select the requested fields where they are declared, so
that neither the order of a request nor repetitions matter.
-/

namespace GraphqlRequests

/-! ### Taking from a list -/

/-- What is taken of a list: each wanted member, at each of its places. -/
inductive Takes {α : Type} (wanted : α → Prop) : List α → List α → Prop where
  | nil : Takes wanted [] []
  | take {a list taken} (here : wanted a) (rest : Takes wanted list taken) :
      Takes wanted (a :: list) (a :: taken)
  | leave {a list taken} (here : ¬wanted a) (rest : Takes wanted list taken) :
      Takes wanted (a :: list) taken

namespace Takes

variable {α : Type} {wanted other : α → Prop} {list taken : List α}

theorem filter (wanted : α → Prop) [DecidablePred wanted] (list : List α) :
    Takes wanted list (list.filter wanted) := by
  induction list with
  | nil => exact .nil
  | cons a rest ih =>
    by_cases here : wanted a
    · rw [List.filter_cons_of_pos (by simpa using here)]
      exact .take here ih
    · rw [List.filter_cons_of_neg (by simpa using here)]
      exact .leave here ih

theorem unique {also : List α} (takes : Takes wanted list taken) (again : Takes wanted list also) :
    taken = also := by
  induction takes generalizing also with
  | nil =>
    cases again
    rfl
  | take here _ ih =>
    cases again with
    | take _ rest => rw [ih rest]
    | leave other => exact absurd here other
  | leave here _ ih =>
    cases again with
    | take other => exact absurd other here
    | leave _ rest => exact ih rest

theorem congr (same : ∀ a ∈ list, wanted a ↔ other a) (takes : Takes wanted list taken) :
    Takes other list taken := by
  induction takes with
  | nil => exact .nil
  | take here _ ih =>
    obtain ⟨first, later⟩ := List.forall_mem_cons.mp same
    exact .take (first.mp here) (ih later)
  | leave here _ ih =>
    obtain ⟨first, later⟩ := List.forall_mem_cons.mp same
    exact .leave (mt first.mpr here) (ih later)

theorem mem_iff (takes : Takes wanted list taken) {a : α} : a ∈ taken ↔ a ∈ list ∧ wanted a := by
  classical
  rw [takes.unique (filter wanted list), List.mem_filter, decide_eq_true_eq]

end Takes

/-! ### Requests -/

/-- The entry for a field of the type, the first of its name: this name, by itself or around the
spread of a fragment. -/
inductive ObjectType.Shows (object : ObjectType String) (name : String) : String → Prop where
  | leaf {field} (first : object.field? name = some field) (named : field.name = name)
      (leaf : field.type.innermost.kind.isLeaf = true) : Shows object name name
  | nested {field} (first : object.field? name = some field) (named : field.name = name)
      (composite : field.type.innermost.kind.isLeaf = false) :
      Shows object name (Text.unlines [name ++ " \x7b",
        "  " ++ Fragment.spread (Fragment.key field.type.innermost.name), "\x7d"])

namespace Selection

variable {object : ObjectType String} {request : Option (List String)}
variable {selection : Selection String}

/-- The names that a request asks for, which are all if it lists none. -/
def Wants (request : Option (List String)) (name : String) : Prop :=
  request.getD [] = [] ∨ name ∈ request.getD []

theorem of_error {e : SelectFailure} : of object request = .error e ↔
    ∃ unknown, unknown ≠ [] ∧ Takes (· ∉ object.fieldNames) (request.getD []) unknown ∧
      e = .unknownFields ⟨object.name, unknown⟩ := by
  have refused := Takes.filter (· ∉ object.fieldNames) (request.getD [])
  unfold of
  rw [ofNames_eq fun _ _ => Name.isKey_string _]
  simp only [Name.ofText_string, Name.shown_string]
  split
  · next known =>
    constructor
    · intro failed
      cases failed
    · rintro ⟨unknown, some, takes, -⟩
      exact absurd ((takes.unique refused).trans known) some
  · next known =>
    constructor
    · intro failed
      exact ⟨_, known, refused, (Except.error.inj failed).symm⟩
    · rintro ⟨unknown, -, takes, rfl⟩
      rw [takes.unique refused]

theorem exists_of_iff (object : ObjectType String) (request : Option (List String)) :
    (∃ selection, of object request = .ok selection) ↔
      ∀ name ∈ request.getD [], name ∈ object.fieldNames := by
  have refused := Takes.filter (· ∉ object.fieldNames) (request.getD [])
  constructor
  · rintro ⟨selection, made⟩ name asked
    by_contra unknown
    have listed := refused.mem_iff.mpr ⟨asked, unknown⟩
    have failed := of_error.mpr ⟨_, List.ne_nil_of_mem listed, refused, rfl⟩
    cases failed.symm.trans made
  · intro known
    cases outcome : of object request with
    | ok selection => exact ⟨selection, rfl⟩
    | error e =>
      obtain ⟨unknown, some, takes, -⟩ := of_error.mp outcome
      obtain ⟨name, listed⟩ := List.exists_mem_of_ne_nil unknown some
      obtain ⟨asked, other⟩ := takes.mem_iff.mp listed
      exact absurd (known name asked) other

theorem takes_of_ok (made : of object request = .ok selection) :
    selection.type = object ∧ Takes (Wants request) object.fieldNames selection.selected := by
  obtain rfl := ofNames_ok made
  unfold Wants
  by_cases none : request.getD [] = []
  · have every := Takes.filter (fun _ => True) object.fieldNames
    rw [List.filter_eq_self.mpr (by simp)] at every
    rw [if_pos none]
    exact ⟨rfl, every.congr fun _ _ => iff_of_true trivial (.inl none)⟩
  · have some := Takes.filter (· ∈ (request.getD []).map Name.ofText) object.fieldNames
    rw [if_neg none]
    refine ⟨rfl, some.congr fun name _ => ?_⟩
    simp [none]

theorem of_ok_congr {other : Option (List String)} {also : Selection String}
    (same : ∀ name ∈ object.fieldNames, Wants request name ↔ Wants other name)
    (made : of object request = .ok selection) (again : of object other = .ok also) :
    selection = also := by
  obtain ⟨type, takes⟩ := takes_of_ok made
  obtain ⟨type', takes'⟩ := takes_of_ok again
  obtain ⟨_, selected⟩ := selection
  obtain ⟨_, selected'⟩ := also
  subst type type'
  exact congrArg _ ((takes.congr same).unique takes')

theorem toOption_of_congr (object : ObjectType String) {first second : List String}
    (same : ∀ name, name ∈ first ↔ name ∈ second) :
    (of object (some first)).toOption = (of object (some second)).toOption := by
  have wants : ∀ name, Wants (some first) name ↔ Wants (some second) name := by
    intro name
    unfold Wants
    simp only [Option.getD_some, same, List.eq_nil_iff_forall_not_mem]
  have known : (∃ selection, of object (some first) = .ok selection) ↔
      ∃ selection, of object (some second) = .ok selection := by
    rw [exists_of_iff, exists_of_iff]
    exact forall_congr' fun name => imp_congr_left (same name)
  cases one : of object (some first) with
  | ok selection =>
    obtain ⟨also, two⟩ := known.mp ⟨selection, one⟩
    rw [two, of_ok_congr (fun name _ => wants name) one two]
  | error e =>
    cases two : of object (some second) with
    | ok also =>
      obtain ⟨selection, also⟩ := known.mpr ⟨also, two⟩
      cases one.symm.trans also
    | error => rfl

theorem of_selected (made : of object request = .ok selection) :
    of object (some selection.selected) = .ok selection := by
  obtain ⟨-, takes⟩ := takes_of_ok made
  have known : ∀ name ∈ selection.selected, name ∈ object.fieldNames :=
    fun name listed => (takes.mem_iff.mp listed).1
  obtain ⟨also, again⟩ := (exists_of_iff object (some selection.selected)).mpr known
  rw [again, of_ok_congr ?_ made again]
  intro name declared
  constructor
  · intro wanted
    exact .inr (takes.mem_iff.mpr ⟨declared, wanted⟩)
  · rintro (nothing | listed)
    · -- A name that is asked for would be selected, so none is asked for.
      by_contra unwanted
      obtain ⟨other, asked⟩ := List.exists_mem_of_ne_nil _ fun none => unwanted (.inl none)
      have declared := (exists_of_iff object request).mp ⟨selection, made⟩ other asked
      have listed := takes.mem_iff.mpr ⟨declared, .inr asked⟩
      rw [show selection.selected = [] from nothing] at listed
      cases listed
    · exact (takes.mem_iff.mp listed).2

theorem of_fieldNames (object : ObjectType String) :
    of object (some object.fieldNames) = of object none := by
  obtain ⟨every, one⟩ := (exists_of_iff object none).mpr (by simp)
  obtain ⟨also, two⟩ := (exists_of_iff object (some object.fieldNames)).mpr fun _ asked => asked
  rw [one, two, of_ok_congr ?_ one two]
  intro name declared
  exact iff_of_true (.inl rfl) (.inr declared)

theorem forall₂_shows {entries : List String} (done : selection.renderFields = .ok entries) :
    List.Forall₂ selection.type.Shows selection.selected entries := by
  refine (forall₂_of_mapM done).imp fun name entry render => ?_
  cases found : selection.type.field? name with
  | none =>
    simp only [found] at render
    cases render
  | some field =>
    have named : field.name = name := by simpa using List.find?_some found
    subst named
    simp only [found, renderField] at render
    split at render
    · next leaf =>
      obtain rfl := Except.ok.inj render
      exact .leaf found rfl leaf
    · next composite =>
      split at render
      · cases render
      · obtain rfl := Except.ok.inj render
        exact .nested found rfl (eq_false_of_ne_true composite)

/-- A request is refused exactly for names that are no fields of the type, and all of these are
listed as they were requested. Any other request selects the fields that it asks for where they are
declared, and what it selects can be requested in turn; where the fields are rendered, each selected
name has its entry. Requests for the same names select the same and have the same fragment, and to
request all fields is to request none. -/
theorem of_exact (object : ObjectType String) :
    (∀ request e, of object request = .error e ↔
      ∃ unknown, unknown ≠ [] ∧ Takes (· ∉ object.fieldNames) (request.getD []) unknown ∧
        e = .unknownFields ⟨object.name, unknown⟩) ∧
    (∀ request, (∃ selection, of object request = .ok selection) ↔
      ∀ name ∈ request.getD [], name ∈ object.fieldNames) ∧
    (∀ request selection, of object request = .ok selection →
      selection.type = object ∧ Takes (Wants request) object.fieldNames selection.selected ∧
      of object (some selection.selected) = .ok selection ∧
      ∀ entries, selection.renderFields = .ok entries →
        List.Forall₂ object.Shows selection.selected entries) ∧
    (∀ first second : List String, (∀ name, name ∈ first ↔ name ∈ second) →
      (of object (some first)).toOption = (of object (some second)).toOption ∧
      (of object (some first)).toOption.map fragment
        = (of object (some second)).toOption.map fragment) ∧
    of object (some object.fieldNames) = of object none := by
  refine ⟨fun request e => of_error, exists_of_iff object, ?_, ?_, of_fieldNames object⟩
  · intro request selection made
    obtain ⟨rfl, takes⟩ := takes_of_ok made
    exact ⟨rfl, takes, of_selected made, fun entries done => forall₂_shows done⟩
  · intro first second same
    have selections := toOption_of_congr object same
    exact ⟨selections, by rw [selections]⟩

end Selection

def roundTrip : ObjectType String where
  name := "Line"
  fields := [{ name := "stop", type := .named ⟨.object, "Stop"⟩ },
    { name := "fare", type := .named ⟨.scalar, "Int"⟩ },
    { name := "stop", type := .named ⟨.scalar, "ID"⟩ }]

theorem Selection.of_exact_of_roundTrip :
    (∀ name, name ∈ ["stop", "stop"] ↔ name ∈ ["stop"]) ∧
    of roundTrip (some ["stop", "stop"]) = .ok ⟨roundTrip, ["stop", "stop"]⟩ ∧
    (of roundTrip (some ["stop", "stop"])).toOption = (of roundTrip (some ["stop"])).toOption ∧
    Takes (Wants (some ["stop", "stop"])) roundTrip.fieldNames ["stop", "stop"] ∧
    ∃ entry, List.Forall₂ roundTrip.Shows ["stop", "stop"] [entry, entry] ∧
      entry = "stop \x7b\n  ...StopFragment\n\x7d" := by
  have same : ∀ name, name ∈ ["stop", "stop"] ↔ name ∈ ["stop"] := by simp
  have made : of roundTrip (some ["stop", "stop"]) = .ok ⟨roundTrip, ["stop", "stop"]⟩ := by
    decide +kernel
  obtain ⟨-, -, each, sets, -⟩ := Selection.of_exact roundTrip
  obtain ⟨-, takes, -, rendered⟩ := each _ _ made
  refine ⟨same, made, (sets _ _ same).1, takes, _, rendered _ ?_, rfl⟩
  decide +kernel

end GraphqlRequests
