import GraphqlRequests.Endpoint
import GraphqlRequests.Proofs.Json.Reading
import GraphqlRequests.Proofs.Text.Bytes

/-!
# What fetching comes to

Fetching ends with an introspection result or with a failure that something is said of, exactly
where the request can be sent, is not broken off, and the reply is orderly: it holds no JSON, or an
object that reports errors one by one, or data that is an object or is taken for no introspection
result. Nothing is assumed of the client that sends requests.
-/

namespace GraphqlRequests

/-- An object with a member called `__schema`, whatever that is. -/
def Json.IsIntrospection (value : Json) : Prop :=
  ∃ members, value = .object members ∧ (Json.member? "__schema" members).isSome = true

/-- Something is said of the failure: it is reported as one of loading the schema. -/
def FetchFailure.Explained (failure : FetchFailure) : Prop :=
  failure.message?.isSome = true

namespace Endpoint

/-! ### Replies -/

def IsReport (error : Json) : Prop :=
  ∃ members, error = .object members ∧
    ∀ message, Json.member? "message" members = some message → message.text?.isSome = true

/-- The value has something called `__schema`: a key, an item or a part of its text. -/
inductive MentionsSchema : Json → Prop where
  | key {members : List (String × Json)}
      (found : (Json.member? "__schema" members).isSome = true) : MentionsSchema (.object members)
  | item {items : List Json} (listed : .string "__schema" ∈ items) : MentionsSchema (.array items)
  | part {value : Json} {text : String} (shown : value.text? = some text)
      (inside : "__schema".toList <:+: text.toList) : MentionsSchema value

def Searchable (value : Json) : Prop :=
  (∃ members, value = .object members) ∨ (∃ items, value = .array items) ∨
    value.text?.isSome = true

def under (name : String) (members : List (String × Json)) : Json :=
  (Json.member? name members).getD .null

/-- The JSON of a reply as it is expected. It is an object; it lists its errors, or has no errors,
and then its data is absent, an object, or something that is taken for no introspection result. -/
inductive Orderly : Json → Prop where
  | refused {members : List (String × Json)} {items : List Json}
      (errors : under "errors" members = .array items) (some : items ≠ [])
      (reports : ∀ item ∈ items, IsReport item) : Orderly (.object members)
  | empty {members : List (String × Json)} (quiet : (under "errors" members).isPresent = false)
      (absent : (under "data" members).isPresent = false) : Orderly (.object members)
  | object {members inner : List (String × Json)}
      (quiet : (under "errors" members).isPresent = false)
      (data : under "data" members = .object inner) : Orderly (.object members)
  | other {members : List (String × Json)} (quiet : (under "errors" members).isPresent = false)
      (searchable : Searchable (under "data" members))
      (unmentioned : ¬MentionsSchema (under "data" members)) : Orderly (.object members)

def content? : Reply → Option (Json.Read Json)
  | .lost | .invalid | .brokenOff => none
  | .received status body =>
    if status < 200 ∨ 300 ≤ status then none
    else (Text.fromBytes (body.map (·.toNat))).map (Json.readPoints .lenient)

/-- A reply in UTF-8 holds what its text does. -/
theorem content?_answer {status : Nat} {text : String} (good : ¬(status < 200 ∨ 300 ≤ status))
    (clean : '\x00' ∉ text.toList) (unmarked : text.toList.head? ≠ some '\uFEFF') :
    content? (.answer status text) = some (Json.read .lenient text) := by
  have bytes : (text.toList.flatMap String.utf8EncodeChar).map (·.toNat)
      = Text.utf8 text.toList := by
    rw [List.map_flatMap]
    rfl
  rw [Reply.answer, content?, if_neg good, bytes, Text.fromBytes_utf8 clean unmarked,
    Option.map_some, Json.readPoints_toNat]

/-! ### Parts of a reply -/

theorem isReport_iff {error : Json} : IsReport error ↔
    ∃ message, errorMessage error = .ok message ∧ message.text?.isSome = true := by
  cases error with
  | object members =>
    cases found : Json.member? "message" members <;>
      simp [IsReport, errorMessage, found, Json.text?]
  | _ => simp [IsReport, errorMessage]

theorem errorMessages_ok {errors : Json} : (∃ text, errorMessages errors = .ok text) ↔
    ∃ items, errors = .array items ∧ ∀ item ∈ items, IsReport item := by
  cases errors with
  | array items =>
    simp only [errorMessages, Json.array.injEq, exists_eq_left']
    cases read : items.mapM errorMessage with
    | error failure =>
      obtain ⟨item, listed, failed⟩ := mapM_error read
      refine iff_of_false nofun fun reports => ?_
      obtain ⟨message, told, -⟩ := isReport_iff.mp (reports item listed)
      rw [failed] at told
      cases told
    | ok messages =>
      have same := forall_mem_iff_of_forall₂ (p := IsReport) (q := fun m => m.text?.isSome = true)
        (forall₂_of_mapM read) fun item message told => by simp [isReport_iff, told]
      rw [same, ← exists_mapM_some_iff]
      cases texts : messages.mapM Json.text? with
      | none => simp [bind, Except.bind, texts, throw, throwThe, MonadExceptOf.throw]
      | some texts => simp [bind, Except.bind, texts, pure, Except.pure]
  | _ => simp [errorMessages, bind, Except.bind]

theorem not_explained_of_errorMessages {errors : Json} {failure : FetchFailure}
    (failed : errorMessages errors = .error failure) : ¬failure.Explained := by
  have silent : failure = .notAnObject ∨ failure = .wrongShape := by
    cases errors with
    | array items =>
      simp only [errorMessages] at failed
      rcases bind_error failed with unlisted | ⟨messages, -, failed⟩
      · obtain ⟨item, -, failed⟩ := mapM_error unlisted
        cases item with
        | object => cases failed
        | _ => exact .inl (Except.error.inj failed).symm
      · split at failed
        · cases failed
        · exact .inr (Except.error.inj failed).symm
    | object | string | broken => exact .inl (Except.error.inj failed).symm
    | _ => exact .inr (Except.error.inj failed).symm
  rcases silent with rfl | rfl <;> exact Bool.false_ne_true

theorem occursIn_iff {part chars : List Char} : occursIn part chars = true ↔ part <:+: chars := by
  induction chars with
  | nil => simp [occursIn]
  | cons c rest ih => simp [occursIn, ih, List.infix_cons_iff]

theorem hasSchema_true {value : Json} : hasSchema value = .ok true ↔ MentionsSchema value := by
  constructor
  · intro found
    cases value with
    | object members => exact .key (Except.ok.inj found)
    | array items =>
      rw [hasSchema, Except.ok.injEq, List.contains_iff_mem] at found
      exact .item found
    | string s => exact .part rfl (occursIn_iff.mp (Except.ok.inj found))
    | broken codePoints => exact .part rfl (occursIn_iff.mp (Except.ok.inj found))
    | null | bool | int | float => cases found
  · intro mentions
    cases mentions with
    | key found => rw [hasSchema, found]
    | item listed => rw [hasSchema, List.contains_iff_mem.mpr listed]
    | @part value text shown inside =>
      cases value with
      | string s | broken codePoints =>
        obtain rfl := Option.some.inj shown
        rw [hasSchema, occursIn_iff.mpr inside]
      | null | bool | int | float | array | object => cases shown

theorem hasSchema_ok {value : Json} :
    (∃ found, hasSchema value = .ok found) ↔ Searchable value := by
  cases value <;> simp [hasSchema, Searchable, Json.text?]

theorem not_explained_of_hasSchema {value : Json} {failure : FetchFailure}
    (failed : hasSchema value = .error failure) : ¬failure.Explained := by
  cases value with
  | null | bool | int | float =>
    obtain rfl := Except.error.inj failed
    exact Bool.false_ne_true
  | string | broken | array | object => cases failed

/-! ### Whole replies -/

/-- The outcome is an introspection result, or a failure that something is said of. -/
def Meant (outcome : Except FetchFailure Json) : Prop :=
  (∃ data, outcome = .ok data ∧ data.IsIntrospection) ∨
    ∃ failure, outcome = .error failure ∧ failure.Explained

theorem meant_ok {data : Json} : Meant (.ok data) ↔ data.IsIntrospection := by
  simp [Meant]

theorem meant_error {failure : FetchFailure} : Meant (.error failure) ↔ failure.Explained := by
  simp [Meant]

variable {url : String} {members : List (String × Json)}

theorem result_of_errors (present : (under "errors" members).isPresent = true) :
    result url (.object members)
      = (errorMessages (under "errors" members)).bind fun text => .error (.refused text) := by
  rw [under] at present
  simp only [result, under, present]
  cases errorMessages ((Json.member? "errors" members).getD .null) <;> rfl

theorem result_of_quiet (quiet : (under "errors" members).isPresent = false) :
    result url (.object members)
      = if (under "data" members).isPresent then
          (hasSchema (under "data" members)).bind fun found =>
            if found then .ok (under "data" members) else .error (.empty url)
        else .error (.empty url) := by
  rw [under] at quiet
  rw [result, quiet]
  by_cases present : (under "data" members).isPresent = true
  · rw [if_pos present]
    rw [under] at present
    simp only [present]
    rfl
  · rw [if_neg present]
    rw [under, Bool.not_eq_true] at present
    simp only [present]
    rfl

theorem isPresent_of_text {value : Json} {text : String} (shown : value.text? = some text)
    (some : text ≠ "") : value.isPresent = true := by
  cases value with
  | string s =>
    obtain rfl := Option.some.inj shown
    simpa [Json.isPresent] using some
  | broken codePoints =>
    obtain rfl := Option.some.inj shown
    cases codePoints with
    | nil => exact absurd rfl some
    | cons => rfl
  | null | bool | int | float | array | object => cases shown

theorem MentionsSchema.isPresent {value : Json} (mentions : MentionsSchema value) :
    value.isPresent = true := by
  cases mentions with
  | @key members found =>
    cases members with
    | nil => cases found
    | cons => rfl
  | @item items listed =>
    cases items with
    | nil => cases listed
    | cons => rfl
  | part shown inside =>
    refine isPresent_of_text shown ?_
    rintro rfl
    exact absurd (List.infix_nil.mp inside) (by decide)

theorem member_of_under {name : String} (present : (under name members).isPresent = true) :
    Json.member? name members = some (under name members) := by
  cases found : Json.member? name members with
  | none => simp [under, found, Json.isPresent] at present
  | some value => simp [under, found]

theorem result_ok {value data : Json} : result url value = .ok data ↔
    ∃ members, value = .object members ∧ (under "errors" members).isPresent = false ∧
      Json.member? "data" members = some data ∧ MentionsSchema data := by
  constructor
  · intro given
    cases value with
    | object members =>
      cases errors : (under "errors" members).isPresent with
      | true =>
        rw [result_of_errors errors] at given
        obtain ⟨text, -, given⟩ := bind_ok given
        cases given
      | false =>
        rw [result_of_quiet errors] at given
        split at given
        · rename_i present
          obtain ⟨found, known, given⟩ := bind_ok given
          cases found with
          | true =>
            obtain rfl := Except.ok.inj given
            exact ⟨members, rfl, errors, member_of_under present, hasSchema_true.mp known⟩
          | false => cases given
        · cases given
    | null | bool | int | float | string | broken | array => cases given
  · rintro ⟨members, rfl, quiet, found, mentions⟩
    have data : under "data" members = data := by rw [under, found, Option.getD_some]
    rw [result_of_quiet quiet, data, if_pos mentions.isPresent, hasSchema_true.mpr mentions]
    rfl

theorem meant_result_of_errors (present : (under "errors" members).isPresent = true) :
    Meant (result url (.object members)) ↔ Orderly (.object members) := by
  have told : Meant (result url (.object members)) ↔
      ∃ text, errorMessages (under "errors" members) = .ok text := by
    rw [result_of_errors present]
    cases messages : errorMessages (under "errors" members) with
    | error failure =>
      refine iff_of_false (fun meant => ?_) nofun
      exact not_explained_of_errorMessages messages (meant_error.mp meant)
    | ok text => exact iff_of_true (meant_error.mpr rfl) ⟨text, rfl⟩
  rw [told, errorMessages_ok]
  constructor
  · rintro ⟨items, listed, reports⟩
    refine .refused listed ?_ reports
    rintro rfl
    rw [listed] at present
    cases present
  · intro orderly
    cases orderly with
    | refused errors some reports => exact ⟨_, errors, reports⟩
    | empty quiet | object quiet | other quiet =>
      rw [quiet] at present
      cases present

theorem orderly_of_quiet (quiet : (under "errors" members).isPresent = false)
    (present : (under "data" members).isPresent = true) : Orderly (.object members) ↔
      (∃ inner, under "data" members = .object inner) ∨
        Searchable (under "data" members) ∧ ¬MentionsSchema (under "data" members) := by
  constructor
  · intro orderly
    cases orderly with
    | @refused _ items errors some =>
      rw [errors] at quiet
      exact absurd (List.isEmpty_iff.mp (by simpa [Json.isPresent] using quiet)) some
    | empty _ absent =>
      rw [present] at absent
      cases absent
    | object _ data => exact .inl ⟨_, data⟩
    | other _ searchable unmentioned => exact .inr ⟨searchable, unmentioned⟩
  · rintro (⟨inner, data⟩ | ⟨searchable, unmentioned⟩)
    · exact .object quiet data
    · exact .other quiet searchable unmentioned

theorem isIntrospection_of_mentionsSchema {value : Json} (mentions : MentionsSchema value) :
    value.IsIntrospection ↔ ∃ members, value = .object members := by
  constructor
  · rintro ⟨members, rfl, -⟩
    exact ⟨members, rfl⟩
  · rintro ⟨members, rfl⟩
    cases mentions with
    | key found => exact ⟨members, rfl, found⟩
    | part shown => cases shown

theorem meant_result_of_quiet (quiet : (under "errors" members).isPresent = false) :
    Meant (result url (.object members)) ↔ Orderly (.object members) := by
  rw [result_of_quiet quiet]
  split
  · rename_i present
    rw [orderly_of_quiet quiet present]
    cases known : hasSchema (under "data" members) with
    | error failure =>
      have unsearchable : ¬Searchable (under "data" members) := by
        rw [← hasSchema_ok, known]
        nofun
      refine iff_of_false (fun meant => ?_) ?_
      · exact not_explained_of_hasSchema known (meant_error.mp meant)
      · rintro (object | ⟨searchable, -⟩)
        · exact unsearchable (.inl object)
        · exact unsearchable searchable
    | ok found =>
      -- What is found has to be an object; what is not found is refused with a message.
      have searchable := hasSchema_ok.mp ⟨found, known⟩
      cases found with
      | true =>
        have mentions := hasSchema_true.mp known
        rw [or_iff_left fun other => other.2 mentions, ← isIntrospection_of_mentionsSchema mentions]
        exact meant_ok
      | false =>
        refine iff_of_true (meant_error.mpr rfl) (.inr ⟨searchable, fun mentions => ?_⟩)
        rw [hasSchema_true.mpr mentions] at known
        cases known
  · rename_i absent
    exact iff_of_true (meant_error.mpr rfl) (.empty quiet (Bool.eq_false_iff.mpr absent))

theorem meant_result {value : Json} : Meant (result url value) ↔ Orderly value := by
  cases value with
  | object members =>
    cases errors : (under "errors" members).isPresent with
    | true => exact meant_result_of_errors errors
    | false => exact meant_result_of_quiet errors
  | null | bool | int | float | string | broken | array =>
    refine iff_of_false (fun meant => ?_) nofun
    exact Bool.false_ne_true (meant_error.mp meant)

theorem receive_cases (url : String) (reply : Reply) :
    (∃ value, content? reply = some (.ok value) ∧ receive url reply = result url value) ∨
    (content? reply = some (.error .tooDeep) ∧ receive url reply = .error .tooDeep) ∨
    (reply = .brokenOff ∧ receive url reply = .error .brokenOff) ∨
    (reply ≠ .brokenOff ∧ (∀ value, content? reply ≠ some (.ok value)) ∧
      content? reply ≠ some (.error .tooDeep) ∧
      ∃ failure, receive url reply = .error failure ∧ failure.Explained) := by
  cases reply with
  | lost | invalid =>
    exact .inr (.inr (.inr ⟨by simp, by simp [content?], by simp [content?], _, rfl, rfl⟩))
  | brokenOff => exact .inr (.inr (.inl ⟨rfl, rfl⟩))
  | received status body =>
    rw [receive, content?]
    split
    · exact .inr (.inr (.inr ⟨by simp, by simp, by simp, _, rfl, rfl⟩))
    · cases (Text.fromBytes (body.map (·.toNat))).map (Json.readPoints .lenient) with
      | none => exact .inr (.inr (.inr ⟨by simp, by simp, by simp, _, rfl, rfl⟩))
      | some read =>
        cases read with
        | ok value => exact .inl ⟨value, rfl, rfl⟩
        | error failure =>
          cases failure with
          | tooDeep => exact .inr (.inl ⟨rfl, rfl⟩)
          | malformed | longNumber =>
            exact .inr (.inr (.inr ⟨by simp, by simp, by simp, _, rfl, rfl⟩))

/-- The reply is answered for: it is not broken off, and what it holds can be read, and is orderly,
or it holds no JSON. -/
def Answered (reply : Reply) : Prop :=
  reply ≠ .brokenOff ∧ content? reply ≠ some (.error .tooDeep) ∧
    ∀ value, content? reply = some (.ok value) → Orderly value

theorem meant_receive {reply : Reply} : Meant (receive url reply) ↔ Answered reply := by
  unfold Answered
  rcases receive_cases url reply with
    ⟨value, read, same⟩ | ⟨deep, same⟩ | ⟨rfl, same⟩ | ⟨whole, unread, level, told⟩
  · have whole : reply ≠ .brokenOff := by
      rintro rfl
      cases read
    rw [same, meant_result, read]
    simp [whole]
  · rw [same, meant_error]
    exact iff_of_false Bool.false_ne_true fun answered => answered.2.1 deep
  · rw [same, meant_error]
    exact iff_of_false Bool.false_ne_true fun answered => answered.1 rfl
  · obtain ⟨failure, same, explained⟩ := told
    rw [same, meant_error]
    exact iff_of_true explained ⟨whole, level, fun value read => absurd read (unread value)⟩

theorem receive_ok {reply : Reply} {data : Json} : receive url reply = .ok data ↔
    ∃ value, content? reply = some (.ok value) ∧ result url value = .ok data := by
  rcases receive_cases url reply with
    ⟨value, read, same⟩ | ⟨deep, same⟩ | ⟨rfl, same⟩ | ⟨-, unread, -, told⟩
  · rw [same, read]
    simp
  · rw [same, deep]
    simp
  · rw [same]
    refine iff_of_false nofun ?_
    rintro ⟨value, read, -⟩
    cases read
  · obtain ⟨failure, same, -⟩ := told
    rw [same]
    exact iff_of_false nofun fun ⟨value, read, _⟩ => unread value read

end Endpoint

namespace Connection

open Endpoint

section Clients

variable [Client]

/-- The request goes out: the connection is open or can be set up with the headers, and the client
makes a request of the address. -/
def Sends (connection : Connection) (url : String) (given : List (String × String)) : Prop :=
  (connection.isOpen = true ∨ Client.accepts (headers given) = true) ∧
    (Client.request? url (headers given)).isSome = true

variable {connection : Connection} {url : String} {given : List (String × String)}

theorem fetch_of_sends (sends : connection.Sends url given) :
    (connection.fetch url given).1 = receive url connection.next.1 := by
  obtain ⟨ready, sendable⟩ := sends
  obtain ⟨request, made⟩ := Option.isSome_iff_exists.mp sendable
  have goes : (!connection.isOpen && !Client.accepts (headers given)) = false := by
    rcases ready with h | h <;> simp [h]
  simp [fetch, goes, made]

theorem fetch_of_not_sends (stays : ¬connection.Sends url given) :
    ∃ failure, (connection.fetch url given).1 = .error failure ∧ ¬failure.Explained := by
  rw [fetch]
  split
  · exact ⟨_, rfl, Bool.false_ne_true⟩
  · rename_i goes
    cases made : Client.request? url (headers given) with
    | none => exact ⟨_, rfl, Bool.false_ne_true⟩
    | some request =>
      have ready : connection.isOpen = true ∨ Client.accepts (headers given) = true := by
        simpa [or_iff_not_imp_left] using goes
      exact absurd ⟨ready, by rw [made]; rfl⟩ stays

/-- Fetching ends with an introspection result or with an explained failure exactly where the
request goes out and the reply is answered for. What is returned is the data of a reply without
errors that mentions `__schema`. -/
theorem fetch_meant_iff (connection : Connection) (url : String) (given : List (String × String)) :
    (Meant (connection.fetch url given).1 ↔
      connection.Sends url given ∧ Answered connection.next.1) ∧
    ∀ data, (connection.fetch url given).1 = .ok data ↔ connection.Sends url given ∧
      ∃ members, content? connection.next.1 = some (.ok (.object members)) ∧
        (under "errors" members).isPresent = false ∧ Json.member? "data" members = some data ∧
        MentionsSchema data := by
  by_cases sends : connection.Sends url given
  · rw [fetch_of_sends sends, meant_receive]
    refine ⟨(and_iff_right sends).symm, fun data => ?_⟩
    rw [receive_ok, and_iff_right sends]
    constructor
    · rintro ⟨value, read, returned⟩
      obtain ⟨members, rfl, rest⟩ := result_ok.mp returned
      exact ⟨members, read, rest⟩
    · rintro ⟨members, read, rest⟩
      exact ⟨_, read, result_ok.mpr ⟨members, rfl, rest⟩⟩
  · obtain ⟨failure, same, silent⟩ := fetch_of_not_sends sends
    rw [same, meant_error]
    exact ⟨iff_of_false silent fun h => sends h.1, fun data =>
      iff_of_false nofun fun h => sends h.1⟩

end Clients

/-! ### A text in place of an object -/

def rumour : Connection :=
  ⟨[.answer 200 "\x7b\"data\": \"no __schema here\"\x7d"], false⟩

def roster : Connection :=
  ⟨[.answer 200 "[]"], false⟩

/-- A client that sends every request as it is given. -/
local instance direct : Client where
  accepts _ := true
  request? url headers := some { url, headers }

/-- The text is returned as it stands, and nothing is said of the list. -/
theorem not_meant_fetch : ¬Meant (rumour.fetch "https://api.example.com/graphql" []).1 ∧
    ¬Meant (roster.fetch "https://api.example.com/graphql" []).1 := by
  have returned : (rumour.fetch "https://api.example.com/graphql" []).1
      = .ok (.string "no __schema here") := by
    decide +kernel
  have failed : (roster.fetch "https://api.example.com/graphql" []).1 = .error .notAnObject := by
    decide +kernel
  rw [returned, failed, meant_ok, meant_error]
  refine ⟨?_, Bool.false_ne_true⟩
  rintro ⟨members, same, -⟩
  cases same

end Connection

end GraphqlRequests
