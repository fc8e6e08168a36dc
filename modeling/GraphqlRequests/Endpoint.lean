import GraphqlRequests.Json.Reader
import GraphqlRequests.Json.Writer
import GraphqlRequests.Text.Split

/-!
# Endpoints

Asking a server for its introspection result. `Endpoint.receive` says what a reply comes to;
`Connection` keeps whether a connection is open and what the server will reply. What sends requests
is a parameter: it reads the address.
-/

namespace GraphqlRequests

/-- A reply with its status and the bytes of its body, or none: it is lost on the way, or something
on the way has an invalid value, or the request is broken off for another reason. -/
inductive Reply where
  | received (status : Nat) (body : List UInt8)
  | lost
  | invalid
  | brokenOff

/-- A reply with a text in UTF-8. -/
def Reply.answer (status : Nat) (text : String) : Reply :=
  .received status (text.toList.flatMap String.utf8EncodeChar)

/-- A request for the introspection result; its method and body are always the same. What the
address says about the user goes before a header for that. -/
structure Request where
  url : String
  headers : List (String × String)
  login : Option String := none
  deriving DecidableEq, Repr

/-- Why no introspection result was received. Nothing is said about replies of an unexpected shape
or depth, about headers and addresses that nothing can be sent with, and about requests that are
broken off. -/
inductive FetchFailure where
  | unreachable (url : String)
  | notJson (url : String)
  | refused (messages : String)
  | empty (url : String)
  | notAnObject
  | wrongShape
  | tooDeep
  | badHeader
  | badAddress
  | brokenOff
  deriving DecidableEq, Repr

def FetchFailure.message? : FetchFailure → Option String
  | .unreachable url => some ("Failed to fetch schema from " ++ url)
  | .notJson url => some ("Response from " ++ url ++ " is not JSON")
  | .refused messages => some ("Introspection failed: " ++ messages)
  | .empty url => some ("Response from " ++ url ++ " holds no introspection result")
  | .notAnObject | .wrongShape | .tooDeep | .badHeader | .badAddress | .brokenOff => none

namespace Endpoint

/-- What sends requests: can a connection be set up with the headers, and what is sent to an
address, if it can be read? -/
class Client where
  accepts : List (String × String) → Bool
  request? : String → List (String × String) → Option Request

def occursIn (part : List Char) : List Char → Bool
  | [] => part = []
  | c :: rest => part.isPrefixOf (c :: rest) || occursIn part rest

def errorMessage : Json → Except FetchFailure Json
  | .object members =>
    .ok ((Json.member? "message" members).getD (.string (Json.object members).literal))
  | _ => .error .notAnObject

/-- The messages of the errors that a server reports. -/
def errorMessages (errors : Json) : Except FetchFailure String := do
  let messages ← match errors with
    | .array items => items.mapM errorMessage
    | .object _ | .string _ | .broken _ => .error .notAnObject
    | _ => .error .wrongShape
  match messages.mapM Json.text? with
  | some texts => return Text.join "; " texts
  | none => throw .wrongShape

/-- Does the value have something called `__schema`, as a key, an item or a part of its text? -/
def hasSchema : Json → Except FetchFailure Bool
  | .object members => .ok (Json.member? "__schema" members).isSome
  | .array items => .ok (items.contains (.string "__schema"))
  | .string s => .ok (occursIn "__schema".toList s.toList)
  | .broken codePoints => .ok (occursIn "__schema".toList (Json.mended codePoints).toList)
  | _ => .error .wrongShape

/-- The introspection result in a decoded reply. -/
def result (url : String) : Json → Except FetchFailure Json
  | .object members => do
    let errors := (Json.member? "errors" members).getD .null
    if errors.isPresent then
      throw (.refused (← errorMessages errors))
    let data := (Json.member? "data" members).getD .null
    if !data.isPresent then throw (.empty url)
    if ← hasSchema data then return data else throw (.empty url)
  | _ => .error .notAnObject

def receive (url : String) : Reply → Except FetchFailure Json
  | .lost => .error (.unreachable url)
  | .invalid => .error (.notJson url)
  | .brokenOff => .error .brokenOff
  | .received status body =>
    if status < 200 ∨ 300 ≤ status then .error (.unreachable url)
    else match (Text.fromBytes (body.map (·.toNat))).map (Json.readPoints .lenient) with
      | some (.ok value) => result url value
      | some (.error .tooDeep) => .error .tooDeep
      | _ => .error (.notJson url)

def setHeader (headers : List (String × String)) (name value : String) : List (String × String) :=
  match headers with
  | [] => [(name, value)]
  | (n, v) :: rest => if n = name then (n, value) :: rest else (n, v) :: setHeader rest name value

def headers (given : List (String × String)) : List (String × String) :=
  given.foldl (fun headers h => setHeader headers h.1 h.2) [("Content-Type", "application/json")]

def isUrl (source : String) : Bool :=
  "http://".toList.isPrefixOf source.toList || "https://".toList.isPrefixOf source.toList

end Endpoint

/-- A server that gives its replies in order and then repeats the last one, and whether a connection
to it is open. -/
structure Connection where
  replies : List Reply
  isOpen : Bool := false

namespace Connection

def next (connection : Connection) : Reply × List Reply :=
  match connection.replies with
  | [] => (.lost, [])
  | [reply] => (reply, [reply])
  | reply :: rest => (reply, rest)

/-- Ask for the introspection result: what comes of it, and the request, if one was sent. The
connection is open from then on, whatever comes back, unless it could not be set up with the
headers. -/
def fetch [Endpoint.Client] (connection : Connection) (url : String)
    (given : List (String × String)) :
    Except FetchFailure Json × Option Request × Connection :=
  let headers := Endpoint.headers given
  if !connection.isOpen && !Endpoint.Client.accepts headers then
    (.error .badHeader, none, connection)
  else match Endpoint.Client.request? url headers with
    | none => (.error .badAddress, none, { connection with isOpen := true })
    | some request =>
      let (reply, replies) := connection.next
      (Endpoint.receive url reply, some request, ⟨replies, true⟩)

def close (connection : Connection) : Connection :=
  { connection with isOpen := false }

end Connection

end GraphqlRequests
