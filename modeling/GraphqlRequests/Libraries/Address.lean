import GraphqlRequests.Endpoint
import GraphqlRequests.Libraries.Host
import GraphqlRequests.Text.Class

/-!
# Addresses

The requests that the command line sends. The parts of an address are sent with the scheme and the
host in small letters, without the port that goes with the scheme, the path without steps, and
everything in ASCII.
-/

namespace GraphqlRequests.Endpoint

/-- An address that is fit to send. -/
structure Address where
  scheme : List Char := []
  user : List Char := []
  host : List Char := []
  port : Option Int := none
  path : List Char
  query : Option (List Char) := none
  fragment : Option (List Char) := none
  deriving DecidableEq, Repr

namespace Address

/-! ### Taking a text apart -/

def splitScheme (text : List Char) : List Char × List Char :=
  let name := text.takeWhile fun c => c.isAlphanum || c ∈ ['+', '.', '-']
  match text.drop name.length with
  | ':' :: rest => if name.head?.all Char.isAlpha then (name, rest) else ([], text)
  | _ => ([], text)

def splitAuthority : List Char → List Char × List Char
  | '/' :: '/' :: rest => rest.span fun c => !(c ∈ ['/', '?', '#'])
  | text => ([], text)

def splitMarked (mark : Char) (ends : Char → Bool) : List Char → Option (List Char) × List Char
  | c :: rest =>
    if c = mark then
      let (part, rest) := rest.span (!ends ·)
      (some part, rest)
    else (none, c :: rest)
  | [] => (none, [])

def splitLast (c : Char) (text : List Char) : Option (List Char) × List Char :=
  let after := (text.reverse.takeWhile (· ≠ c)).reverse
  if after.length = text.length then (none, text)
  else (some (text.take (text.length - after.length - 1)), after)

def splitPort (text : List Char) : List Char × List Char :=
  let (host, rest) :=
    match text, splitLast ']' text with
    | '[' :: _, (some inner, after) => (inner ++ [']'], after)
    | _, _ => text.span (· ≠ ':')
  match rest with
  | ':' :: port => (host, port)
  | port => (host, port)

/-! ### Parts as they are sent -/

def digits? : List Char → Option (List Char)
  | [] => none
  | [c] => if c.isDigit then some [c] else none
  | c :: '_' :: rest => if c.isDigit then (digits? rest).map (c :: ·) else none
  | c :: rest => if c.isDigit then (digits? rest).map (c :: ·) else none

def integer? (text : List Char) : Option Int :=
  let text := (text.dropWhile Text.isSpace).reverse.dropWhile Text.isSpace |>.reverse
  match text with
  | '-' :: rest => (digits? rest).map fun ds => -(decimal ds : Int)
  | '+' :: rest => (digits? rest).map fun ds => (decimal ds : Int)
  | rest => (digits? rest).map fun ds => (decimal ds : Int)

def portOf (scheme : List Char) : Option Int :=
  [("ftp", 21), ("http", 80), ("https", 443), ("ws", 80), ("wss", 443)].lookup
    (String.ofList scheme)

def port? (scheme text : List Char) : Option (Option Int) :=
  if text = [] then some none
  else (integer? text).map fun port => if portOf scheme = some port then none else some port

def steps (taken : List (List Char)) : List (List Char) → List (List Char)
  | [] => taken.reverse
  | step :: rest =>
    if step = ['.'] then steps taken rest
    else if step = ['.', '.'] then steps (if taken = [[]] then taken else taken.drop 1) rest
    else steps (step :: taken) rest

def normalPath (path : List Char) : List Char :=
  (Text.join "/" ((steps [] (Text.splitChars '/' path)).map String.ofList)).toList

/-- A path after a host starts with a slash; one without a scheme and a host must not look like
either. -/
def fitsPlace (hasScheme hasHost : Bool) (path : List Char) : Bool :=
  if hasHost then path = [] || path.head? = some '/'
  else hasScheme || !(path.take 2 = ['/', '/'] || path.head? = some ':')

/-- The longest text that is read as an address. -/
def longest : Nat := 65536

def isControl (c : Char) : Bool :=
  c.toNat < 0x20 || c.toNat = 0x7F

def read? (text : String) : Option Address := do
  let text := text.toList
  if longest < text.length || text.any isControl then none
  let (scheme, rest) := splitScheme text
  let (authority, rest) := splitAuthority rest
  let (path, rest) := rest.span fun c => !(c ∈ ['?', '#'])
  let (query, rest) := splitMarked '?' (· = '#') rest
  let (fragment, _) := splitMarked '#' (fun _ => false) rest
  let (user, place) := splitLast '@' authority
  let (hostText, portText) := splitPort place
  let user := encode fitsUser (user.getD [])
  let host ← host? hostText
  let port ← port? scheme portText
  let hasHost := user ≠ [] || host ≠ [] || port.isSome
  if !fitsPlace (scheme ≠ []) hasHost path then none
  let path := if scheme ≠ [] || hasHost then normalPath path else path
  return { scheme := scheme.map Char.toLower, user, host, port, path := encode fitsPath path
           query := query.map (encode fitsQuery), fragment := fragment.map (encode fitsFragment) }

/-! ### An address as text -/

def marked (mark : String) : Option (List Char) → String
  | none => ""
  | some part => mark ++ String.ofList part

def authority (address : Address) : String :=
  (if address.user = [] then "" else String.ofList address.user ++ "@")
    ++ (if ':' ∈ address.host then "[" ++ String.ofList address.host ++ "]"
      else String.ofList address.host)
    ++ match address.port with
      | none => ""
      | some port => ":" ++ toString port

def text (address : Address) : String :=
  (if address.scheme = [] then "" else String.ofList address.scheme ++ ":")
    ++ (if address.authority = "" then "" else "//" ++ address.authority)
    ++ String.ofList address.path ++ marked "?" address.query ++ marked "#" address.fragment

/-- The address that is asked: one without a scheme or a host leads into the server itself. -/
def sent (address : Address) : Address :=
  if address.scheme ≠ [] && address.host ≠ [] then address
  else { path := '/' :: address.path.dropWhile (· = '/'), query := address.query }

def credentials? (address : Address) : Option String :=
  let (name, rest) := address.user.span (· ≠ ':')
  let bytes := decodedBytes name ++ Text.utf8 [':'] ++ decodedBytes (rest.drop 1)
  if name = [] && (rest.drop 1) = [] then none
  else some ("Basic " ++ String.ofList (Text.base64 bytes))

end Address

/-! ### Requests -/

def headerName (name : String) : String :=
  String.ofList (name.toList.map Char.toLower)

/-- The headers that a server sees: names that differ by case only are one, with all their values.
-/
def received (request : Request) : List (String × String) :=
  let names := (request.headers.map fun h => headerName h.1).eraseDups
  names.map fun name =>
    let values := (request.headers.filter fun h => headerName h.1 = name).map Prod.snd
    (name, if name = "authorization" then request.login.getD (Text.join ", " values)
      else Text.join ", " values)

def fitHeaders (headers : List (String × String)) : Bool :=
  headers.all fun h => (h.1 ++ h.2).toList.all (·.toNat < 128)

def request? (url : String) (headers : List (String × String)) : Option Request := do
  let address ← Address.read? url
  return ⟨address.sent.text, headers, address.sent.credentials?⟩

end GraphqlRequests.Endpoint
