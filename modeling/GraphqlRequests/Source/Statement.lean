import GraphqlRequests.Source.Pattern

/-!
# Statements of the generated language

`Source.isModule` says whether a text is a sequence of statements. Only form is checked, not what
names mean or where a statement makes sense.
-/

namespace GraphqlRequests.Source

def assigning : List String :=
  ["+=", "-=", "*=", "/=", "//=", "%=", "@=", "&=", "|=", "^=", ">>=", "<<=", "**="]

def dottedName : List Token → Rest
  | .name s :: .symbol "." :: rest => if s ∈ Naming.keywords then none else dottedName rest
  | ts => name ts

def nameList : Nat → List Token → Rest
  | 0, _ => none
  | n + 1, ts => do
    let ts ← name ts
    match ts with
    | .symbol "," :: ts => nameList n ts
    | ts => some ts

def importList (path : List Token → Rest) (close : Bool) : Nat → List Token → Rest
  | 0, _ => none
  | n + 1, ts => do
    let ts ← path ts
    let ts ← match ts with
      | .name "as" :: ts => name ts
      | ts => some ts
    match ts with
    | .symbol "," :: .symbol ")" :: ts => if close then some (.symbol ")" :: ts) else none
    | .symbol "," :: ts => importList path close n ts
    | ts => some ts

def assigned (n : Nat) : List Token → Rest
  | .name "yield" :: ts => yielded n ts
  | ts => do
    let (_, ts) ← expressions n ts
    some ts

def assignments : Nat → List Token → Rest
  | 0, _ => none
  | n + 1, .name "yield" :: ts => yielded n ts
  | n + 1, ts => do
    let (shape, ts) ← expressions n ts
    match ts with
    | .symbol "=" :: ts => if shape.isTargets then assignments n ts else none
    | ts => some ts

def annotated (n : Nat) (ts : List Token) : Rest := do
  let (_, ts) ← expression n ts
  match ts with
  | .symbol "=" :: ts => assigned n ts
  | ts => some ts

def expressionStatement (n : Nat) (ts : List Token) : Rest := do
  let (shape, rest) ← expressions n ts
  match rest with
  | .symbol s :: rest' =>
    if s = "=" then if shape.isTargets then assignments n rest' else none
    else if s = ":" then if shape.isSingle then annotated n rest' else none
    else if s ∈ assigning then if shape.isSingle then assigned n rest' else none
    else some rest
  | rest => some rest

def leadingDots : List Token → List Token
  | .symbol "." :: ts | .symbol "..." :: ts => leadingDots ts
  | ts => ts

def importFrom (n : Nat) (ts : List Token) : Rest := do
  let path := leadingDots ts
  let ts ← match path with
    | .name "import" :: _ => if path.length < ts.length then some path else none
    | path => dottedName path
  let ts ← keyword "import" ts
  match ts with
  | .symbol "*" :: ts => some ts
  | .symbol "(" :: ts => do
    let ts ← importList name true n ts
    symbol ")" ts
  | ts => importList name false n ts

def deletions : Nat → List Token → Rest
  | 0, _ => none
  | n + 1, ts => do
    let (shape, ts) ← primary n ts
    if !shape.isDeletable then none
    match ts with
    | .symbol "," :: ts => if startsExpression ts then deletions n ts else some ts
    | ts => some ts

def optionalExpressions (n : Nat) (ts : List Token) : Rest :=
  if startsItem ts then do
    let (_, ts) ← expressions n ts
    some ts
  else some ts

def expressionWith (n : Nat) (second : Token) (ts : List Token) : Rest := do
  let (_, ts) ← expression n ts
  match ts with
  | t :: rest =>
    if t = second then do
      let (_, rest) ← expression n rest
      some rest
    else some ts
  | [] => some []

def simpleStatement (n : Nat) : List Token → Rest
  | .name "pass" :: ts | .name "break" :: ts | .name "continue" :: ts => some ts
  | .name "return" :: ts => optionalExpressions n ts
  | .name "raise" :: ts =>
    if startsExpression ts then expressionWith n (.name "from") ts else some ts
  | .name "global" :: ts | .name "nonlocal" :: ts => nameList n ts
  | .name "del" :: ts => deletions n ts
  | .name "assert" :: ts => expressionWith n (.symbol ",") ts
  | .name "import" :: ts => importList dottedName false n ts
  | .name "from" :: ts => importFrom n ts
  | .name "yield" :: ts => yielded n ts
  | ts => expressionStatement n ts

def simpleLine : Nat → List Token → Rest
  | 0, _ => none
  | n + 1, ts => do
    let ts ← simpleStatement n ts
    match ts with
    | .newline :: ts => some ts
    | .symbol ";" :: .newline :: ts => some ts
    | .symbol ";" :: ts => simpleLine n ts
    | _ => none

def resource (n : Nat) (ts : List Token) : Rest := do
  let (_, ts) ← expression n ts
  match ts with
  | .name "as" :: ts => target n ts
  | ts => some ts

def resources : Nat → List Token → Rest
  | 0, _ => none
  | n + 1, ts => do
    let ts ← resource n ts
    match ts with
    | .symbol "," :: ts => resources n ts
    | ts => some ts

/-- Resources between parentheses, of which a comma may follow the last, and the colon. -/
def bracketedResources : Nat → List Token → Rest
  | 0, _ => none
  | n + 1, ts => do
    let ts ← resource n ts
    match ts with
    | .symbol "," :: .symbol ")" :: .symbol ":" :: ts => some (.symbol ":" :: ts)
    | .symbol "," :: ts => bracketedResources n ts
    | .symbol ")" :: .symbol ":" :: ts => some (.symbol ":" :: ts)
    | _ => none

def withHead (n : Nat) (ts : List Token) : Rest :=
  match ts with
  | .symbol "(" :: inner =>
    match bracketedResources n inner with
    | some ts => some ts
    | none => resources n ts
  | ts => resources n ts

def caught (n : Nat) (ts : List Token) : Rest := do
  let (_, ts) ← expression n ts
  match ts with
  | .name "as" :: ts => name ts
  | ts => some ts

def subject (n : Nat) (ts : List Token) : Rest := do
  let (shape, ts) ← item n ts
  match ts with
  | .symbol "," :: ts => do
    let (_, ts) ← items n ts
    some ts
  | ts => if shape.isStarred then none else some ts

mutual

def statement : Nat → List Token → Rest
  | 0, _ => none
  | n + 1, .symbol "@" :: ts => do
    let (_, ts) ← named n ts
    match ts with
    | .newline :: ts =>
      match ts with
      | .symbol "@" :: _ | .name "def" :: _ | .name "class" :: _
      | .name "async" :: .name "def" :: _ =>
        statement n ts
      | _ => none
    | _ => none
  | n + 1, .name "async" :: ts =>
    match ts with
    | .name "def" :: _ | .name "with" :: _ | .name "for" :: _ => statement n ts
    | _ => none
  | n + 1, .name "def" :: ts => do
    let ts ← name ts
    let ts ← symbol "(" ts
    let ts ← parameters n true ")" {} ts
    match ts with
    | .symbol "->" :: ts => do
      let (_, ts) ← expression n ts
      block n ts
    | ts => block n ts
  | n + 1, .name "class" :: ts => do
    let ts ← name ts
    match ts with
    | .symbol "(" :: ts => do
      let ts ← moreArguments n .any ts
      block n ts
    | ts => block n ts
  | n + 1, .name "if" :: ts => do
    let (_, ts) ← named n ts
    let ts ← block n ts
    alternatives n ts
  | n + 1, .name "while" :: ts => do
    let (_, ts) ← named n ts
    let ts ← block n ts
    otherwise n ts
  | n + 1, .name "for" :: ts => do
    let ts ← targets n ts
    let ts ← keyword "in" ts
    let (_, ts) ← expressions n ts
    let ts ← block n ts
    otherwise n ts
  | n + 1, .name "with" :: ts => do
    let ts ← withHead n ts
    block n ts
  | n + 1, .name "try" :: ts => do
    let ts ← block n ts
    match ts with
    | .name "finally" :: ts => block n ts
    | .name "except" :: .symbol "*" :: ts => do
      let ts ← groupHandlers n ts
      afterHandlers n ts
    | .name "except" :: ts => do
      let ts ← handlers n ts
      afterHandlers n ts
    | _ => none
  | n + 1, .name "match" :: ts =>
    match cases n ts with
    | some ts => some ts
    | none => simpleLine n (.name "match" :: ts)
  | n + 1, ts => simpleLine n ts

def block : Nat → List Token → Rest
  | 0, _ => none
  | n + 1, .symbol ":" :: .newline :: .indent :: ts => do
    let ts ← statement n ts
    blockRest n ts
  | n + 1, .symbol ":" :: ts => simpleLine n ts
  | _, _ => none

def blockRest : Nat → List Token → Rest
  | 0, _ => none
  | _ + 1, .dedent :: ts => some ts
  | n + 1, ts => do
    let ts ← statement n ts
    blockRest n ts

def alternatives : Nat → List Token → Rest
  | 0, _ => none
  | n + 1, .name "elif" :: ts => do
    let (_, ts) ← named n ts
    let ts ← block n ts
    alternatives n ts
  | n + 1, ts => otherwise n ts

def otherwise : Nat → List Token → Rest
  | 0, _ => none
  | n + 1, .name "else" :: ts => block n ts
  | _, ts => some ts

def handlers : Nat → List Token → Rest
  | 0, _ => none
  | n + 1, ts => do
    let ts ← match ts with
      | .symbol ":" :: _ => some ts
      | ts => caught n ts
    let ts ← block n ts
    match ts with
    | .name "except" :: .symbol "*" :: _ => none
    | .name "except" :: ts => handlers n ts
    | ts => some ts

def groupHandlers : Nat → List Token → Rest
  | 0, _ => none
  | n + 1, ts => do
    let ts ← caught n ts
    let ts ← block n ts
    match ts with
    | .name "except" :: .symbol "*" :: ts => groupHandlers n ts
    | .name "except" :: _ => none
    | ts => some ts

def afterHandlers : Nat → List Token → Rest
  | 0, _ => none
  | n + 1, ts => do
    let ts ← otherwise n ts
    match ts with
    | .name "finally" :: ts => block n ts
    | ts => some ts

def cases : Nat → List Token → Rest
  | 0, _ => none
  | n + 1, ts => do
    let ts ← subject n ts
    match ts with
    | .symbol ":" :: .newline :: .indent :: .name "case" :: ts => caseRest n ts
    | _ => none

def caseRest : Nat → List Token → Rest
  | 0, _ => none
  | n + 1, ts => do
    let ts ← casePatterns n ts
    let ts ← match ts with
      | .name "if" :: ts => do
        let (_, ts) ← named n ts
        some ts
      | ts => some ts
    let ts ← block n ts
    match ts with
    | .name "case" :: ts => caseRest n ts
    | .dedent :: ts => some ts
    | _ => none

end

def statements : Nat → List Token → Bool
  | _, [] => true
  | 0, _ => false
  | n + 1, ts =>
    match statement n ts with
    | some ts => statements n ts
    | none => false

/-- A bound on the depth of rules within rules. -/
def depthFor (ts : List Token) : Nat :=
  32 * (ts.length + 1)

def isModule (text : String) : Bool :=
  match tokens? text with
  | some ts => statements (depthFor ts) ts
  | none => false

end GraphqlRequests.Source
