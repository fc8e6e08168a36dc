import GraphqlRequests.Source.Expression

/-!
# Patterns of the generated language

What may stand after `case`. The rules take the tokens they stand for from the front of a list, as
those for expressions do.
-/

namespace GraphqlRequests.Source

/-- A name that a pattern may bind: neither a keyword nor an underscore, and no part of a longer
form. -/
def captured : List Token → Rest
  | .name "_" :: _ => none
  | .name s :: rest =>
    if s ∈ Naming.keywords then none
    else match rest with
      | .symbol "." :: _ | .symbol "(" :: _ | .symbol "=" :: _ => none
      | rest => some rest
  | _ => none

def attributes : Nat → List Token → Rest
  | 0, _ => none
  | n + 1, .symbol "." :: ts => do
    let ts ← name ts
    attributes n ts
  | _ + 1, ts => some ts

def signedNumber (ts : List Token) : Rest :=
  let number : List Token → Option (Bool × List Token)
    | .number imaginary :: ts => some (imaginary, ts)
    | .symbol "-" :: .number imaginary :: ts => some (imaginary, ts)
    | _ => none
  match number ts with
  | some (imaginary, .symbol "+" :: ts) | some (imaginary, .symbol "-" :: ts) =>
    match imaginary, ts with
    | false, .number true :: ts => some ts
    | _, _ => none
  | some (_, ts) => some ts
  | none => none

def literalPattern (n : Nat) : List Token → Rest
  | .name "None" :: ts | .name "True" :: ts | .name "False" :: ts => some ts
  | .text isBytes :: ts => literals n isBytes ts
  | ts => signedNumber ts

def keyPattern (n : Nat) (ts : List Token) : Rest :=
  match literalPattern n ts with
  | some ts => some ts
  | none => do
    let ts ← name ts
    let ts ← symbol "." ts
    attributes n (.symbol "." :: ts)

/-- What the arguments of a class pattern so far were. -/
inductive PatternPlace where
  | first
  | positional
  | named

mutual

def pattern : Nat → List Token → Rest
  | 0, _ => none
  | n + 1, ts => do
    let ts ← alternativePatterns n ts
    match ts with
    | .name "as" :: ts => captured ts
    | ts => some ts

def alternativePatterns : Nat → List Token → Rest
  | 0, _ => none
  | n + 1, ts => do
    let ts ← closedPattern n ts
    match ts with
    | .symbol "|" :: ts => alternativePatterns n ts
    | ts => some ts

def closedPattern : Nat → List Token → Rest
  | 0, _ => none
  | _ + 1, .name "_" :: ts => some ts
  | n + 1, .symbol "(" :: ts =>
    match ts with
    | .symbol ")" :: ts => some ts
    | .symbol "*" :: _ => do
      let ts ← itemPattern n ts
      let ts ← symbol "," ts
      itemPatterns n ")" ts
    | ts => do
      let ts ← pattern n ts
      match ts with
      | .symbol "," :: ts => itemPatterns n ")" ts
      | ts => symbol ")" ts
  | n + 1, .symbol "[" :: ts => itemPatterns n "]" ts
  | n + 1, .symbol "\x7b" :: ts => mappingPattern n ts
  | n + 1, ts =>
    match name ts with
    | some rest => do
      let rest ← attributes n rest
      match rest with
      | .symbol "(" :: rest => classPattern n .first rest
      | .symbol "=" :: _ => none
      | rest => some rest
    | none => literalPattern n ts

def itemPattern : Nat → List Token → Rest
  | 0, _ => none
  | _ + 1, .symbol "*" :: .name "_" :: ts => some ts
  | _ + 1, .symbol "*" :: ts => captured ts
  | n + 1, ts => pattern n ts

def itemPatterns : Nat → String → List Token → Rest
  | 0, _, _ => none
  | n + 1, close, ts =>
    match symbol close ts with
    | some ts => some ts
    | none => do
      let ts ← itemPattern n ts
      match ts with
      | .symbol "," :: ts => itemPatterns n close ts
      | ts => symbol close ts

/-- Keys with patterns up to the closing brace; a name for the other keys comes last. -/
def mappingPattern : Nat → List Token → Rest
  | 0, _ => none
  | _ + 1, .symbol "\x7d" :: ts => some ts
  | _ + 1, .symbol "**" :: ts => do
    let ts ← captured ts
    match ts with
    | .symbol "," :: ts => symbol "\x7d" ts
    | ts => symbol "\x7d" ts
  | n + 1, ts => do
    let ts ← keyPattern n ts
    let ts ← symbol ":" ts
    let ts ← pattern n ts
    match ts with
    | .symbol "," :: ts => mappingPattern n ts
    | ts => symbol "\x7d" ts

def classPattern : Nat → PatternPlace → List Token → Rest
  | 0, _, _ => none
  | n + 1, place, ts =>
    match place, ts with
    | _, .symbol ")" :: ts => some ts
    | .positional, .name "_" :: .symbol "=" :: _ => none
    | _, .name s :: .symbol "=" :: ts => do
      let _ ← name [.name s]
      let ts ← pattern n ts
      nextClassPattern n .named ts
    | .named, _ => none
    | _, ts => do
      let ts ← pattern n ts
      nextClassPattern n .positional ts

def nextClassPattern : Nat → PatternPlace → List Token → Rest
  | 0, _, _ => none
  | n + 1, place, .symbol "," :: ts => classPattern n place ts
  | _ + 1, _, ts => symbol ")" ts

end

def casePatterns : Nat → List Token → Rest
  | 0, _ => none
  | n + 1, ts => do
    let rest ← itemPattern n ts
    match ts, rest with
    | _, .symbol "," :: rest =>
      match rest with
      | .symbol ":" :: _ | .name "if" :: _ => some rest
      | rest => others n rest
    | .symbol "*" :: _, _ => none
    | _, rest => some rest
where
  others : Nat → List Token → Rest
    | 0, _ => none
    | n + 1, ts => do
      let ts ← itemPattern n ts
      match ts with
      | .symbol "," :: ts =>
        match ts with
        | .symbol ":" :: _ | .name "if" :: _ => some ts
        | ts => others n ts
      | ts => some ts

end GraphqlRequests.Source
