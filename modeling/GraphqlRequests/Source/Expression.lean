import GraphqlRequests.Source.Shape
import GraphqlRequests.Source.Token

/-!
# Expressions of the generated language

A recogniser by recursive descent: each rule takes the tokens it stands for from the front of a
list, and gives the shape of the expression where that matters. The first argument bounds the depth
of rules within rules. Only form is checked, not what names mean.
-/

namespace GraphqlRequests.Source

/-- What is left after a rule, if the rule applies. -/
abbrev Rest := Option (List Token)

abbrev Shaped := Option (Shape × List Token)

def symbol (text : String) : List Token → Rest
  | .symbol s :: rest => if s = text then some rest else none
  | _ => none

def keyword (text : String) : List Token → Rest
  | .name s :: rest => if s = text then some rest else none
  | _ => none

def name : List Token → Rest
  | .name s :: rest => if s ∈ Naming.keywords then none else some rest
  | _ => none

def arithmetic : List String :=
  ["+", "-", "*", "**", "/", "//", "%", "@", "<<", ">>", "&", "|", "^"]

def arithmeticOperator : List Token → Rest
  | .symbol s :: rest => if s ∈ arithmetic then some rest else none
  | _ => none

def comparisonOperator : List Token → Rest
  | .symbol s :: rest =>
    if s ∈ ["<", ">", "<=", ">=", "==", "!="] then some rest else none
  | .name "in" :: rest => some rest
  | .name "not" :: .name "in" :: rest => some rest
  | .name "is" :: .name "not" :: rest => some rest
  | .name "is" :: rest => some rest
  | _ => none

def startingKeywords : List String :=
  ["None", "True", "False", "not", "lambda", "await"]

def startsExpression : List Token → Bool
  | .name s :: _ => s ∉ Naming.keywords || s ∈ startingKeywords
  | .number _ :: _ | .text _ :: _ => true
  | .symbol s :: _ => s ∈ ["(", "[", "\x7b", "+", "-", "~", "..."]
  | _ => false

def startsItem : List Token → Bool
  | .symbol "*" :: _ => true
  | ts => startsExpression ts

def startsLoop : List Token → Bool
  | .name "for" :: _ => true
  | .name "async" :: .name "for" :: _ => true
  | _ => false

def startsNaming : List Token → Bool
  | .name _ :: .symbol ":=" :: _ => true
  | _ => false

def startsKeyword : List Token → Bool
  | .name _ :: .symbol "=" :: _ => true
  | _ => false

/-- Which arguments of a call may still follow: all, no positional ones, or only named ones and
mappings. -/
inductive ArgumentPlace where
  | any
  | named
  | mappings

/-- What the parameters so far were: one that can stand before a slash, a slash, a star, a default
value; and whether a name has to follow. -/
structure ParametersSeen where
  plain : Bool := false
  slash : Bool := false
  star : Bool := false
  default : Bool := false
  needsName : Bool := false

mutual

def expression : Nat → List Token → Shaped
  | 0, _ => none
  | n + 1, .name "lambda" :: ts => do
    let ts ← parameters n false ":" {} ts
    let (_, ts) ← expression n ts
    some (.other, ts)
  | n + 1, ts => do
    let (shape, ts) ← disjunction n ts
    match ts with
    | .name "if" :: ts => do
      let (_, ts) ← disjunction n ts
      let ts ← keyword "else" ts
      let (_, ts) ← expression n ts
      some (.other, ts)
    | ts => some (shape, ts)

def disjunction : Nat → List Token → Shaped
  | 0, _ => none
  | n + 1, ts => do
    let (shape, ts) ← inversion n ts
    match ts with
    | .name "and" :: ts | .name "or" :: ts => do
      let (_, ts) ← disjunction n ts
      some (.other, ts)
    | ts => some (shape, ts)

def inversion : Nat → List Token → Shaped
  | 0, _ => none
  | n + 1, .name "not" :: ts => do
    let (_, ts) ← inversion n ts
    some (.other, ts)
  | n + 1, ts => comparison n ts

def comparison : Nat → List Token → Shaped
  | 0, _ => none
  | n + 1, ts => do
    let (shape, ts) ← sum n ts
    match comparisonOperator ts with
    | some ts => do
      let (_, ts) ← comparison n ts
      some (.other, ts)
    | none => some (shape, ts)

def sum : Nat → List Token → Shaped
  | 0, _ => none
  | n + 1, ts => do
    let (shape, ts) ← factor n ts
    match arithmeticOperator ts with
    | some ts => do
      let (_, ts) ← sum n ts
      some (.other, ts)
    | none => some (shape, ts)

def factor : Nat → List Token → Shaped
  | 0, _ => none
  | n + 1, .symbol "+" :: ts | n + 1, .symbol "-" :: ts | n + 1, .symbol "~" :: ts => do
    let (_, ts) ← factor n ts
    some (.other, ts)
  | n + 1, .name "await" :: ts => do
    let (_, ts) ← primary n ts
    some (.other, ts)
  | n + 1, ts => primary n ts

def primary : Nat → List Token → Shaped
  | 0, _ => none
  | n + 1, ts => do
    let (shape, ts) ← atom n ts
    trailers n shape ts

def trailers : Nat → Shape → List Token → Shaped
  | 0, _, _ => none
  | n + 1, _, .symbol "." :: ts => do
    let ts ← name ts
    trailers n .place ts
  | n + 1, _, .symbol "(" :: ts => do
    let ts ← arguments n ts
    trailers n .other ts
  | n + 1, _, .symbol "[" :: ts => do
    let ts ← subscripts n ts
    trailers n .place ts
  | _ + 1, shape, ts => some (shape, ts)

def atom : Nat → List Token → Shaped
  | 0, _ => none
  | _ + 1, .name s :: ts =>
    if s ∉ Naming.keywords then some (.name, ts)
    else if s ∈ ["None", "True", "False"] then some (.other, ts)
    else none
  | _ + 1, .number _ :: ts => some (.other, ts)
  | n + 1, .text isBytes :: ts => do
    let ts ← literals n isBytes ts
    some (.other, ts)
  | _ + 1, .symbol "..." :: ts => some (.other, ts)
  | _ + 1, .symbol "(" :: .symbol ")" :: ts => some (.display [], ts)
  | n + 1, .symbol "(" :: .name "yield" :: ts => do
    let ts ← yielded n ts
    let ts ← symbol ")" ts
    some (.other, ts)
  | n + 1, .symbol "(" :: ts => do
    let (shape, ts) ← item n ts
    match ts with
    | .symbol "," :: ts => do
      let (shapes, ts) ← items n ts
      let ts ← symbol ")" ts
      some (.display (shape :: shapes), ts)
    | ts =>
      if shape.isStarred then none
      else if startsLoop ts then do
        let ts ← symbol ")" (← loops n ts)
        some (.other, ts)
      else do
        let ts ← symbol ")" ts
        some (.group shape, ts)
  | _ + 1, .symbol "[" :: .symbol "]" :: ts => some (.display [], ts)
  | n + 1, .symbol "[" :: ts => do
    let (shape, ts) ← item n ts
    match ts with
    | .symbol "," :: ts => do
      let (shapes, ts) ← items n ts
      let ts ← symbol "]" ts
      some (.display (shape :: shapes), ts)
    | ts =>
      if startsLoop ts then
        if shape.isStarred then none
        else do
          let ts ← symbol "]" (← loops n ts)
          some (.other, ts)
      else do
        let ts ← symbol "]" ts
        some (.display [shape], ts)
  | _ + 1, .symbol "\x7b" :: .symbol "\x7d" :: ts => some (.other, ts)
  | n + 1, .symbol "\x7b" :: ts => do
    let ts ← braces n ts
    some (.other, ts)
  | _, _ => none

def literals : Nat → Bool → List Token → Rest
  | 0, _, _ => none
  | n + 1, isBytes, .text b :: ts => if b = isBytes then literals n isBytes ts else none
  | n + 1, isBytes, .embedded :: ts => do
    let (_, ts) ← atom n ts
    literals n isBytes ts
  | _ + 1, _, ts => some ts

def named : Nat → List Token → Shaped
  | 0, _ => none
  | n + 1, .name s :: .symbol ":=" :: ts =>
    if s ∈ Naming.keywords then none
    else do
      let (_, ts) ← expression n ts
      some (.other, ts)
  | n + 1, ts => expression n ts

def item : Nat → List Token → Shaped
  | 0, _ => none
  | n + 1, .symbol "*" :: ts => do
    let (shape, ts) ← sum n ts
    some (.starred shape, ts)
  | n + 1, ts => named n ts

def items : Nat → List Token → Option (List Shape × List Token)
  | 0, _ => none
  | n + 1, ts =>
    if startsItem ts then do
      let (shape, ts) ← item n ts
      match ts with
      | .symbol "," :: ts => do
        let (shapes, ts) ← items n ts
        some (shape :: shapes, ts)
      | ts => some ([shape], ts)
    else some ([], ts)

def braces : Nat → List Token → Rest
  | 0, _ => none
  | n + 1, .symbol "**" :: ts => do
    let (_, ts) ← sum n ts
    morePairs n ts
  | n + 1, ts => do
    let (shape, rest) ← item n ts
    match rest with
    | .symbol ":" :: rest =>
      if shape.isStarred || startsNaming ts then none
      else do
        let (_, rest) ← expression n rest
        if startsLoop rest then do symbol "\x7d" (← loops n rest) else morePairs n rest
    | .symbol "," :: rest => do
      let (_, rest) ← items n rest
      symbol "\x7d" rest
    | rest =>
      if startsLoop rest then
        if shape.isStarred then none else do symbol "\x7d" (← loops n rest)
      else symbol "\x7d" rest

def morePairs : Nat → List Token → Rest
  | 0, _ => none
  | n + 1, .symbol "," :: ts =>
    match ts with
    | .symbol "\x7d" :: ts => some ts
    | .symbol "**" :: ts => do
      let (_, ts) ← sum n ts
      morePairs n ts
    | ts => do
      let (_, ts) ← expression n ts
      let ts ← symbol ":" ts
      let (_, ts) ← expression n ts
      morePairs n ts
  | _ + 1, ts => symbol "\x7d" ts

def loops : Nat → List Token → Rest
  | 0, _ => none
  | n + 1, .name "async" :: ts => loops n ts
  | n + 1, .name "for" :: ts => do
    let ts ← targets n ts
    let ts ← keyword "in" ts
    let (_, ts) ← disjunction n ts
    let ts ← conditions n ts
    if startsLoop ts then loops n ts else some ts
  | _, _ => none

def conditions : Nat → List Token → Rest
  | 0, _ => none
  | n + 1, .name "if" :: ts => do
    let (_, ts) ← disjunction n ts
    conditions n ts
  | _ + 1, ts => some ts

def targets : Nat → List Token → Rest
  | 0, _ => none
  | n + 1, ts => do
    let ts ← target n ts
    match ts with
    | .symbol "," :: ts => if startsItem ts then targets n ts else some ts
    | ts => some ts

def target : Nat → List Token → Rest
  | 0, _ => none
  | n + 1, .symbol "*" :: ts => do
    let (shape, ts) ← primary n ts
    if shape.isTarget false then some ts else none
  | n + 1, ts => do
    let (shape, ts) ← primary n ts
    if shape.isTarget false then some ts else none

/-- The arguments of a call, up to the closing parenthesis. A comprehension is the only one. -/
def arguments : Nat → List Token → Rest
  | 0, _ => none
  | n + 1, ts =>
    if startsExpression ts && !startsKeyword ts then do
      let (_, ts) ← named n ts
      if startsLoop ts then do symbol ")" (← loops n ts) else nextArgument n .any ts
    else moreArguments n .any ts

def moreArguments : Nat → ArgumentPlace → List Token → Rest
  | 0, _, _ => none
  | n + 1, place, ts =>
    match ts with
    | .symbol ")" :: ts => some ts
    | .symbol "**" :: ts => do
      let (_, ts) ← expression n ts
      nextArgument n .mappings ts
    | .symbol "*" :: ts =>
      match place with
      | .mappings => none
      | place => do
        let (_, ts) ← expression n ts
        nextArgument n place ts
    | .name s :: .symbol "=" :: ts =>
      if s ∈ Naming.keywords then none
      else do
        let (_, ts) ← expression n ts
        nextArgument n (match place with | .mappings => .mappings | _ => .named) ts
    | ts =>
      match place with
      | .any => do
        let (_, ts) ← named n ts
        nextArgument n .any ts
      | _ => none

def nextArgument : Nat → ArgumentPlace → List Token → Rest
  | 0, _, _ => none
  | n + 1, place, .symbol "," :: ts => moreArguments n place ts
  | _ + 1, _, ts => symbol ")" ts

def subscripts : Nat → List Token → Rest
  | 0, _ => none
  | n + 1, ts => do
    let ts ← subscript n ts
    match ts with
    | .symbol "," :: .symbol "]" :: ts => some ts
    | .symbol "," :: ts => subscripts n ts
    | ts => symbol "]" ts

def subscript : Nat → List Token → Rest
  | 0, _ => none
  | n + 1, .symbol "*" :: ts => do
    let (_, ts) ← expression n ts
    some ts
  | n + 1, .name s :: .symbol ":=" :: ts => do
    let (_, ts) ← named n (.name s :: .symbol ":=" :: ts)
    some ts
  | n + 1, ts => do
    let ts ← match ts with
      | .symbol ":" :: _ => some ts
      | ts => do
        let (_, ts) ← expression n ts
        some ts
    match ts with
    | .symbol ":" :: ts => do
      let ts ← bound n ts
      match ts with
      | .symbol ":" :: ts => bound n ts
      | ts => some ts
    | ts => some ts

def bound : Nat → List Token → Rest
  | 0, _ => none
  | n + 1, ts =>
    if startsExpression ts then do
      let (_, ts) ← expression n ts
      some ts
    else some ts

def yielded : Nat → List Token → Rest
  | 0, _ => none
  | n + 1, .name "from" :: ts => do
    let (_, ts) ← expression n ts
    some ts
  | n + 1, ts =>
    if startsItem ts then do
      let (_, ts) ← expressions n ts
      some ts
    else some ts

def expressions : Nat → List Token → Shaped
  | 0, _ => none
  | n + 1, ts => do
    let (shape, ts) ← starExpression n ts
    match ts with
    | .symbol "," :: ts => do
      let (shapes, ts) ← moreExpressions n ts
      some (.bare (shape :: shapes), ts)
    | ts => some (shape, ts)

def moreExpressions : Nat → List Token → Option (List Shape × List Token)
  | 0, _ => none
  | n + 1, ts =>
    if startsItem ts then do
      let (shape, ts) ← starExpression n ts
      match ts with
      | .symbol "," :: ts => do
        let (shapes, ts) ← moreExpressions n ts
        some (shape :: shapes, ts)
      | ts => some ([shape], ts)
    else some ([], ts)

def starExpression : Nat → List Token → Shaped
  | 0, _ => none
  | n + 1, .symbol "*" :: ts => do
    let (shape, ts) ← sum n ts
    some (.starred shape, ts)
  | n + 1, ts => expression n ts

def parameters : Nat → Bool → String → ParametersSeen → List Token → Rest
  | 0, _, _, _, _ => none
  | n + 1, annotated, close, seen, ts =>
    match ts with
    | .symbol "/" :: ts =>
      if !seen.plain || seen.slash || seen.star then none
      else nextParameter n annotated close { seen with slash := true } ts
    | .symbol "*" :: .symbol "," :: ts =>
      if seen.star then none
      else parameters n annotated close { seen with star := true, needsName := true } ts
    | .symbol "*" :: ts =>
      if seen.star then none
      else do
        let ts ← name ts
        let ts ← annotation n annotated true ts
        nextParameter n annotated close { seen with star := true } ts
    | .symbol "**" :: ts =>
      if seen.needsName then none
      else do
        let ts ← name ts
        let ts ← annotation n annotated false ts
        match ts with
        | .symbol "," :: ts => symbol close ts
        | ts => symbol close ts
    | .name s :: ts => do
      let ts ← name (.name s :: ts)
      let ts ← annotation n annotated false ts
      match ts with
      | .symbol "=" :: ts => do
        let (_, ts) ← expression n ts
        let seen := { seen with plain := true, default := true, needsName := false }
        nextParameter n annotated close seen ts
      | ts =>
        if seen.default && !seen.star then none
        else nextParameter n annotated close { seen with plain := true, needsName := false } ts
    | ts => if seen.needsName then none else symbol close ts

def nextParameter : Nat → Bool → String → ParametersSeen → List Token → Rest
  | 0, _, _, _, _ => none
  | n + 1, annotated, close, seen, .symbol "," :: ts => parameters n annotated close seen ts
  | _ + 1, _, close, _, ts => symbol close ts

def annotation : Nat → Bool → Bool → List Token → Rest
  | 0, _, _, _ => none
  | n + 1, true, star, .symbol ":" :: ts => do
    let (_, ts) ← if star then starExpression n ts else expression n ts
    some ts
  | _ + 1, _, _, ts => some ts

end

end GraphqlRequests.Source
