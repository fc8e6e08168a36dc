/-!
# Shapes of expressions

What can be assigned to or deleted depends on how an expression looks from outside. `Shape` keeps
that much of it.
-/

namespace GraphqlRequests.Source

/-- An expression from outside: a name, an attribute or item of something, an expression between
parentheses, a display, one with a star before it, or any other. -/
inductive Shape where
  | name
  | place
  | group (inner : Shape)
  | display (items : List Shape)
  | bare (items : List Shape)
  | starred (inner : Shape)
  | other

namespace Shape

def isStarred : Shape → Bool
  | starred _ => true
  | _ => false

mutual

/-- Can it be assigned to? A star may stand only where `star` says so, and not twice. -/
def isTarget (star : Bool) : Shape → Bool
  | name | place => true
  | group inner => inner.isTarget false
  | display items => areTargets items
  | starred inner => star && inner.isTarget false
  | bare _ | other => false

def areTargets : List Shape → Bool
  | [] => true
  | item :: items => item.isTarget true && areTargets items

end

def isTargets : Shape → Bool
  | bare items => areTargets items
  | shape => shape.isTarget true

mutual

def isDeletable : Shape → Bool
  | name | place => true
  | group inner => inner.isDeletable
  | display items => areDeletable items
  | bare _ | starred _ | other => false

def areDeletable : List Shape → Bool
  | [] => true
  | item :: items => item.isDeletable && areDeletable items

end

/-- Is it one name or place, perhaps in parentheses? Only such a one takes an annotation or an
assignment with an operator. -/
def isSingle : Shape → Bool
  | name | place => true
  | group inner => inner.isSingle
  | _ => false

end Shape

end GraphqlRequests.Source
