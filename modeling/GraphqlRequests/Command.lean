import GraphqlRequests.Libraries.Address
import GraphqlRequests.Libraries.Arguments
import GraphqlRequests.Libraries.Configuration
import GraphqlRequests.Libraries.Introspection
import GraphqlRequests.Libraries.Sdl.Introspect

/-!
# The libraries of the command line

What the command line runs with for the parts of a run that come from elsewhere: the reading of
arguments, addresses, configurations and schemas, and layouts. Layouts are taken as they are; one
with anything to fill in is refused. No theorem is about these; runs are described for any libraries.
-/

namespace GraphqlRequests.Command

/-- Does something open that a layout fills in: an expression, a statement or a comment? -/
def hasMarkup : List Char → Bool
  | a :: b :: rest =>
    a = '{' && (b = '{' || b = '%' || b = '#') || hasMarkup (b :: rest)
  | _ => false

def plainLayout (files : Files) (directory : String) : Layout := fun _ =>
  match files.read (directory ++ "/" ++ layoutFile) with
  | .error _ => .error "The layout is no text"
  | .ok text => if hasMarkup text.toList then .error "The layout is not plain" else .ok text

instance standardLibraries : Libraries where
  accepts := Endpoint.fitHeaders
  request? := Endpoint.request?
  check := Introspection.check
  introspect := Sdl.introspect
  validate := Config.ofText
  invocation := invocation
  layout := plainLayout

/-- The paths that a run may read from. -/
def mentioned : List String → List String
  | [] => []
  | "--" :: _ :: arguments | _ :: arguments =>
    match scan generateSpecs {} none arguments with
    | .error _ => []
    | .ok found =>
      found.options.map Prod.snd
        ++ (found.values layoutOption).map fun path => path ++ "/" ++ layoutFile

end GraphqlRequests.Command
