import OpenBroker.Broker.Basic
import OpenBroker.Http.Basic

/-!
# Routes

A path is matched segment by segment.  An identifier is one segment with at least one
character, whatever the characters are; it may be `.`, `..` or the name of a
collection.  A slash at the end makes another path.

A path with doubled slashes is not matched as it is.  If it would be without them, for
the same method, the client is sent to the address without them.  Otherwise a path
that is known, as it is or without doubled slashes, does not take the method, and any
other path is not known.
-/
namespace OpenBroker
namespace Http

/-- **Endpoint.**  What a path addresses. -/
inductive Endpoint
  | catalog
  | instance (instanceId : Text)
  | binding (instanceId bindingId : Text)
  | health
  | ready
  /-- A file that comes with the application; there are none. -/
  | asset
  deriving DecidableEq, Repr

namespace Endpoint

/-- The path of an asset begins with no slash, and has no line feed behind its first
character. -/
def isAssetPath : Text → Bool
  | [] => false
  | c :: rest => c != '/' && !rest.contains '\n'

/-- The endpoint of the segments of a path below `v2`. -/
def ofServiceSegments? : List Text → Option Endpoint
  | [a] => if a = "catalog" then some catalog else none
  | [a, i] => if a = "service_instances" ∧ i ≠ [] then some (.instance i) else none
  | [a, i, c, b] =>
    if a = "service_instances" ∧ i ≠ [] ∧ c = "service_bindings" ∧ b ≠ [] then
      some (binding i b)
    else none
  | _ => none

/-- The endpoint of the segments of a path. -/
def ofSegments? : List Text → Option Endpoint
  | [] => none
  | a :: rest =>
    if a = "v2" then ofServiceSegments? rest
    else if a = "static" then if isAssetPath (Text.join "/" rest) then some asset else none
    else if rest ≠ [] then none
    else if a = "health" then some health
    else if a = "ready" then some ready
    else none

/-- **The endpoint of a path** that begins with a slash. -/
def ofPath? (path : Text) : Option Endpoint := ofSegments? ((Text.split '/' path).drop 1)

/-- **The methods** of an endpoint. -/
def methods : Endpoint → List Text
  | .instance _ | binding _ _ => ["DELETE", "OPTIONS", "PUT"]
  | _ => ["GET", "HEAD", "OPTIONS"]

end Endpoint

/-- A path with one slash at its beginning. -/
def rooted (path : Text) : Text := '/' :: path.dropWhile (· == ('/' : CodePoint))

/-- A path with every run of slashes made into one. -/
def mergeSlashes : Text → Text
  | [] => []
  | [c] => [c]
  | c :: d :: rest =>
    if c = '/' ∧ d = '/' then mergeSlashes (d :: rest) else c :: mergeSlashes (d :: rest)

/-- **Route.**  Where a request goes. -/
inductive Route
  | endpoint (e : Endpoint)
  /-- To the same endpoint under another path. -/
  | redirection (path : Text)
  | methodNotAllowed
  | notFound
  deriving DecidableEq, Repr

/-- What the addresses of the server begin with. -/
def origin : Text := "http://localhost"

/-- A part of an address behind its mark, which is left out with an empty part. -/
def marked (mark : CodePoint) (part : Text) : Text :=
  if part.isEmpty then [] else mark :: part

/-- The address of a path. -/
def address (path : Text) : Text := origin ++ Percent.encode Percent.isPathCharacter path

/-- The address of a path with a query, as a page shows it. -/
def shownAddress (path query : Text) : Text := address path ++ marked '?' query

/-- Whether a character breaks a line. -/
def isLineBreak (c : CodePoint) : Bool := c == '\n' || c == '\r'

/-- **The address of a path with a query** of one line.  Tabs are lost, and what stands behind
a number sign in the query is a fragment. -/
def fullAddress (path query : Text) : Text :=
  let (query, fragment?) := Text.cut '#' (query.filter (· != '\t'))
  address path ++ marked '?' (Percent.encode Percent.isQueryCharacter query)
    ++ marked '#' (Percent.encode Percent.isFragmentCharacter (fragment?.getD []))

/-- Whether a path addresses an endpoint that takes a method. -/
def takes (method : Text) : Option Endpoint → Bool
  | some e => e.methods.contains method
  | none => false

/-- **The route of a request.** -/
def Request.route (r : Request) : Route :=
  let path := rooted r.path
  let merged := mergeSlashes path
  match Endpoint.ofPath? path, Endpoint.ofPath? merged with
  | some e, e' =>
    if e.methods.contains r.verb then .endpoint e
    else if takes r.verb e' then .redirection merged
    else .methodNotAllowed
  | none, some e' =>
    if e'.methods.contains r.verb then .redirection merged
    else .methodNotAllowed
  | none, none => .notFound

end Http
end OpenBroker
