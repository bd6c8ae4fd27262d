import OpenBroker.Http.Percent
import OpenBroker.Json.Basic
import OpenBroker.Text.Case

/-!
# Requests and replies

A request is a method, a path and a query.  Nothing else of it is ever looked at,
neither its headers nor its body.  The path is the decoded one.  The method counts in
upper case, but a reply is cut down to its head only for a method that was sent in upper
case.

A reply is a status with a body of a certain type.  Every reply that the application
makes itself has a JSON body; a redirection and an answer about methods have the
type of a page.  Some statuses have no body at all.
-/
namespace OpenBroker
namespace Http

/-- **Request.**  The method is as it was sent. -/
structure Request where
  method : Text
  path : Text
  query : Text
  deriving DecidableEq, Repr

/-- The request for a target as it stands in the first line of a message: the path
ends at the first question mark, and is decoded. -/
def Request.ofTarget (method target : Text) : Request :=
  let (path, query?) := Text.cut '?' target
  ⟨method, Percent.decode path, query?.getD []⟩

/-- The method that counts. -/
def Request.verb (r : Request) : Text := Text.upper r.method

/-- Whether only the head of the reply is asked for. -/
def Request.isForHead (r : Request) : Bool := r.method == "HEAD"

/-- **Reply.** -/
structure Reply where
  status : Nat
  contentType? : Option Text
  body : Text
  location? : Option Text
  allow? : Option (List Text)
  deriving DecidableEq, Repr

namespace Reply

/-- The type of a JSON body. -/
def jsonType : Text := "application/json"

/-- The type of a page. -/
def pageType : Text := "text/html; charset=utf-8"

/-- A reply with a JSON body. -/
def json (status : Nat) (body : Text) : Reply := ⟨status, some jsonType, body, none, none⟩

/-- A document as the application's own messages write it: compact, on a line. -/
def line (j : Json) : Text := Json.write Json.compact j ++ "\n"

/-- A reply that consists of a description. -/
def described (status : Nat) (description : Text) : Reply :=
  json status (line (.object [("description", .string description)]))

/-- The reply to an unknown path. -/
def notFound : Reply := described 404 "resource not found"

/-- The reply to a method that the path does not take. -/
def methodNotAllowed : Reply := described 405 "method not allowed"

/-- The reply to a request that could not be served. -/
def internalError : Reply := described 500 "internal server error"

/-- The reply that lists the methods of a path. -/
def methods (allowed : List Text) : Reply := ⟨200, some pageType, [], none, some allowed⟩

/-- A character in a page. -/
def escaped (c : CodePoint) : Text :=
  if c = '&' then "&amp;"
  else if c = '<' then "&lt;"
  else if c = '>' then "&gt;"
  else if c = '\'' then "&#39;"
  else if c = '"' then "&#34;"
  else [c]

/-- The page about a redirection. -/
def redirectionPage (location : Text) : Text :=
  let shown := location.flatMap escaped
  "<!doctype html>\n<html lang=en>\n<title>Redirecting...</title>\n<h1>Redirecting...</h1>\n"
    ++ "<p>You should be redirected automatically to the target URL: <a href=\"" ++ shown
    ++ "\">" ++ shown ++ "</a>. If not, click the link.\n"

/-- The reply that sends the client, with the same method, to another address, which may
be shown in another form. -/
def redirection (shown location : Text) : Reply :=
  ⟨308, some pageType, redirectionPage shown, some location, none⟩

/-- The reply without its body. -/
def bodiless (r : Reply) : Reply := { r with body := [] }

/-- Whether replies of a status have no body. -/
def isBodiless (status : Nat) : Bool :=
  (100 ≤ status && status < 200) || status == 204 || status == 304

/-- The reply as it is sent: some statuses have no body, and that of an unchanged
resource has no type either. -/
def sent (r : Reply) : Reply :=
  if isBodiless r.status then
    { r with body := [], contentType? := if r.status = 304 then none else r.contentType? }
  else r

end Reply
end Http
end OpenBroker
