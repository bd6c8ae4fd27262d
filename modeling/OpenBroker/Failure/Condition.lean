import OpenBroker.Http.Basic
import OpenBroker.Number.Decimal

/-!
# HTTP conditions

A broker may raise an HTTP condition in the place of an error.  A condition has a name, and it
may have a status and a description.

The application has a handler for the conditions of two classes, the ones that the router raises
for a path that is not known and for a method that is not taken.  It finds a handler by the class
of a condition and not by its status, so a class of another origin that has one of the two
statuses is a class like all others.  A condition without a status, or one that only the router
raises to send a client elsewhere, is a reply already, and no handler is asked about it.

A condition is usually made from a status (`HttpCondition.ofStatus`).  The statuses have names,
and most of those for errors have a description, which counts where none is given.
-/
namespace OpenBroker

/-- **Class of a condition**, as far as the handlers tell classes apart. -/
inductive ConditionClass
  | unknownPath
  | methodNotAllowed
  | other
  deriving DecidableEq, Repr

/-- **HTTP condition.** -/
inductive HttpCondition
  /-- A condition for the handlers, with its status. -/
  | handled (cls : ConditionClass) (code : Nat) (name : Text) (description? : Option Text)
  /-- A condition that is a reply already, whether it has a status or not. -/
  | ready (code? : Option Nat) (name : Text) (description? : Option Text) (reply : Http.Reply)
  deriving DecidableEq, Repr

namespace HttpCondition

/-- Names of the status codes below those of errors. -/
def calmNames : List (Nat × Text) :=
  [(100, "Continue"), (101, "Switching Protocols"), (102, "Processing"), (103, "Early Hints"),
    (200, "OK"), (201, "Created"), (202, "Accepted"), (203, "Non Authoritative Information"),
    (204, "No Content"), (205, "Reset Content"), (206, "Partial Content"),
    (207, "Multi Status"), (208, "Already Reported"), (226, "IM Used"),
    (300, "Multiple Choices"), (301, "Moved Permanently"), (302, "Found"), (303, "See Other"),
    (304, "Not Modified"), (305, "Use Proxy"), (306, "Switch Proxy"),
    (307, "Temporary Redirect"), (308, "Permanent Redirect")]

/-- Names of the status codes of faults of a client. -/
def clientNames : List (Nat × Text) :=
  [(400, "Bad Request"), (401, "Unauthorized"), (402, "Payment Required"), (403, "Forbidden"),
    (404, "Not Found"), (405, "Method Not Allowed"), (406, "Not Acceptable"),
    (407, "Proxy Authentication Required"), (408, "Request Timeout"), (409, "Conflict"),
    (410, "Gone"), (411, "Length Required"), (412, "Precondition Failed"),
    (413, "Request Entity Too Large"), (414, "Request URI Too Long"),
    (415, "Unsupported Media Type"), (416, "Requested Range Not Satisfiable"),
    (417, "Expectation Failed"), (418, "I'm a teapot"), (421, "Misdirected Request"),
    (422, "Unprocessable Entity"), (423, "Locked"), (424, "Failed Dependency"),
    (425, "Too Early"), (426, "Upgrade Required"), (428, "Precondition Required"),
    (429, "Too Many Requests"), (431, "Request Header Fields Too Large"), (449, "Retry With"),
    (451, "Unavailable For Legal Reasons")]

/-- Names of the status codes of faults of a server. -/
def serverNames : List (Nat × Text) :=
  [(500, "Internal Server Error"), (501, "Not Implemented"), (502, "Bad Gateway"),
    (503, "Service Unavailable"), (504, "Gateway Timeout"), (505, "HTTP Version Not Supported"),
    (507, "Insufficient Storage"), (508, "Loop Detected"), (510, "Not Extended"),
    (511, "Network Authentication Failed")]

/-- Names of the status codes. -/
def names : List (Nat × Text) := calmNames ++ clientNames ++ serverNames

/-- Descriptions of the status codes that have one. -/
def descriptions : List (Nat × Text) :=
  [(400, "The browser (or proxy) sent a request that this server could not understand."),
    (401,
      "The server could not verify that you are authorized to access the URL requested. You either supplied the wrong credentials (e.g. a bad password), or your browser doesn't understand how to supply the credentials required."),
    (403,
      "You don't have the permission to access the requested resource. It is either read-protected or not readable by the server."),
    (404,
      "The requested URL was not found on the server. If you entered the URL manually please check your spelling and try again."),
    (405, "The method is not allowed for the requested URL."),
    (406,
      "The resource identified by the request is only capable of generating response entities which have content characteristics not acceptable according to the accept headers sent in the request."),
    (408,
      "The server closed the network connection because the browser didn't finish the request within the specified time."),
    (409,
      "A conflict happened while processing the request. The resource might have been modified while the request was being processed."),
    (410,
      "The requested URL is no longer available on this server and there is no forwarding address. If you followed a link from a foreign page, please contact the author of this page."),
    (411, "A request with this method requires a valid <code>Content-Length</code> header."),
    (412, "The precondition on the request for the URL failed positive evaluation."),
    (413, "The data value transmitted exceeds the capacity limit."),
    (414,
      "The length of the requested URL exceeds the capacity limit for this server. The request cannot be processed."),
    (415, "The server does not support the media type transmitted in the request."),
    (416, "The server cannot provide the requested range."),
    (417, "The server could not meet the requirements of the Expect header"),
    (418, "This server is a teapot, not a coffee machine"),
    (421, "The server is not able to produce a response."),
    (422,
      "The request was well-formed but was unable to be followed due to semantic errors."),
    (423, "The resource that is being accessed is locked."),
    (424,
      "The method could not be performed on the resource because the requested action depended on another action and that action failed."),
    (428,
      "This request is required to be conditional; try using \"If-Match\" or \"If-Unmodified-Since\"."),
    (429, "This user has exceeded an allotted request count. Try again later."),
    (431, "One or more header fields exceeds the maximum size."),
    (451, "Unavailable for legal reasons."),
    (500,
      "The server encountered an internal error and was unable to complete your request. Either the server is overloaded or there is an error in the application."),
    (501, "The server does not support the action requested by the browser."),
    (502, "The proxy server received an invalid response from an upstream server."),
    (503,
      "The server is temporarily unable to service your request due to maintenance downtime or capacity problems. Please try again later."),
    (504, "The connection to an upstream server timed out."),
    (505, "The server does not support the HTTP protocol version used in the request.")]

/-- The class that the conditions made from a status have. -/
def classOf (code : Nat) : ConditionClass :=
  if code = 404 then .unknownPath else if code = 405 then .methodNotAllowed else .other

/-- The name of a status. -/
def nameOf (code : Nat) : Text := (names.lookup code).getD "Unknown Error"

/-- **The condition of a status**, with the description given, or with the one of the status if
there is any. -/
def ofStatus (code : Nat) (given? : Option Text) : HttpCondition :=
  .handled (classOf code) code (nameOf code) (given?.or (descriptions.lookup code))

/-- The name of a condition. -/
def name : HttpCondition → Text
  | handled _ _ name _ | ready _ name _ _ => name

/-- What is told about a condition: its description, or its name where that is missing or
empty. -/
def told (name : Text) (description? : Option Text) : Text :=
  match description? with
  | none | some [] => name
  | some t => t

/-- **Message** of the condition. -/
def message : HttpCondition → Text
  | handled _ code name description? => line (Decimal.ofNat code) name description?
  | ready code? name description? _ => line (code?.elim "???" Decimal.ofNat) name description?
where
  /-- The message that is made of the parts. -/
  line (code name : Text) (description? : Option Text) : Text :=
    code ++ " " ++ name ++ ": " ++ description?.getD "None"

end HttpCondition
end OpenBroker
