import OpenBroker.Charset.Name
import OpenBroker.Client.Message
import OpenBroker.Failure.Basic
import OpenBroker.Json.Basic
import OpenBroker.Json.Parser
import OpenBroker.Text.Class

/-!
# Bodies of replies

The bytes of a reply are a text in some character set, and the text may be a document.  The type of
the reply tells which.
-/
namespace OpenBroker

/-! ## Types of replies

The type of a reply is a name, with parameters behind semicolons.  One of the parameters
names the character set of the body.  Text without one is Latin-1 and a JSON document is
UTF-8; for any other type nothing is known.

Values may be in quotes.  A parameter that is given twice has its last value.
-/

namespace Client

/-- **Type of a body**, with the names of its parameters in lower case, and their values if
they have any. -/
structure ContentType where
  name : Text
  parameters : List (Text × Option Text)
  deriving DecidableEq, Repr

namespace ContentType

/-- The text without blanks and quotes at its ends. -/
def unquoted (t : Text) : Text :=
  let isMark (c : CodePoint) : Bool := c == '"' || c == '\'' || c == ' '
  Text.dropEndWhile isMark (t.dropWhile isMark)

/-- A parameter; without a value its name is as it stands. -/
def parameter (t : Text) : Text × Option Text :=
  match Text.cut '=' t with
  | (name, some value) => (Text.asciiLower (unquoted name), some (unquoted value))
  | (name, none) => (Text.asciiLower name, none)

/-- **The type** that a text gives. -/
def ofText (t : Text) : ContentType :=
  let parts := (Text.split ';' t).map Text.strip
  ⟨parts.headD [], ((parts.drop 1).filter fun p => !p.isEmpty).map parameter⟩

/-- Whether one text occurs in another. -/
def occurs (part : Text) : Text → Bool
  | [] => part.isEmpty
  | c :: rest => part.isPrefixOf (c :: rest) || occurs part rest

/-- The failure of a character set that is not named where it should be. -/
def unnamed : Failure := Failure.standard "AttributeError" "'bool' object has no attribute 'strip'"

/-- **The name of the character set** of a body of the type, if it is known. -/
def charset? (t : ContentType) : Except Failure (Option Text) :=
  match t.parameters.reverse.lookup (Text.ofString "charset") with
  | some (some name) => .ok (some name)
  | some none => .error unnamed
  | none =>
    if occurs "text" t.name then .ok (some "ISO-8859-1")
    else if occurs "application/json" t.name then .ok (some "utf-8")
    else .ok none

end ContentType
end Client

/-! ## Texts and documents

The body of a reply is printed as the document that it is, written anew.  A body that is
no document is printed as a string.

Bytes are read by the character set that the type of the reply names, and leniently; by a
set that is not known they are read as UTF-8.  If no set is named, a document shows
its own form.  A name that cannot be one ends the client.
-/

namespace Client

/-- The text of bytes by a set that has a name. -/
def namedText (name : Text) (bytes : List UInt8) : Except Failure Text :=
  if name.any fun c => !c.isScalar then
    .error (.unwritable "utf-8" "surrogates not allowed" (·.isScalar) name)
  else if name.contains ('\x00' : CodePoint) then
    .error (.standard "ValueError" "embedded null character")
  else
    match Charset.ofName? name with
    | some set => set.read name bytes
    | none => .ok (Utf8.decodeLossy bytes)

namespace ServerReply

/-- The name of the character set of the body, if it is known. -/
def charset? (r : ServerReply) : Except Failure (Option Text) :=
  (ContentType.ofText r.contentType).charset?

/-- **The body as a text.** -/
def text (r : ServerReply) : Except Failure Text := do
  match ← r.charset? with
  | none => .ok (Charset.anyText r.body)
  | some name => if r.body.isEmpty then .ok [] else namedText name r.body

/-- The text of the body in the form that it shows by itself, if no set is named. -/
def ownText? (r : ServerReply) : Except Failure (Option Text) := do
  let name? ← r.charset?
  .ok (if (name?.getD []).isEmpty then Charset.documentText? r.body else none)

/-- **A body printed**: a document written anew, any other text as a string. -/
def printedBody (body : Text) : Text :=
  match Json.read body with
  | .ok j => j.text
  | .error _ => Json.writeString body

/-- The body of the reply printed.  What it seems to be by itself counts only if that is a
document. -/
def bodyPrinted (r : ServerReply) : Except Failure Text := do
  match (← r.ownText?).map Json.read with
  | some (.ok j) => .ok j.text
  | some (.error _) => (r.text).map Json.writeString
  | none => (r.text).map printedBody

/-- A status and a printed body on a line. -/
def line (status : Nat) (body : Text) : Text := Decimal.ofNat status ++ " " ++ body ++ "\n"

/-- **A reply printed** on a line. -/
def printed (r : ServerReply) : Except Failure Text := (r.bodyPrinted).map (line r.status)

end ServerReply

end Client
end OpenBroker
