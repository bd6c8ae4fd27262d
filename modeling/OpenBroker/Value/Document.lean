import OpenBroker.Json.Basic
import OpenBroker.Number.Literal
import OpenBroker.Value.Basic

/-!
# Values as documents

An answer carries a value as a JSON document.  A tuple becomes an array.  A key
that is a number, a truth value or nothing becomes the text that JSON writes for
it, and keys that were different before may then be equal; both members stay.  An object of another
class is written as the value it gives for itself.

Sets and byte strings have no document, nor have mappings with any other
kind of key, nor integers that are too long to be read again, nor an object that gives nothing; the
first such part, in the order of writing, is the one reported.

Every document is a value, and it is its own document unless an integer in it is too long.
-/
namespace OpenBroker
namespace Value

/-- The complaint about a part of a kind that is not written. -/
def unwrittenPart (kind : Text) : Complaint :=
  .ofKind ("Object of type " ++ kind ++ " is not JSON serializable")

/-- The complaint about a key of a kind that is not written. -/
def unwrittenKey (kind : Text) : Complaint :=
  .ofKind ("keys must be str, int, float, bool or None, not " ++ kind)

/-- The text of a key. -/
def keyText : Value → Except Complaint Text
  | .null => .ok "null"
  | .bool true => .ok "true"
  | .bool false => .ok "false"
  | .int n => (writable n).map Decimal.ofInt
  | .real x => .ok (Json.writeReal x)
  | .text s => .ok s
  | v => .error (unwrittenKey v.kindName)

mutual

/-- **Document** of a value, or the complaint about what has none. -/
def document : Value → Except Complaint Json
  | .null => .ok .null
  | .bool b => .ok (.bool b)
  | .int n => (writable n).map Json.int
  | .real x => .ok (.real x)
  | .text s => .ok (.string s)
  | .list items => do .ok (.array (← documents items))
  | .tuple items => do .ok (.array (← documents items))
  | .mapping entries => do .ok (.object (← memberDocuments entries))
  | .set _ => .error (unwrittenPart "set")
  | .bytes _ => .error (unwrittenPart "bytes")
  | .foreign _ _ _ _ (.ok v) => document v
  | .foreign _ _ _ _ (.error c) => .error c

/-- The documents of the items of a list. -/
def documents : List Value → Except Complaint (List Json)
  | [] => .ok []
  | v :: rest => do
    let j ← document v
    let js ← documents rest
    .ok (j :: js)

/-- The members for the entries of a mapping. -/
def memberDocuments : List (Value × Value) → Except Complaint (List (Text × Json))
  | [] => .ok []
  | (k, v) :: rest => do
    let key ← keyText k
    let j ← document v
    let members ← memberDocuments rest
    .ok ((key, j) :: members)

end

mutual

/-- **Value** of a document. -/
def ofJson : Json → Value
  | .null => .null
  | .bool b => .bool b
  | .int n => .int n
  | .real x => .real x
  | .string s => .text s
  | .array items => .list (ofItems items)
  | .object members => .mapping (ofMembers members)

/-- The values of the items of an array. -/
def ofItems : List Json → List Value
  | [] => []
  | j :: rest => ofJson j :: ofItems rest

/-- The entries for the members of an object. -/
def ofMembers : List (Text × Json) → List (Value × Value)
  | [] => []
  | (k, j) :: rest => (.text k, ofJson j) :: ofMembers rest

end

/-- The JSON text of a value, as the broker operations write it. -/
def jsonText (v : Value) : Except Complaint Text := (document v).map Json.text

end Value
end OpenBroker
