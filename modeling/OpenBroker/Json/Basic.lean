import OpenBroker.Keyed
import OpenBroker.Number.Binary64
import OpenBroker.Number.Decimal
import OpenBroker.Text.Quoted

/-!
# JSON documents

A document is a tree.  Whole numbers and real numbers are different values: a
literal without fraction and exponent is an integer of any size, every other one
is a double.  The members of an object keep their order.
-/
namespace OpenBroker
/-- **JSON document.** -/
inductive Json
  | null
  | bool (b : Bool)
  | int (n : Int)
  | real (x : Binary64)
  | string (s : Text)
  | array (items : List Json)
  | object (members : List (Text × Json))
  deriving Inhabited

namespace Json

/-- The member of an object under a key; other documents have no members. -/
def member? (key : Text) : Json → Option Json
  | .object members => Keyed.find? key members
  | _ => none

end Json

/-! ## Writing JSON

A written document is printable ASCII: every other code point is escaped, those
beyond the first plane as a surrogate pair.  Control characters have their short
escapes where there are any.  What stands between the items of an array or object,
and between a key and its value, is a matter of `Style`; the answers of the
broker operations and the printed lines of the client use `spaced`, the error
bodies of the server use `compact`.
-/

namespace Json

/-- **Separators** of a written document. -/
structure Style where
  item : Text
  member : Text

/-- A blank after each comma and colon. -/
def spaced : Style := ⟨", ", ": "⟩

/-- No blanks at all. -/
def compact : Style := ⟨",", ":"⟩

/-- The escape of one UTF-16 unit. -/
def escapedUnit (n : Nat) : Text := "\\u" ++ Text.hex 4 n

/-- One code point inside a JSON string. -/
def escapedPoint (c : CodePoint) : Text :=
  if c = '"' then "\\\""
  else if c = '\\' then "\\\\"
  else if c.val < 0x20 then
    if c = '\n' then "\\n"
    else if c = '\r' then "\\r"
    else if c = '\t' then "\\t"
    else if c.val = 0x08 then "\\b"
    else if c.val = 0x0C then "\\f"
    else escapedUnit c.val
  else if c.val < 0x7F then [c]
  else if c.val < 0x10000 then escapedUnit c.val
  else
    let n := c.val - 0x10000
    escapedUnit (0xD800 + n / 0x400) ++ escapedUnit (0xDC00 + n % 0x400)

/-- A JSON string. -/
def writeString (s : Text) : Text :=
  "\"" ++ s.flatMap escapedPoint ++ "\""

/-- A real number; the values that are no finite numbers have names. -/
def writeReal (x : Binary64) : Text := x.write "Infinity" "NaN"

mutual

/-- **The written document.** -/
def write (style : Style) : Json → Text
  | .null => "null"
  | .bool true => "true"
  | .bool false => "false"
  | .int n => Decimal.ofInt n
  | .real x => writeReal x
  | .string s => writeString s
  | .array items => "[" ++ writeItems style items ++ "]"
  | .object members => "\x7b" ++ writeMembers style members ++ "\x7d"

/-- The items of an array between its brackets. -/
def writeItems (style : Style) : List Json → Text
  | [] => []
  | [v] => write style v
  | v :: w :: rest => write style v ++ style.item ++ writeItems style (w :: rest)

/-- The members of an object between its braces. -/
def writeMembers (style : Style) : List (Text × Json) → Text
  | [] => []
  | [(k, v)] => writeString k ++ style.member ++ write style v
  | (k, v) :: e :: rest =>
    writeString k ++ style.member ++ write style v ++ style.item
      ++ writeMembers style (e :: rest)

end

/-- The text of a document as the broker operations write it. -/
def text (j : Json) : Text := write spaced j

end Json
end OpenBroker
