import OpenBroker.Number.Binary64
import OpenBroker.Number.Decimal
import OpenBroker.Number.Literal
import OpenBroker.Text.Basic
import OpenBroker.Text.Quoted

/-!
# What a broker may hand back

A broker is free in what it returns: a dashboard address that is no text,
credentials of any shape.  A value is a tree like a document, with four kinds of
nodes a document does not have: tuples, sets, byte strings, and mappings
whose keys are values themselves.

An object of any other class is a value as well.  All that is known of it is what it answers when it
is asked whether it counts as something, how it is displayed, and what is to be written in its
place.  It may answer any such question with a complaint.  A list that is met again inside of itself
is such an object there, which cannot be written.

Values are compared by what they mean.  Numbers of all kinds are compared
exactly, truth values counting as 0 and 1; the order of a set's members or a
mapping's entries does not matter.  Every value equals itself, the one that
is no number included, and an object of another class equals nothing else.
-/
namespace OpenBroker

/-- **Complaint**: an error that something about a value cannot be told, by the name of its class
and its message. -/
structure Complaint where
  className : Text
  message : Text
  deriving DecidableEq, Repr

/-- **Value** of a broker operation. -/
inductive Value
  | null
  | bool (b : Bool)
  | int (n : Int)
  | real (x : Binary64)
  | text (s : Text)
  | list (items : List Value)
  | tuple (items : List Value)
  | set (items : List Value)
  | bytes (bs : List UInt8)
  | mapping (entries : List (Value × Value))
  /-- An object of another class, with a number that tells it from all others, the name of its
  class, and its answers. -/
  | foreign (number : Nat) (kind : Text) (truth : Except Complaint Bool)
    (shown : Except Complaint Text) (written : Except Complaint Value)
  deriving Inhabited

namespace Value

/-- The name of a value's kind in messages. -/
def kindName : Value → Text
  | .null => "NoneType"
  | .bool _ => "bool"
  | .int _ => "int"
  | .real _ => "float"
  | .text _ => "str"
  | .list _ => "list"
  | .tuple _ => "tuple"
  | .set _ => "set"
  | .bytes _ => "bytes"
  | .mapping _ => "dict"
  | .foreign _ kind _ _ _ => kind

/-- **Falsy.**  Nothing, false, zero, everything empty, and an object that says so. -/
def isFalsy : Value → Bool
  | .null => true
  | .bool b => !b
  | .int n => n == 0
  | .real x => x.isZero
  | .text s => s.isEmpty
  | .list items | .tuple items | .set items => items.isEmpty
  | .bytes bs => bs.isEmpty
  | .mapping entries => entries.isEmpty
  | .foreign _ _ truth _ _ =>
    match truth with
    | .ok something => !something
    | .error _ => false

/-- **The truth** of a value: whether it counts as something, if that can be told. -/
def truth : Value → Except Complaint Bool
  | .foreign _ _ truth _ _ => truth
  | v => .ok !v.isFalsy

/-- The integer a value counts as among numbers. -/
def int? : Value → Option Int
  | .bool b => some (if b then 1 else 0)
  | .int n => some n
  | _ => none

/-- Equality of values with no parts. -/
def sameScalar : Value → Value → Bool
  | .null, .null => true
  | .text s, .text t => s == t
  | .bytes s, .bytes t => s == t
  | .real x, .real y => x == y || (x.isZero && y.isZero)
  | .real x, v | v, .real x =>
    match v.int? with
    | some n => x.equalsInt n
    | none => false
  | v, w =>
    match v.int?, w.int? with
    | some m, some n => m == n
    | _, _ => false

mutual

/-- **Equality of values.** -/
def same : Value → Value → Bool
  | .list xs, .list ys => sameItems xs ys
  | .tuple xs, .tuple ys => sameItems xs ys
  | .set xs, .set ys => xs.length == ys.length && allAmong xs ys
  | .mapping es, .mapping fs => es.length == fs.length && allEntriesAmong es fs
  | .foreign m _ _ _ _, .foreign n _ _ _ _ => m == n
  | v, w => sameScalar v w

/-- Equality item by item. -/
def sameItems : List Value → List Value → Bool
  | [], [] => true
  | x :: xs, y :: ys => same x y && sameItems xs ys
  | _, _ => false

/-- Every value of the first list equals one of the second. -/
def allAmong : List Value → List Value → Bool
  | [], _ => true
  | x :: xs, ys => ys.any (same x) && allAmong xs ys

/-- Every entry of the first list equals one of the second in key and value. -/
def allEntriesAmong : List (Value × Value) → List (Value × Value) → Bool
  | [], _ => true
  | (k, v) :: es, fs =>
    fs.any (fun f => same k f.1 && same v f.2) && allEntriesAmong es fs

end

mutual

/-- **What keeps a value from being a key** or a member of a set: a list, a set or a
mapping, as the value itself or inside of a tuple. -/
def unhashable? : Value → Option Value
  | .tuple items => firstUnhashable? items
  | .list items => some (.list items)
  | .set items => some (.set items)
  | .mapping entries => some (.mapping entries)
  | _ => none

/-- What keeps the items from being keys, at the first item where there is anything. -/
def firstUnhashable? : List Value → Option Value
  | [] => none
  | v :: rest => (unhashable? v).or (firstUnhashable? rest)

end

/-- The complaint about a value that cannot be a key. -/
def unhashableMessage (v : Value) : Text := "unhashable type: '" ++ v.kindName ++ "'"

/-- The entries with a value under a key: the first equal key keeps its place and
its spelling. -/
def putEntry (k v : Value) : List (Value × Value) → List (Value × Value)
  | [] => [(k, v)]
  | (k', v') :: rest =>
    if same k' k then (k', v) :: rest else (k', v') :: putEntry k v rest

/-- The mapping of a list of pairs, put one after the other. -/
def mappingOfPairs (pairs : List (Value × Value)) : Value :=
  .mapping (pairs.foldl (fun entries e => putEntry e.1 e.2 entries) [])

/-- The set of a list of values; of equal ones the first is kept. -/
def setOfList (items : List Value) : Value :=
  .set (items.foldl (fun kept v => if kept.any (same v) then kept else kept ++ [v]) [])

end Value

namespace Complaint

/-- The complaint about something of a kind that it must not be. -/
def ofKind (message : Text) : Complaint := ⟨"TypeError", message⟩

/-- The complaint about an integer that is too long to be written. -/
def overlong : Complaint := ⟨"ValueError", Literal.unwritableMessage⟩

end Complaint

/-! ## Values in messages

A value is shown in a message by its display: texts are quoted, lists stand in
brackets, tuples in parentheses with a comma even behind a single item, sets and
mappings in braces.  A message that consists of one value alone shows a text
as it is, without quotes.  A value with an integer in it that is too long to be written cannot
be shown at all, and an object of another class shows itself.
-/

namespace Value

/-- An integer, if it is not too long to be written. -/
def writable (n : Int) : Except Complaint Int :=
  if Literal.IsTooLong n then .error .overlong else .ok n

/-- Displayed items with commas between them. -/
def commas (parts : List Text) : Text := Text.join ", " parts

mutual

/-- **Display** of a value, if it can be shown. -/
def display : Value → Except Complaint Text
  | .null => .ok "None"
  | .bool true => .ok "True"
  | .bool false => .ok "False"
  | .int n => (writable n).map Decimal.ofInt
  | .real x => .ok x.display
  | .text s => .ok (Text.quoted s)
  | .list items => do .ok ("[" ++ commas (← displayItems items) ++ "]")
  | .tuple [] => .ok "()"
  | .tuple [v] => do .ok ("(" ++ (← display v) ++ ",)")
  | .tuple (v :: w :: rest) => do .ok ("(" ++ commas (← displayItems (v :: w :: rest)) ++ ")")
  | .set [] => .ok "set()"
  | .set (v :: rest) => do .ok ("\x7b" ++ commas (← displayItems (v :: rest)) ++ "\x7d")
  | .bytes bs => .ok (Text.quotedBytes bs)
  | .mapping entries => do .ok ("\x7b" ++ commas (← displayEntries entries) ++ "\x7d")
  | .foreign _ _ _ shown _ => shown

/-- The displays of the items of a list. -/
def displayItems : List Value → Except Complaint (List Text)
  | [] => .ok []
  | v :: rest => do .ok ((← display v) :: (← displayItems rest))

/-- The displays of the entries of a mapping. -/
def displayEntries : List (Value × Value) → Except Complaint (List Text)
  | [] => .ok []
  | (k, v) :: rest => do
    .ok (((← display k) ++ ": " ++ (← display v)) :: (← displayEntries rest))

end

/-- **Plain text** of a value: a text itself, any other value displayed. -/
def plain : Value → Except Complaint Text
  | .text s => .ok s
  | v => display v

end Value
end OpenBroker
