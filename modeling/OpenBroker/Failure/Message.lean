import OpenBroker.Failure.Basic
import OpenBroker.Value.Basic

/-!
# Messages of failures

The message of a failure is computed from its class and its arguments.  Most
errors show their only argument, or all of them if there are several.

The other families have styles of their own.  What an error of such a family keeps of
its arguments it keeps only if that family takes them, and an error that keeps nothing
has nothing to say about it.

To say what an error is may fail, and then there is another failure in the place of a message.
A message cannot show an argument that cannot be displayed.  An error about characters cannot show
the one that it points at if that is to stand before the first.  And an error of a class that a
broker defines may fail in any way.
-/
namespace OpenBroker
namespace Failure

/-- A message in the plain style. -/
def plainMessage : List Value → Except Complaint Text
  | [] => .ok []
  | [v] => v.plain
  | vs => (Value.tuple vs).display

/-- The files that an error of the operating system is about. -/
def files (blocking : Bool) : List Value → List Value
  | [] | .null :: _ => []
  | file :: more =>
    match blocking, file with
    | true, .int _ | true, .bool _ => []
    | _, _ =>
      match more with
      | [_, .null] => [file]
      | [_, second] => [file, second]
      | _ => [file]

/-- A message of the operating system: number, text, and the files concerned as
far as they are given. -/
def systemMessage (blocking : Bool) (args : List Value) : Except Complaint Text :=
  match args with
  | number :: text :: more =>
    if 5 < args.length then plainMessage args
    else do
      let head : Text := "[Errno " ++ (← number.plain) ++ "] " ++ (← text.plain)
      match files blocking more with
      | [] => .ok head
      | fs => .ok (head ++ ": " ++ Text.join " -> " (← Value.displayItems fs))
  | _ => plainMessage args

/-- The items of a value that can be gone through. -/
def items? : Value → Option (List Value)
  | .list items | .tuple items | .set items => some items
  | .text t => some (t.map fun c => .text [c])
  | .bytes bs => some (bs.map fun b => .int b.toNat)
  | .mapping entries => some (entries.map (·.1))
  | _ => none

/-- A line number as far as it is shown. -/
def shownLine (n : Int) : Text :=
  let limit : Int := Nat.pow 2 63
  Decimal.ofInt (if -limit ≤ n ∧ n < limit then n else -1)

/-- The name of the file at a place in a program: the last part of its path. -/
def placeFile? : List Value → Option Text
  | .text path :: _ => some ((Text.split '/' path).getLastD [])
  | _ => none

/-- The line number of a place in a program. -/
def placeLine? : List Value → Option Int
  | _ :: .int n :: _ => some n
  | _ => none

/-- A message about a text that is no program: what is wrong, and the place. -/
def parsingMessage (args : List Value) : Except Complaint Text :=
  (args.headD .null).plain.map fun what =>
    match args with
    | [_, place] =>
      let parts : List Value := (items? place).getD []
      match placeFile? parts, placeLine? parts with
      | none, none => what
      | some file, none => what ++ " (" ++ file ++ ")"
      | none, some n => what ++ " (line " ++ shownLine n ++ ")"
      | some file, some n => what ++ " (" ++ file ++ ", line " ++ shownLine n ++ ")"
    | _ => what

/-- The single unit of a row that an error about its units from `start` to `stop` points
at, if it points at a single one. -/
def pointedAt? (units : List Nat) (start stop : Int) : Option Nat :=
  if stop = start + 1 ∧ 0 ≤ start then units[start.toNat]? else none

/-- The units from one to another in a message. -/
def shownRange (start stop : Int) : Text :=
  Decimal.ofInt start ++ "-" ++ Decimal.ofInt (stop - 1)

/-- A code point in a message. -/
def shownPoint (n : Nat) : Text :=
  if n ≤ 0xFF then "\\x" ++ Text.hex 2 n
  else if n ≤ 0xFFFF then "\\u" ++ Text.hex 4 n
  else "\\U" ++ Text.hex 8 n

/-- A message about a text that cannot be written. -/
def encodingMessage (action : Text) (t : Text) (start stop : Int) (reason : Text) : Text :=
  action ++
    (match pointedAt? (t.map (·.val)) start stop with
      | some n => " character '" ++ shownPoint n ++ "' in position " ++ Decimal.ofInt start
      | none => " characters in position " ++ shownRange start stop)
    ++ ": " ++ reason

/-- A message about bytes that are no text. -/
def decodingMessage (set : Text) (bs : List UInt8) (start stop : Int) (reason : Text) : Text :=
  "'" ++ set ++ "' codec can't decode " ++
    (match pointedAt? (bs.map UInt8.toNat) start stop with
      | some n => "byte 0x" ++ Text.hex 2 n ++ " in position " ++ Decimal.ofInt start
      | none => "bytes in position " ++ shownRange start stop)
    ++ ": " ++ reason

/-- The failure of pointing at a character before the first. -/
def misplaced : Failure :=
  standard "SystemError" "<class 'str'> returned a result with an exception set"

/-- A message about a text, unless it points at a character before the first. -/
def pointedMessage (action t : Text) (start stop : Int) (reason : Text) : Except Failure Text :=
  if start < 0 ∧ stop = start + 1 then .error misplaced
  else .ok (encodingMessage action t start stop reason)

/-- The message of the three families about characters. -/
def characterMessage (args : List Value) : Except Failure Text :=
  match args with
  | [.text set, .text t, start, stop, .text reason] =>
    pointedMessage ("'" ++ set ++ "' codec can't encode") t (start.int?.getD 0)
      (stop.int?.getD 0) reason
  | [.text set, .bytes bs, start, stop, .text reason] =>
    .ok (decodingMessage set bs (start.int?.getD 0) (stop.int?.getD 0) reason)
  | [.text t, start, stop, .text reason] =>
    pointedMessage "can't translate" t (start.int?.getD 0) (stop.int?.getD 0) reason
  | _ => .ok []

/-- What shows values, or the failure of showing them. -/
def showing (shown : Except Complaint Text) : Except Failure Text := shown.mapError ofComplaint

/-- **Message** of a failure, or the failure of saying what it is. -/
def message : Failure → Except Failure Text
  | raised cls args =>
    let args := keptArguments cls args
    let isKept : Bool := cls.taker == cls.voice
    match cls.voice with
    | .keyed =>
      match args with
      | [v] => showing v.display
      | _ => showing (plainMessage args)
    | .system =>
      showing (if isKept then systemMessage (isBlocking cls args) args else plainMessage args)
    | .parsing => showing (if isKept then parsingMessage args else .ok "None")
    | .encoding | .decoding | .translating => if isKept then characterMessage args else .ok []
    | _ => showing (plainMessage args)
  | http h => .ok h.message
  | own _ said _ => said

/-- How a failure is reported where nothing more can be done about it. -/
def reported (f : Failure) : Text :=
  match f.message with
  | .ok t => t
  | .error _ => "<exception str() failed>"

end Failure
end OpenBroker
