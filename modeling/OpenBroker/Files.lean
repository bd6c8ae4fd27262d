import OpenBroker.Number.Decimal
import OpenBroker.Text.Basic
import OpenBroker.Text.Quoted
import OpenBroker.Text.Utf8

/-!
# Paths and files

A path is a text that was taken apart, and what is found there depends on the files there are.
-/
namespace OpenBroker

/-! ## Paths

A path is a root and the names on the way from it.  Doubled slashes, a slash at
the end and names that stay where they are (`.`) are dropped when a path is read;
a step up (`..`) is kept, because where it leads depends on the files there are.
-/

/-- **Path.**  A relative path has the empty root. -/
structure Path where
  root : Text
  names : List Text
  deriving DecidableEq, Repr

namespace Path

/-- The root of a path's text: two slashes are a root of their own, any other
number of them is one slash. -/
def rootOf (t : Text) : Text :=
  match (t.takeWhile (· == ('/' : CodePoint))).length with
  | 0 => []
  | 2 => "//"
  | _ => "/"

/-- **Path** of a text. -/
def ofText (t : Text) : Path :=
  ⟨rootOf t, (Text.split '/' t).filter fun name => !name.isEmpty && name != ("." : Text)⟩

/-- **Text** of a path. -/
def text (p : Path) : Text :=
  match p.root ++ Text.join "/" p.names with
  | [] => "."
  | t => t

/-- A path is relative when it has no root. -/
def isRelative (p : Path) : Bool := p.root.isEmpty

end Path

/-! ## Files

What can be found at a path is described by the tree below the working directory.
An entry is a file with its bytes, a file that may not be read, a directory, or a directory that
may not be searched; or the operating system has an error of its own for it.  Above the working
directory nothing has a name: a step up leads there, and from there any name leads nowhere.

A path is followed name by name, so the first obstacle decides what is wrong with
it.  A name with more than 255 bytes is an obstacle of its own wherever a
directory would be searched for it, and so is a path of 4096 bytes or more.

For the operating system a name is its bytes.  A byte that is no part of any text is
written as one half of a surrogate pair, of which there are 128 for this purpose; the
other halves stand for no bytes.
-/

namespace Files

/-- **Entry** of a directory. -/
inductive Entry
  | file (content : List UInt8)
  | sealed
  | directory (entries : List (Text × Entry))
  /-- A directory that may not be searched, so that nothing below it can be asked for. -/
  | locked
  /-- What there is an error for, with the number and the words of it. -/
  | faulty (number : Nat) (words : Text)

/-- Why nothing can be read at a path. -/
inductive Obstacle
  | notFound
  | denied
  | notADirectory
  | isADirectory
  | nameTooLong
  | fault (number : Nat) (words : Text)
  deriving DecidableEq, Repr

namespace Obstacle

/-- The number of an obstacle. -/
def number : Obstacle → Nat
  | notFound => 2
  | denied => 13
  | notADirectory => 20
  | isADirectory => 21
  | nameTooLong => 36
  | fault number _ => number

/-- The words for an obstacle. -/
def text : Obstacle → Text
  | notFound => "No such file or directory"
  | denied => "Permission denied"
  | notADirectory => "Not a directory"
  | isADirectory => "Is a directory"
  | nameTooLong => "File name too long"
  | fault _ words => words

/-- The numbers of the obstacles that only say that there is nothing: no such file, no file that
is open, no directory, and links that lead in a circle. -/
def absences : List Nat := [2, 9, 20, 40]

/-- The obstacle only says that there is nothing. -/
def isAbsence (o : Obstacle) : Bool := absences.contains o.number

/-- The message about an obstacle at a path. -/
def message (o : Obstacle) (p : Path) : Text :=
  "[Errno " ++ Decimal.ofNat o.number ++ "] " ++ o.text ++ ": " ++ Text.quoted p.text

end Obstacle

/-- A character of a name: a scalar value, or a half of a surrogate pair that stands for
a byte. -/
def isNameable (c : CodePoint) : Bool := c.isScalar || (0xDC80 ≤ c.val && c.val ≤ 0xDCFF)

/-- The bytes of a name. -/
def nameBytes (name : Text) : List UInt8 :=
  name.flatMap fun c => if c.isScalar then Utf8.encodePoint c else [UInt8.ofNat c.val]

/-- The most bytes of a name. -/
def nameLimit : Nat := 255

/-- The number of bytes from which on a path is too long. -/
def pathLimit : Nat := 4096

/-- **Place** on the way: in a directory with its parents, at an entry that nothing can be looked
up in, or above the working directory. -/
inductive Place
  | inside (here : List (Text × Entry)) (parents : List (List (Text × Entry)))
  | at (entry : Entry)
  | outside

/-- What a directory has under a name, which is any with the same bytes. -/
def entry? (here : List (Text × Entry)) (name : Text) : Option Entry :=
  (here.find? fun e => nameBytes e.1 == nameBytes name).map (·.2)

/-- The place one name further. -/
def Place.step (name : Text) : Place → Except Obstacle Place
  | .at .locked => .error .denied
  | .at _ => .error .notADirectory
  | .outside =>
    if nameLimit < (nameBytes name).length then .error .nameTooLong
    else if name = ".." then .ok .outside
    else .error .notFound
  | .inside here parents =>
    if nameLimit < (nameBytes name).length then .error .nameTooLong
    else if name = ".." then
      match parents with
      | [] => .ok .outside
      | parent :: above => .ok (.inside parent above)
    else
      match entry? here name with
      | none => .error .notFound
      | some (.directory entries) => .ok (.inside entries (here :: parents))
      | some (.faulty number words) => .error (.fault number words)
      | some entry => .ok (.at entry)

/-- The place at the end of a path. -/
def walk : List Text → Place → Except Obstacle Place
  | [], place => .ok place
  | name :: rest, place => (place.step name).bind (walk rest)

/-- **Find** what is at a path, below the entries of the working directory. -/
def locate (entries : List (Text × Entry)) (p : Path) : Except Obstacle Place :=
  if pathLimit ≤ (nameBytes p.text).length then .error .nameTooLong
  else walk p.names (if p.isRelative then .inside entries [] else .outside)

/-- **Read** the bytes at a path. -/
def read (entries : List (Text × Entry)) (p : Path) : Except Obstacle (List UInt8) :=
  match locate entries p with
  | .ok (.at (.file content)) => .ok content
  | .ok (.at .sealed) => .error .denied
  | .ok _ => .error .isADirectory
  | .error o => .error o

/-- **Whether there is a file** at a path.  An obstacle is an answer only if it says that there is
nothing. -/
def isFile (entries : List (Text × Entry)) (p : Path) : Except Obstacle Bool :=
  match locate entries p with
  | .ok (.at (.file _)) | .ok (.at .sealed) => .ok true
  | .ok _ => .ok false
  | .error o => if o.isAbsence then .ok false else .error o

/-- Whether a path has bytes. -/
def isEncodable (p : Path) : Bool := p.text.all isNameable

/-- Whether a path can be asked for at all: it has bytes, and the character zero is not
among its characters, which ends a name for the operating system. -/
def isAddressable (p : Path) : Bool := isEncodable p && !p.text.any (·.val == 0)

/-- The entries with a further one put at a path, and the directories on the way
to it; a directory that is already there keeps its entries. -/
def insert : (names : List Text) → Entry → List (Text × Entry) → List (Text × Entry)
  | [], _, entries => entries
  | name :: rest, entry, entries =>
    let others := entries.filter (·.1 != name)
    let below := match entries.lookup name with
      | some (.directory below) => below
      | _ => []
    match rest, entry with
    | [], .directory [] => others ++ [(name, .directory below)]
    | [], entry => others ++ [(name, entry)]
    | _ :: _, entry => others ++ [(name, .directory (insert rest entry below))]

end Files
end OpenBroker
