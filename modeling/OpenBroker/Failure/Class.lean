import OpenBroker.Text.Basic

/-!
# Classes of errors

An error has a class.  The classes that stand for the conditions a broker reports come first, then
those that come with the platform, and then the open hierarchy of all that are derived from them.
-/
namespace OpenBroker

/-! ## Conditions a broker reports

A broker that cannot do what it is asked reports one of five conditions.  Each is
a class of errors of its own, below one common class; a broker may refine a class,
and an error may belong to several.
-/

/-- **Sentinel.**  A class of errors that stands for a recognised condition, or
the class above them all. -/
inductive Sentinel
  | brokerError
  | instanceAlreadyExists
  | instanceLimitReached
  | instanceDoesNotExist
  | bindingAlreadyExists
  | bindingDoesNotExist
  deriving DecidableEq, Repr

namespace Sentinel

/-- The sentinels, the common one first. -/
def all : List Sentinel :=
  [brokerError, instanceAlreadyExists, instanceLimitReached, instanceDoesNotExist,
    bindingAlreadyExists, bindingDoesNotExist]

/-- The name of the class. -/
def name : Sentinel → Text
  | brokerError => "BrokerError"
  | instanceAlreadyExists => "InstanceAlreadyExistsError"
  | instanceLimitReached => "InstanceLimitReachedError"
  | instanceDoesNotExist => "InstanceDoesNotExistError"
  | bindingAlreadyExists => "BindingAlreadyExistsError"
  | bindingDoesNotExist => "BindingDoesNotExistError"

/-- The message of an error that was given none. -/
def defaultMessage : Sentinel → Text
  | brokerError => "broker error"
  | instanceAlreadyExists => "instance already exists"
  | instanceLimitReached => "instance limit for this service has been reached"
  | instanceDoesNotExist => "instance does not exist"
  | bindingAlreadyExists => "binding already exists"
  | bindingDoesNotExist => "binding does not exist"

/-- The errors of class `s` belong to class `t`. -/
def isA (s t : Sentinel) : Bool := s == t || t == brokerError

end Sentinel

/-! ## Standard errors

A broker may raise any of the errors that come with its platform.  They form a
hierarchy below one class, `BaseException`; those that can be caught stand below
`Exception`.  Classes that are alike in what they keep of their arguments, and in how
they write their messages, form a family.
-/

/-- **Family** of standard errors. -/
inductive Family
  | plain
  /-- A missing key, which is the message in quotes. -/
  | keyed
  /-- An error of the operating system: a number, a text, and the files concerned. -/
  | system
  /-- A text that cannot be read as a program, with the place of the fault. -/
  | parsing
  | importing
  | naming
  /-- A part that a value does not have. -/
  | partAccess
  /-- A text that a character set cannot write. -/
  | encoding
  /-- Bytes that are no text in a character set. -/
  | decoding
  | translating
  | group
  | stop
  | exit
  deriving DecidableEq, Repr

namespace Family

/-- The class that gives the family its way to write messages, if it has one of its
own. -/
def voice? : Family → Option Text
  | plain => some "BaseException"
  | keyed => some "KeyError"
  | system => some "OSError"
  | parsing => some "SyntaxError"
  | importing => some "ImportError"
  | naming => some "NameError"
  | partAccess => some "AttributeError"
  | encoding => some "UnicodeEncodeError"
  | decoding => some "UnicodeDecodeError"
  | translating => some "UnicodeTranslateError"
  | group => some "BaseExceptionGroup"
  | stop | exit => none

/-- Whether the errors of the family keep more than their arguments.  No error can be of
two families that do. -/
def hasLayout : Family → Bool
  | plain | keyed => false
  | _ => true

end Family

/-- **Standard error.**  Its class, and the names of the classes above it, nearest
first. -/
structure StandardError where
  name : Text
  above : List Text
  family : Family
  deriving DecidableEq, Repr

namespace StandardError

/-- A class that can be caught, below others. -/
def below (family : Family) (above : List Text) (name : Text) : StandardError :=
  ⟨name, above ++ (["Exception", "BaseException"] : List Text), family⟩

/-- The classes that cannot be caught, and the two at the top. -/
def topmost : List StandardError :=
  [⟨"BaseException", [], .plain⟩, ⟨"Exception", ["BaseException"], .plain⟩,
    ⟨"GeneratorExit", ["BaseException"], .plain⟩,
    ⟨"KeyboardInterrupt", ["BaseException"], .plain⟩,
    ⟨"SystemExit", ["BaseException"], .exit⟩,
    ⟨"BaseExceptionGroup", ["BaseException"], .group⟩,
    ⟨"ExceptionGroup", ["BaseExceptionGroup", "Exception", "BaseException"], .group⟩]

/-- Classes of a family that stand below the same others. -/
def siblings (family : Family) (above names : List Text) : List StandardError :=
  names.map (below family above)

/-- The classes of the plain family that can be caught. -/
def plainErrors : List StandardError :=
  siblings .plain []
      ["ArithmeticError", "AssertionError", "BufferError", "EOFError", "LookupError",
        "MemoryError", "ReferenceError", "RuntimeError", "StopAsyncIteration", "SystemError",
        "TypeError", "ValueError", "Warning"]
    ++ siblings .plain ["ArithmeticError"]
      ["FloatingPointError", "OverflowError", "ZeroDivisionError"]
    ++ siblings .plain ["RuntimeError"] ["NotImplementedError", "RecursionError"]
    ++ siblings .plain ["Warning"]
      ["BytesWarning", "DeprecationWarning", "EncodingWarning", "FutureWarning",
        "ImportWarning", "PendingDeprecationWarning", "ResourceWarning", "RuntimeWarning",
        "SyntaxWarning", "UnicodeWarning", "UserWarning"]
    ++ [below .plain ["LookupError"] "IndexError", below .plain ["ValueError"] "UnicodeError"]

/-- The errors of the operating system. -/
def systemErrors : List StandardError :=
  below .system [] "OSError"
    :: siblings .system ["OSError"]
      ["BlockingIOError", "ChildProcessError", "ConnectionError", "FileExistsError",
        "FileNotFoundError", "InterruptedError", "IsADirectoryError", "NotADirectoryError",
        "PermissionError", "ProcessLookupError", "TimeoutError"]
    ++ siblings .system ["ConnectionError", "OSError"]
      ["BrokenPipeError", "ConnectionAbortedError", "ConnectionRefusedError",
        "ConnectionResetError"]

/-- The classes of the other families. -/
def otherErrors : List StandardError :=
  [below .keyed ["LookupError"] "KeyError",
    below .parsing [] "SyntaxError",
    below .parsing ["SyntaxError"] "IndentationError",
    below .parsing ["IndentationError", "SyntaxError"] "TabError",
    below .importing [] "ImportError",
    below .importing ["ImportError"] "ModuleNotFoundError",
    below .naming [] "NameError",
    below .naming ["NameError"] "UnboundLocalError",
    below .partAccess [] "AttributeError",
    below .encoding ["UnicodeError", "ValueError"] "UnicodeEncodeError",
    below .decoding ["UnicodeError", "ValueError"] "UnicodeDecodeError",
    below .translating ["UnicodeError", "ValueError"] "UnicodeTranslateError",
    below .stop [] "StopIteration"]

/-- **Every standard error.** -/
def all : List StandardError := topmost ++ plainErrors ++ systemErrors ++ otherErrors

/-- Second names of the class of errors of the operating system. -/
def systemNames : List Text := ["IOError", "EnvironmentError"]

/-- The standard error of a name, if there is one. -/
def find? (name : Text) : Option StandardError :=
  let name : Text := if systemNames.contains name then "OSError" else name
  all.find? fun e => e.name = name

/-- The standard error of a name; an unknown one is plain. -/
def named (name : Text) : StandardError := (find? name).getD (below .plain [] name)

end StandardError

/-! ## Derived classes

The errors a broker may raise form an open hierarchy: the sentinels, the error of
a bad catalog, the standard errors, and whatever a broker derives from them.  A class
is derived from one class, once or several times, or from several such classes at once.

The classes that an error belongs to stand in an order, its lineage: every class comes
before those that it is derived from, and of two classes that an error is derived from
at once the first comes before the second.  What decides a question about an error is
the first class of its lineage that has an answer.  Where no order keeps both rules,
and where two of the classes are kept in different ways, there is no such class of
errors.
-/

/-- **Basic class**, which a broker finds and does not derive. -/
inductive BasicClass
  | sentinel (s : Sentinel)
  | catalog
  | standard (e : StandardError)
  deriving DecidableEq, Repr

namespace BasicClass

/-- The name of the class. -/
def name : BasicClass → Text
  | sentinel s => s.name
  | catalog => "CatalogError"
  | standard e => e.name

/-- The names of the classes above it, nearest first. -/
def above : BasicClass → List Text
  | sentinel .brokerError => ["Exception", "BaseException"]
  | sentinel _ => [Sentinel.brokerError.name, "Exception", "BaseException"]
  | catalog => ["ValueError", "Exception", "BaseException"]
  | standard e => e.above

/-- The names of the class and of those above it. -/
def names (c : BasicClass) : List Text := c.name :: c.above

/-- The family of the errors of the class. -/
def family : BasicClass → Family
  | standard e => e.family
  | _ => .plain

/-- The basic class of a name. -/
def ofName (name : Text) : BasicClass :=
  match Sentinel.all.find? (·.name = name) with
  | some s => .sentinel s
  | none => if name = "CatalogError" then .catalog else .standard (.named name)

end BasicClass

/-- **Strand.**  A basic class, and the names of the classes derived from it one after
the other, the last of them first. -/
structure Strand where
  derived : List Text
  basic : BasicClass
  deriving DecidableEq, Repr

/-- **Class of errors**, derived from all of its strands at once if there are several. -/
structure ErrorClass where
  first : Strand
  others : List Strand
  deriving DecidableEq, Repr

/-- **Ancestor** of an error: a class that the error belongs to.  A derived class has a
mark that tells it from others of the same name. -/
structure Ancestor where
  name : Text
  mark : Option (Nat × Nat)
  deriving DecidableEq, Repr

/-- Why there is no such class of errors. -/
inductive ClassFault
  | layout
  | duplicate (name : Text)
  | order (names : List Text)
  deriving DecidableEq, Repr

/-- The words for a fault. -/
def ClassFault.message : ClassFault → Text
  | layout => "multiple bases have instance lay-out conflict"
  | duplicate name => "duplicate base class " ++ name
  | order names =>
    "Cannot create a consistent method resolution\norder (MRO) for bases "
      ++ Text.join ", " names

/-! ### Merging orders -/

/-- The first head of the lists that stands behind the head of none. -/
def nextAncestor? (lists : List (List Ancestor)) : Option Ancestor :=
  (lists.filterMap List.head?).find? fun a => lists.all fun l => !(l.drop 1).contains a

/-- The lists without an ancestor at their heads. -/
def dropAncestor (a : Ancestor) (lists : List (List Ancestor)) : List (List Ancestor) :=
  lists.map fun l => if l.head? = some a then l.drop 1 else l

/-- **Merge** orders into one that keeps them all.  The first argument bounds its
length. -/
def mergeOrders : Nat → List (List Ancestor) → Except ClassFault (List Ancestor)
  | 0, _ => .ok []
  | bound + 1, lists =>
    if lists.all List.isEmpty then .ok []
    else
      match nextAncestor? lists with
      | some a => (mergeOrders bound (dropAncestor a lists)).map (a :: ·)
      | none =>
        let heads := lists.filterMap List.head?
        .error (.order ((heads.foldl
          (fun (kept : List Ancestor) a => if kept.contains a then kept else kept ++ [a])
          []).map (·.name)))

namespace Strand

/-- The name of a strand's class. -/
def name (s : Strand) : Text := s.derived.headD s.basic.name

/-- The lineage of the strand with a number. -/
def lineage (number : Nat) (s : Strand) : List Ancestor :=
  s.derived.mapIdx (fun i name => ⟨name, some (number, i)⟩)
    ++ s.basic.names.map fun name => ⟨name, none⟩

/-- The strand of a description: every `Sub:` in front derives once more from what
follows. -/
def ofName : Nat → Text → Strand
  | bound + 1, t =>
    if Text.startsWith "Sub:" t then
      let rest := t.drop 4
      let below := ofName bound rest
      { below with derived := ("Sub" ++ rest) :: below.derived }
    else ⟨[], .ofName t⟩
  | 0, t => ⟨[], .ofName t⟩

end Strand

namespace ErrorClass

/-- The class of a basic one. -/
def ofBasic (c : BasicClass) : ErrorClass := ⟨⟨[], c⟩, []⟩

/-- The class of a sentinel. -/
def sentinel (s : Sentinel) : ErrorClass := ofBasic (.sentinel s)

/-- The class of a bad catalog. -/
def catalog : ErrorClass := ofBasic .catalog

/-- The standard class of a name. -/
def named (name : Text) : ErrorClass := ofBasic (.standard (.named name))

/-- The strands of a class. -/
def strands (c : ErrorClass) : List Strand := c.first :: c.others

/-- The name of the class. -/
def name (c : ErrorClass) : Text := if c.others.isEmpty then c.first.name else "Combined"

/-- The families of the strands that have a layout of their own. -/
def layouts (c : ErrorClass) : List Family :=
  (c.strands.map fun s => s.basic.family).filter Family.hasLayout

/-- The ancestor that occurs twice among some, the first such. -/
def repeated? : List Ancestor → Option Ancestor
  | [] => none
  | a :: rest => if rest.contains a then some a else repeated? rest

/-- **Lineage** of the errors of the class, without the class itself if it is derived
from several. -/
def lineage (c : ErrorClass) : Except ClassFault (List Ancestor) :=
  let orders := c.strands.mapIdx Strand.lineage
  let heads := orders.filterMap List.head?
  if c.others.isEmpty then .ok (orders.headD [])
  else if c.layouts.any (fun f => c.layouts.head? != some f) then .error .layout
  else
    match repeated? heads with
    | some a => .error (.duplicate a.name)
    | none =>
      mergeOrders ((orders.map List.length).foldr (· + ·) 0) (orders ++ [heads])

/-- The names of the lineage; where there is no such class, those of the first strand. -/
def names (c : ErrorClass) : List Text :=
  match c.lineage with
  | .ok ancestors => ancestors.map (·.name)
  | .error _ => c.first.derived ++ c.first.basic.names

/-- **Instance.**  The errors of the class belong to a sentinel, through any chain
of derivations. -/
def isA (t : Sentinel) (c : ErrorClass) : Bool :=
  c.strands.any fun s => s.basic.names.contains t.name

/-- **Ordinary.**  The errors of the class can be caught. -/
def isOrdinary (c : ErrorClass) : Bool :=
  c.strands.any fun s => s.basic.names.contains "Exception"

/-- The sentinel that gives an error its message when it has none. -/
def leadingSentinel? (c : ErrorClass) : Option Sentinel :=
  c.names.findSome? fun name => Sentinel.all.find? (·.name = name)

/-- The family whose way to write messages the errors of the class have. -/
def voice (c : ErrorClass) : Family :=
  (c.names.findSome? fun name =>
    (StandardError.all.find? fun e => e.name = name).bind fun e =>
      if e.family.voice? = some name then some e.family else none).getD .plain

/-- The classes of the lineage that take arguments. -/
def takers (c : ErrorClass) : List Text :=
  c.names.filter fun name =>
    name == Sentinel.brokerError.name
      || (StandardError.all.any fun e => e.name = name && e.name != "ExceptionGroup")

/-- Whether the sentinels take the arguments of the errors of the class. -/
def isTakenBySentinel (c : ErrorClass) : Bool :=
  c.takers.head? == some Sentinel.brokerError.name

/-- The family that takes the arguments of the errors of the class, behind the
sentinels if they do first. -/
def taker (c : ErrorClass) : Family :=
  ((c.takers.find? (· != Sentinel.brokerError.name)).bind StandardError.find?).elim .plain
    (·.family)

/-- The class of a description: descriptions joined by `+` are derived from all at
once. -/
def ofName (t : Text) : ErrorClass :=
  match (Text.split '+' t).map fun part => Strand.ofName part.length part with
  | [] => named t
  | first :: others => ⟨first, others⟩

end ErrorClass
end OpenBroker
