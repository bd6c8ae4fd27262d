import OpenBroker.Client.Numeric
import OpenBroker.Failure.Basic
import OpenBroker.Text.Quoted

/-!
# References

A reference is an address, or the part of one that differs from the address it is read
against.  It consists of a scheme, an authority, a path, a query and a fragment, any of
which may be missing.  The last segment of a path may have parameters behind a semicolon.

Whatever the text, it has these parts, unless the authority is one that cannot be told
from others: brackets enclose a numeric host and nothing else, and no character of it may
stand for one of the marks that end an authority.
-/
namespace OpenBroker
namespace Client

/-- **Reference.** -/
structure Reference where
  scheme : Text
  authority : Text
  path : Text
  query : Text
  fragment : Text
  deriving DecidableEq, Repr

namespace Reference

/-- Why a text is no reference. -/
inductive Fault
  | brackets
  | futureNumber
  | fourInBrackets
  | noNumber (host : Text)
  | deceptive (authority : Text)
  deriving DecidableEq, Repr

/-- The words for a fault. -/
def Fault.message : Fault → Text
  | brackets => "Invalid IPv6 URL"
  | futureNumber => "IPvFuture address is invalid"
  | fourInBrackets => "An IPv4 address cannot be in brackets"
  | noNumber t => Text.quoted t ++ " does not appear to be an IPv4 or IPv6 address"
  | deceptive t =>
    "netloc '" ++ t ++ "' contains invalid characters under NFKC normalization"

/-- The fault as a failure. -/
def Fault.failure (f : Fault) : Failure := .standard "ValueError" f.message

/-! ## Authorities -/

/-- A number of a version that is not known yet: `v`, the version, a point, and more. -/
def isFuture (t : Text) : Bool :=
  let (version, number?) := Text.cut '.' (t.drop 1)
  !version.isEmpty && version.all (fun c => c.hexValue?.isSome)
    && (number?.map fun n => !n.isEmpty).getD false

/-- A number of the sixth version, perhaps with a zone behind a percent sign. -/
def isZonedSix (t : Text) : Bool :=
  match Text.cut '%' t with
  | (number, none) => Numeric.isSix Numeric.isByte number
  | (number, some zone) =>
    Numeric.isSix Numeric.isByte number && !zone.isEmpty && !zone.contains '%'

/-- What is wrong with a host between brackets. -/
def bracketFault? (t : Text) : Option Fault :=
  if t.head? = some ('v' : CodePoint) then if isFuture t then none else some .futureNumber
  else if Numeric.isFour Numeric.isByte t then some .fourInBrackets
  else if isZonedSix t then none
  else some (.noNumber t)

/-- The characters that stand for marks of an address, or for several characters with
one among them. -/
def deceptive : List Nat :=
  [0x2047, 0x2048, 0x2049, 0x2100, 0x2101, 0x2105, 0x2106, 0x2A74, 0xFE13, 0xFE16, 0xFE55,
    0xFE56, 0xFE5F, 0xFE6B, 0xFF03, 0xFF0F, 0xFF1A, 0xFF1F, 0xFF20]

/-- What is wrong with an authority. -/
def authorityFault? (t : Text) : Option Fault :=
  if t.contains '[' != t.contains ']' then some .brackets
  else
    (if t.contains '[' then
      bracketFault? (Text.cut ']' (((Text.cut '[' t).2).getD [])).1
    else none).or
      (if t.any fun c => deceptive.contains c.val then some (.deceptive t) else none)

/-! ## Reading -/

/-- The scheme at the beginning of a text, and what stands behind its colon.  Some marks
may stand in a scheme. -/
def cutScheme (isMark : CodePoint → Bool) (t : Text) : Option (Text × Text) :=
  match Text.cut ':' t with
  | (c :: rest, some after) =>
    if c.isAsciiLetter && rest.all fun d => d.isAsciiLetter || d.isAsciiDigit || isMark d then
      some (c :: rest, after)
    else none
  | _ => none

/-- The marks of schemes. -/
def isSchemeMark (c : CodePoint) : Bool := c == '+' || c == '-' || c == '.'

/-- Whether a character is lost wherever it stands. -/
def isLost (c : CodePoint) : Bool := c == '\t' || c == '\n' || c == '\r'

/-- **The reference of a text**, with a scheme for those that have none. -/
def ofText (default t : Text) : Except Fault Reference :=
  let t := (t.dropWhile fun c => c.val ≤ 0x20).filter fun c => !isLost c
  let (scheme, t) := match cutScheme isSchemeMark t with
    | some (scheme, after) => (Text.asciiLower scheme, after)
    | none => (default, t)
  let (authority, t) : Text × Text :=
    if Text.startsWith "//" t then
      let body := t.drop 2
      let authority := body.takeWhile fun (c : CodePoint) => c != '/' && c != '?' && c != '#'
      (authority, body.drop authority.length)
    else ([], t)
  match authorityFault? authority with
  | some f => .error f
  | none =>
    let (t, fragment?) := Text.cut '#' t
    let (path, query?) := Text.cut '?' t
    .ok ⟨scheme, authority, path, query?.getD [], fragment?.getD []⟩

/-! ## Writing -/

/-- The schemes whose paths have parameters. -/
def parameterSchemes : List Text :=
  ["", "ftp", "hdl", "prospero", "http", "imap", "https", "shttp", "rtsp", "rtsps", "rtspu",
    "sip", "sips", "mms", "sftp", "tel"]

/-- The schemes with authorities. -/
def authoritySchemes : List Text :=
  ["ftp", "http", "gopher", "nntp", "telnet", "imap", "wais", "file", "mms", "https", "shttp",
    "snews", "prospero", "rtsp", "rtsps", "rtspu", "rsync", "svn", "svn+ssh", "sftp", "nfs",
    "git", "git+ssh", "ws", "wss"]

/-- The schemes whose references can be relative. -/
def relativeSchemes : List Text :=
  ["", "ftp", "http", "gopher", "nntp", "imap", "wais", "file", "https", "shttp", "mms",
    "prospero", "rtsp", "rtsps", "rtspu", "sftp", "svn", "svn+ssh", "ws", "wss"]

/-- A component with a mark in front of it, if there is one. -/
def marked (mark : CodePoint) (component : Text) : Text :=
  if component.isEmpty then [] else mark :: component

/-- The path without the parameters of its last segment, and the parameters. -/
def cutParameters (r : Reference) : Text × Text :=
  if parameterSchemes.contains r.scheme then
    let segments := Text.split '/' r.path
    match Text.cut ';' (segments.getLastD []) with
    | (last, some parameters) => (Text.join "/" (segments.dropLast ++ [last]), parameters)
    | (_, none) => (r.path, [])
  else (r.path, [])

/-- **The text of a reference**, without marks of components that are missing. -/
def text (r : Reference) : Text :=
  let (path, parameters) := cutParameters r
  let path := path ++ marked ';' parameters
  let isAbsolute : Bool :=
    !r.authority.isEmpty || authoritySchemes.contains r.scheme || Text.startsWith "//" path
  let path : Text :=
    if isAbsolute && !path.isEmpty && !Text.startsWith "/" path then '/' :: path else path
  let scheme : Text := if r.scheme.isEmpty then [] else r.scheme ++ ":"
  let slashes : Text := if isAbsolute then "//" else []
  scheme ++ slashes ++ r.authority ++ path ++ marked '?' r.query ++ marked '#' r.fragment

/-! ## Resolving -/

/-- The segments of a path without the dot segments: a single dot is dropped, two dots
drop the segment before them, if there is one. -/
def withoutDots (segments : List Text) : List Text :=
  segments.foldl
    (fun (kept : List Text) (s : Text) =>
      if s = "." then kept else if s = ".." then kept.dropLast else kept ++ [s]) []

/-- Whether the last of the segments is a dot segment. -/
def endsInDots (segments : List Text) : Bool :=
  let last : Text := segments.getLastD []
  last == "." || last == ".."

/-- The segments without empty ones between the first and the last. -/
def withoutGaps (segments : List Text) : List Text :=
  match segments with
  | [] => []
  | first :: rest => first :: (rest.dropLast.filter fun s => !s.isEmpty) ++ rest.getLast?.toList

/-- A path read against another one. -/
def resolvedPath (base path : Text) : Text :=
  let here := Text.split '/' base
  let here := if (here.getLastD []).isEmpty then here else here.dropLast
  let segments :=
    if Text.startsWith "/" path then Text.split '/' path
    else withoutGaps (here ++ Text.split '/' path)
  let kept := withoutDots segments ++ if endsInDots segments then [[]] else []
  match Text.join "/" kept with
  | [] => "/"
  | path => path

/-- **A text read against an address**: the address that it refers to. -/
def resolve (base t : Text) : Except Fault Text := do
  if t.isEmpty then .ok base
  else
    let b ← ofText [] base
    let r ← ofText b.scheme t
    if r.scheme != b.scheme || !relativeSchemes.contains r.scheme then .ok t
    else if !r.authority.isEmpty then .ok r.text
    else
      let r := { r with authority := b.authority }
      let (path, parameters) := cutParameters r
      if path.isEmpty && parameters.isEmpty then
        .ok (text { r with
          path := b.path, query := if r.query.isEmpty then b.query else r.query })
      else
        .ok (text { r with
          path := resolvedPath (cutParameters b).1 path ++ marked ';' parameters })

/-- What a server is asked for at the address: the path and the query. -/
def target (r : Reference) : Text :=
  let path : Text := if r.path.isEmpty then "/" else r.path
  path ++ marked '?' r.query

end Reference
end Client
end OpenBroker
