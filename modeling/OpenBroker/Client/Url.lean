import OpenBroker.Client.Message
import OpenBroker.Client.Reference
import OpenBroker.Domain.Name
import OpenBroker.Http.Percent
import OpenBroker.Number.Decimal
import OpenBroker.Text.Case
import OpenBroker.Text.Class
import OpenBroker.Text.Quoted

/-!
# Addresses

An address that an operator wrote is prepared before anything is sent to it: scheme and
host are put into lower case, a host outside ASCII gets its ASCII form, the path is freed
from its dot segments, what may not stand in an address is percent-encoded, and letters,
digits and marks that are encoded without need are decoded.

A percent sign that begins no escape makes every percent sign of its component a
character of its own, so that no half-written escape is mistaken for a whole one.

Only addresses of the schemes `http` and `https` can be used.  What cannot be prepared
is refused with a cause.
-/
namespace OpenBroker
namespace Client
namespace Url

/-- Why an address cannot be used. -/
inductive Refusal
  | unsupported (address : Text)
  | malformed (address : Text)
  | badHost (text : Text)
  | badCharacter (host : Text) (c : CodePoint)
  | badEscape (host escape : Text)
  | badName (label : Text)
  | badLabel
  | noScheme (address : Text)
  | noHost (address : Text)
  deriving DecidableEq, Repr

/-- The words for a refusal. -/
def Refusal.message : Refusal → Text
  | unsupported t => "No connection adapters were found for " ++ Text.quoted t
  | malformed t => unparsable t
  | badHost t => unparsable (Text.quoted t ++ " is not a valid host or port")
  | badCharacter host c =>
    unparsable ("Host " ++ Text.quoted host ++ " contains invalid character " ++ Text.quoted [c])
  | badEscape host escape =>
    unparsable ("Host " ++ Text.quoted host
      ++ " contains invalid percent-encoded control character " ++ Text.quoted escape)
  | badName label => unparsable ("Name '" ++ label ++ "' is not a valid IDNA label")
  | badLabel => "URL has an invalid label."
  | noScheme t =>
    "Invalid URL " ++ Text.quoted t ++ ": No scheme supplied. Perhaps you meant https://" ++ t
      ++ "?"
  | noHost t => "Invalid URL " ++ Text.quoted t ++ ": No host supplied"
where
  /-- The message about a text that cannot be taken apart. -/
  unparsable (what : Text) : Text := "Failed to parse: " ++ what

/-! ## Characters -/

/-- A mark that delimits inside a component. -/
def isSubDelimiter (c : CodePoint) : Bool :=
  let marks : Text := "!$&'()*+,;="
  marks.contains c

/-- A character of the part of an authority in front of the host. -/
def isUserCharacter (c : CodePoint) : Bool :=
  Percent.isUnreserved c || isSubDelimiter c || c == ':'

/-- A character of a path. -/
def isPathCharacter (c : CodePoint) : Bool := isUserCharacter c || c == '@' || c == '/'

/-- A character of a query or a fragment. -/
def isQueryCharacter (c : CodePoint) : Bool := isPathCharacter c || c == '?'

/-- A character that an address may hold anywhere, the percent sign apart. -/
def isAddressCharacter (c : CodePoint) : Bool :=
  let marks : Text := "!#$&'()*+,/:;=?@[]~"
  Percent.isUnreserved c || marks.contains c

/-- A control character. -/
def isControl (n : Nat) : Bool := n < 0x20 || n == 0x7F

/-- Whether two characters are hexadecimal digits. -/
def areHex (a b : CodePoint) : Bool := a.hexValue?.isSome && b.hexValue?.isSome

/-! ## Percent signs -/

/-- Every percent sign of a text begins an escape. -/
def escapesWhole : Text → Bool
  | [] => true
  | c :: rest =>
    if c = '%' then
      match rest with
      | a :: b :: _ => areHex a b && escapesWhole rest
      | _ => false
    else escapesWhole rest

/-- The hexadecimal digits of every escape in upper case. -/
def upperEscapes : Text → Text
  | c :: a :: b :: rest =>
    if c = '%' && areHex a b then c :: a.asciiUpper :: b.asciiUpper :: upperEscapes rest
    else c :: upperEscapes (a :: b :: rest)
  | t => t

/-- A component with everything outside a class encoded; percent signs are kept if all
of them begin escapes. -/
def encodeComponent (allowed : CodePoint → Bool) (t : Text) : Text :=
  let t := upperEscapes t
  let whole := escapesWhole t
  Percent.encode (fun c => allowed c || (whole && c == '%')) t

/-- The value of a hexadecimal digit, or of a decimal digit of any script. -/
def digitValue? (c : CodePoint) : Option Nat := (c.hexValue?).or (Text.digit? c)

/-- A text with the escapes of unreserved characters decoded; nothing if letters or
digits that are not hexadecimal follow a percent sign. -/
def decodeUnreserved? : Text → Option Text
  | c :: a :: b :: rest =>
    if c = '%' && Text.isAlphanumeric a && Text.isAlphanumeric b then
      match digitValue? a, digitValue? b with
      | some m, some n =>
        let d := CodePoint.ofNat (16 * m + n)
        if Percent.isUnreserved d then (decodeUnreserved? rest).map (d :: ·)
        else (decodeUnreserved? rest).map fun t => c :: a :: b :: t
      | _, _ => none
    else (decodeUnreserved? (a :: b :: rest)).map (c :: ·)
  | t => some t

/-- **Canonical escapes**: unreserved characters stand for themselves, and everything
that an address cannot hold is encoded. -/
def canonical (t : Text) : Text :=
  match decodeUnreserved? t with
  | some t => Percent.encode (fun c => isAddressCharacter c || c == '%') t
  | none => Percent.encode isAddressCharacter t

/-! ## Paths -/

/-- A path without dot segments.  It begins with a slash if it did before, and ends with
one if its last segment was a dot segment. -/
def removeDots (path : Text) : Text :=
  let segments := Text.split '/' path
  let kept := Reference.withoutDots segments
  let isRooted : Bool := kept.length != 0 && (kept.headD []).isEmpty
  let front : List Text := if Text.startsWith "/" path && !isRooted then [[]] else []
  let back : List Text :=
    if segments.length != 1 && Reference.endsInDots segments then [[]] else []
  Text.join "/" (front ++ kept ++ back)

/-! ## Authorities -/

/-- A text cut at its last occurrence of a mark: what stands before it, if it occurs, and
the rest. -/
def cutLast (mark : CodePoint) (t : Text) : Option Text × Text :=
  match Text.cut mark t.reverse with
  | (after, some before) => (some before.reverse, after.reverse)
  | (_, none) => (none, t)

/-- The text without a single line feed at its end. -/
def dropLineFeed (t : Text) : Text :=
  if t.getLast? = some ('\n' : CodePoint) then t.dropLast else t

/-- **Socket number** in digits, at most five of them behind the zeros. -/
def socket? (t : Text) : Option Nat :=
  let ds := dropLineFeed t
  let significant := ds.dropWhile (· == ('0' : CodePoint))
  if ds.all CodePoint.isAsciiDigit && significant.length ≤ 5 then
    some (Decimal.toNat significant)
  else none

/-- The greatest number of a socket. -/
def socketLimit : Nat := 65535

/-- A host that is a name: no brackets, and percent signs in escapes only. -/
def isName (t : Text) : Bool := escapesWhole t && !t.any fun c => c == '[' || c == ']'

/-- The zone of a numeric host, behind its percent sign. -/
def zone? (t : Text) : Option Text :=
  let name : Text := if Text.startsWith "25" t && t.length != 2 then t.drop 2 else t
  let unescaped := t.filter (· != ('%' : CodePoint))
  if !t.isEmpty && escapesWhole t && unescaped.all Percent.isUnreserved then
    some (encodeComponent Percent.isUnreserved name)
  else none

/-- **Host**, as it stands in an address. -/
inductive Host
  | name (t : Text)
  /-- A number between brackets, perhaps with a zone: as it stands, and in its normal
  form. -/
  | bracketed (plain normal : Text)
  deriving DecidableEq, Repr

/-- A host put between brackets. -/
def inBrackets (t : Text) : Text := "[" ++ t ++ "]"

/-- The host of a text between brackets. -/
def bracketed? (t : Text) : Option Host :=
  match Text.cut '%' t with
  | (number, none) =>
    if Numeric.isSix Numeric.isShort number then
      some (.bracketed (inBrackets t) (inBrackets (Text.asciiLower number)))
    else none
  | (number, some zone) =>
    match Numeric.isSix Numeric.isShort number, zone? zone with
    | true, some z =>
      some (.bracketed (inBrackets t) (inBrackets (Text.asciiLower number ++ "%" ++ z)))
    | _, _ => none

/-- **Host and socket** of the part of an authority behind the user; a missing number of
the socket is zero. -/
def hostAndSocket? (t : Text) : Option (Host × Nat) :=
  let marked? (after : Text) : Option Nat :=
    match dropLineFeed after with
    | [] => some 0
    | c :: ds => if c = ':' then socket? ds else none
  if Text.startsWith "[" t then
    match Text.cut ']' (t.drop 1) with
    | (inner, some after) => do
      let host ← bracketed? inner
      let number ← marked? after
      some (host, number)
    | (_, none) => none
  else
    let name := t.takeWhile (· != (':' : CodePoint))
    if isName name then (marked? (t.drop name.length)).map fun number => (.name name, number)
    else none

/-- The escapes of a host: those of control characters are refused, those of unreserved
characters are decoded, and the others are written in upper case. -/
def plainEscapes (host : Text) : Text → Except Refusal Text
  | c :: a :: b :: rest =>
    match if c = '%' then a.hexValue? else none, b.hexValue? with
    | some m, some n => do
      let d := CodePoint.ofNat (16 * m + n)
      if isControl d.val then .error (.badEscape host [c, a, b])
      else
        let rest ← plainEscapes host rest
        .ok (if Percent.isUnreserved d then d :: rest
          else c :: a.asciiUpper :: b.asciiUpper :: rest)
    | _, _ => (plainEscapes host (a :: b :: rest)).map (c :: ·)
  | t => .ok t

/-- Letters in lower case, except for those of escapes. -/
def lowerOutsideEscapes : Text → Text
  | c :: a :: b :: rest =>
    if c = '%' then c :: a :: b :: lowerOutsideEscapes rest
    else c.asciiLower :: lowerOutsideEscapes (a :: b :: rest)
  | t => Text.asciiLower t

/-- A label in its normal form. -/
def normalLabel (t : Text) : Except Refusal Text :=
  if t.all (·.val < 0x80) then .ok (lowerOutsideEscapes t)
  else
    match Domain.asciiForm? (Text.lower t) with
    | some form => .ok form
    | none => .error (.badName t)

/-- The labels in their normal forms. -/
def normalLabels : List Text → Except Refusal (List Text)
  | [] => .ok []
  | label :: rest => do
    let form ← normalLabel label
    let forms ← normalLabels rest
    .ok (form :: forms)

/-- **A host in its normal form.**  A number is kept as it stands. -/
def Host.normal : Host → Except Refusal Text
  | bracketed _ normal => .ok normal
  | name t =>
    if Numeric.isLoose t then .ok t
    else
      match t.find? (fun (c : CodePoint) => isControl c.val || c == ' ') with
      | some c => .error (.badCharacter t c)
      | none => do
        let plain ← plainEscapes t t
        let forms ← normalLabels (Text.split '.' plain)
        .ok (Text.join "." forms)

/-- A host as it stands, but in ASCII. -/
def Host.asItStands : Host → Except Refusal Text
  | bracketed plain _ => .ok plain
  | name t =>
    if t.all (·.val < 0x80) then .ok t
    else
      match Domain.asciiName? t with
      | some form => .ok form
      | none => .error .badLabel

/-! ## Preparing -/

/-- **Components** of a text, as they stand: the scheme and the authority are missing
where there are none. -/
structure Components where
  scheme? : Option Text
  authority? : Option Text
  path : Text
  query : Text
  fragment : Text

/-- The components of a text.  A text that begins neither with a scheme nor with a slash
is taken to begin with an authority. -/
def components (t : Text) : Components :=
  let begins : Bool :=
    Text.startsWith "/" t || (Reference.cutScheme (fun c => c == '+' || c == '-') t).isSome
  let t : Text := if begins then t else "//" ++ t
  let (scheme?, t) := match Reference.cutScheme Reference.isSchemeMark t with
    | some (scheme, after) => (some (Text.asciiLower scheme), after)
    | none => (none, t)
  let (t, fragment?) := Text.cut '#' t
  let (t, query?) := Text.cut '?' t
  let (authority?, path) : Option Text × Text :=
    if Text.startsWith "//" t then
      let body := t.drop 2
      let authority := body.takeWhile fun (c : CodePoint) => c != '/' && c != '\\'
      (some authority, body.drop authority.length)
    else (none, t)
  ⟨scheme?, authority?, path, query?.getD [], fragment?.getD []⟩

/-- The schemes that can be used. -/
def schemes : List Text := ["http", "https"]

/-- A component in its normal form, if it is to have one. -/
def normalised (normal : Bool) (allowed : CodePoint → Bool) (t : Text) : Text :=
  if normal then encodeComponent allowed t else t

/-- The path in its normal form, with a slash at its beginning. -/
def normalPath (normal : Bool) (path : Text) : Text :=
  let path := normalised normal isPathCharacter (if normal then removeDots path else path)
  if Text.startsWith "/" path then path else '/' :: path

/-- The authority put together from a user, a host and the number of a socket. -/
def joinAuthority (user host : Text) (number : Nat) : Text :=
  let user : Text := if user.isEmpty then [] else user ++ "@"
  let socket : Text := if number = 0 then [] else ":" ++ Decimal.ofNat number
  user ++ host ++ socket

/-- The address of a text that may be one: complaints come in this order: a malformed
authority, a socket that does not exist, a bad host, no scheme, no host, a name without
ASCII form. -/
def ofAddress (t : Text) : Except Refusal Text :=
  let parts := components t
  let normal := match parts.scheme? with
    | none => true
    | some s => schemes.contains s
  let (user?, hostPart) := cutLast '@' (parts.authority?.getD [])
  match hostAndSocket? hostPart with
  | none => .error (.badHost hostPart)
  | some (host, number) => do
    if socketLimit < number then .error (.malformed t)
    else
      let known ← if normal then host.normal.map some else .ok none
      match parts.scheme? with
      | none => .error (.noScheme t)
      | some scheme =>
        if host = .name [] then .error (.noHost t)
        else
          let host ← match known with
            | some host => .ok host
            | none => host.asItStands
          if host.head? = some ('*' : CodePoint) ∨ host.head? = some ('.' : CodePoint) then
            .error .badLabel
          else
            let user := normalised normal isUserCharacter (user?.getD [])
            .ok <| canonical <|
              scheme ++ "://" ++ joinAuthority user host number ++ normalPath normal parts.path
                ++ Reference.marked '?' (normalised normal isQueryCharacter parts.query)
                ++ Reference.marked '#' (normalised normal isQueryCharacter parts.fragment)

/-- Whether an address has a scheme that can be used. -/
def isSupported (t : Text) : Bool :=
  schemes.any fun s => Text.startsWith (s ++ "://") (Text.asciiLower t)

/-- **Check** an address that is put together: it has to be a reference, and then to be
one that can be used. -/
def check (t : Text) : Except Trouble Text :=
  match Reference.ofText [] t with
  | .error f => .error (.breakdown f.failure)
  | .ok _ =>
    if isSupported t then .ok t else .error (.complaint (Refusal.unsupported t).message)

/-- **Prepare** an address: blanks in front of it are dropped, and it has to be one that
can be used. -/
def prepare (t : Text) : Except Trouble Text :=
  let t := Text.stripStart t
  if t.contains ':' && !Text.startsWith "http" (Text.asciiLower t) then check t
  else
    match ofAddress t with
    | .error r => .error (.complaint r.message)
    | .ok address => check address

end Url
end Client
end OpenBroker
