import OpenBroker.Failure.Basic
import OpenBroker.Files
import OpenBroker.Json.Basic
import OpenBroker.Json.Parser

/-!
# Catalogs

A catalog is a document that lists services.  One is built in, and any other is loaded from a
file.
-/
namespace OpenBroker

/-! ## The built-in catalog

A broker that is given no catalog offers one service with one plan.
-/

namespace Catalog

/-- **Built-in catalog.** -/
def builtIn : Json :=
  .object [("services", .array [.object [
    ("id", .string "6c2ed0ef-2a25-4b5d-b1c5-6d4a2f0f4a11"),
    ("name", .string "memory-store"),
    ("description", .string "In-memory key/value store for development"),
    ("bindable", .bool true),
    ("tags", .array [.string "memory", .string "dev"]),
    ("metadata", .object [
      ("displayName", .string "Memory Store"),
      ("providerDisplayName", .string "Broker API")]),
    ("plans", .array [.object [
      ("id", .string "0a9e6a2c-6b1f-4a8e-9a9c-2e8e6f7f1c01"),
      ("name", .string "shared"),
      ("description", .string "Shared in-memory instance"),
      ("free", .bool true)]])]])]

end Catalog

/-! ## Loading a catalog

A catalog file holds one JSON object with a list of services; nothing else about
it is looked at.  The file is UTF-8, and its line ends are made uniform before it is
read, so the positions in an error count a line end of two characters as one.

A file that cannot be opened, that is no JSON or that has the wrong shape makes a
catalog error.  Three causes lie outside: bytes that are no UTF-8, an integer with
too many digits, and a path that cannot be asked for, because it has no bytes or a zero
among them.
-/

namespace Catalog

/-- The key of the list of services. -/
def servicesKey : Text := "services"

/-- **Catalog shape**: an object whose services are an array. -/
def HasShape (j : Json) : Prop := ∃ items, j.member? servicesKey = some (.array items)

/-- Why a catalog cannot be loaded. -/
inductive LoadError
  | unreadable (path : Path) (obstacle : Files.Obstacle)
  | malformed (path : Path) (error : Json.ReadError)
  | noObject
  | noServices
  | undecodable (bytes : List UInt8) (error : Utf8.DecodeError)
  | integerTooLong (digits : Nat)
  | unencodable (path : Path)
  | unaddressable

namespace LoadError

/-- **The error as a failure.** -/
def failure : LoadError → Failure
  | unreadable p o =>
    ofCatalog ("Cannot read catalog file " ++ p.text ++ ": " ++ o.message p)
  | malformed p e =>
    ofCatalog ("Catalog file " ++ p.text ++ " is not valid JSON: " ++ e.message)
  | noObject => ofCatalog "Catalog must be a JSON object"
  | noServices => ofCatalog "Catalog must contain a 'services' list"
  | undecodable bytes e => .undecodable bytes e
  | integerTooLong n => .standard "ValueError" (Literal.tooLongMessage n)
  | unencodable p => ofHalves p.text
  | unaddressable => .standard "ValueError" "embedded null byte"
where
  /-- The error of a bad catalog, with a message. -/
  ofCatalog (message : Text) : Failure := .raised .catalog [.text message]
  /-- The error of a text without bytes.  It is about the halves of surrogate pairs from the
  first one on that stands for no byte, whatever those behind it stand for. -/
  ofHalves (t : Text) : Failure :=
    let fine := t.takeWhile Files.isNameable
    let halves := (t.drop fine.length).takeWhile fun c => !c.isScalar
    .raised (.named "UnicodeEncodeError")
      [.text "utf-8", .text t, .int fine.length, .int (fine.length + halves.length),
        .text "surrogates not allowed"]

end LoadError

/-- The text with every line end written as a single line feed. -/
def uniformLines : Text → Text
  | [] => []
  | [c] => if c = '\r' then ['\n'] else [c]
  | c :: d :: rest =>
    if c = '\r' then
      if d = '\n' then '\n' :: uniformLines rest else '\n' :: uniformLines (d :: rest)
    else c :: uniformLines (d :: rest)

/-- The document, if it has the shape of a catalog. -/
def checked (j : Json) : Except LoadError Json :=
  match j with
  | .object members =>
    match Keyed.find? servicesKey members with
    | some (.array _) => .ok j
    | _ => .error .noServices
  | _ => .error .noObject

/-- The catalog in the bytes of a file. -/
def ofBytes (p : Path) (bytes : List UInt8) : Except LoadError Json :=
  match Utf8.decode bytes with
  | .error e => .error (.undecodable bytes e)
  | .ok t =>
    match Json.read (uniformLines t) with
    | .error (.integerTooLong n) => .error (.integerTooLong n)
    | .error e => .error (.malformed p e)
    | .ok j => checked j

/-- **Load** the catalog at a path. -/
def load (entries : List (Text × Files.Entry)) (path : Text) : Except LoadError Json :=
  let p := Path.ofText path
  if !Files.isEncodable p then .error (.unencodable p)
  else if !Files.isAddressable p then .error .unaddressable
  else
    match Files.read entries p with
    | .error o => .error (.unreadable p o)
    | .ok bytes => ofBytes p bytes

theorem hasShape_of_checked {j k : Json} (h : checked j = .ok k) : k = j ∧ HasShape k := by
  unfold checked at h
  split at h
  · split at h
    · rename_i members items hi
      cases h
      exact ⟨rfl, items, hi⟩
    · cases h
  · cases h

end Catalog
end OpenBroker
