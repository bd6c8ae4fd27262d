import OpenBroker.Application
import OpenBroker.Proofs.Delivery
import OpenBroker.Proofs.JsonAscii
import OpenBroker.Proofs.Settings
import OpenBroker.Proofs.Utf8

/-! # The catalog is served as it was written

A catalog goes a long way from its file to a client.  The bytes are decoded, the line ends made
uniform, the text is read, the document checked and made a value, and in the end the value is
written as a document again.  If the file was written in the first place, every step undoes
one of the writing, or changes nothing: so the client gets the file.

Nothing that happens in between can change this, as no state of the broker has a part in it.
-/
namespace OpenBroker

/-! ## From the file to the document -/

namespace Catalog

variable {d : Json}

theorem uniformLines_of_plain : ∀ {t : Text}, t.Plain → uniformLines t = t
  | [], _ => rfl
  | [c], plain => by
    have noReturn : c ≠ '\r' := by
      rintro rfl
      exact absurd plain (by decide)
    rw [uniformLines, if_neg noReturn]
  | c :: d :: rest, plain => by
    have noReturn : c ≠ '\r' := by
      rintro rfl
      exact absurd (plain _ (List.mem_cons_self ..)) (by decide)
    rw [uniformLines, if_neg noReturn, uniformLines_of_plain (Text.plain_cons.mp plain).2]

theorem checked_of_hasShape (shape : HasShape d) : checked d = .ok d := by
  obtain ⟨items, services⟩ := shape
  cases d with
  | object members =>
    rw [Json.member?] at services
    rw [checked]
    simp only [services]
  | _ => cases services

/-- **The document of a written file** is the one that was written. -/
theorem ofBytes_encode_text (p : Path) (regular : d.Regular) (shape : HasShape d) :
    ofBytes p (Utf8.encode (Json.text d)) = .ok d := by
  have plain : (Json.text d).Plain := Json.plain_write Json.proper_spaced d
  have read : Json.read (Json.text d) = .ok d := Json.read_write Json.proper_spaced regular
  rw [ofBytes, Utf8.decode_encode plain.isScalar]
  simp only [uniformLines_of_plain plain, read]
  exact checked_of_hasShape shape

end Catalog

/-! ## From the document to the answer -/

namespace Value

theorem writable_of_short {n : Int} (short : n.natAbs < Nat.pow 10 Literal.digitLimit) :
    writable n = .ok n :=
  if_neg (Nat.not_lt.mpr (Decimal.length_ofNat_le (by decide) short))

theorem documents_ofItems {js : List Json} (documents : ∀ j ∈ js, (ofJson j).document = .ok j) :
    Value.documents (ofItems js) = .ok js := by
  induction js with
  | nil => rfl
  | cons j rest ih =>
    rw [ofItems, Value.documents, documents j (List.mem_cons_self ..),
      ih fun j hj => documents j (List.mem_cons_of_mem _ hj)]
    rfl

theorem memberDocuments_ofMembers {es : List (Text × Json)}
    (documents : ∀ e ∈ es, (ofJson e.2).document = .ok e.2) :
    memberDocuments (ofMembers es) = .ok es := by
  induction es with
  | nil => rfl
  | cons e rest ih =>
    have here : (ofJson e.2).document = .ok e.2 := documents e (List.mem_cons_self ..)
    rw [ofMembers, memberDocuments, here, ih fun e he => documents e (List.mem_cons_of_mem _ he)]
    rfl

/-- **A legible document is a value**, and it is the document of this value. -/
theorem document_ofJson {j : Json} (legible : j.Legible) : (ofJson j).document = .ok j := by
  induction legible with
  | null | bool | real | string => rfl
  | int n short =>
    rw [ofJson, document, writable_of_short short]
    rfl
  | array items legible ih =>
    rw [ofJson, document, documents_ofItems ih]
    rfl
  | object members legible ih =>
    rw [ofJson, document, memberDocuments_ofMembers ih]
    rfl

theorem jsonText_ofJson {j : Json} (legible : j.Legible) :
    (ofJson j).jsonText = .ok (Json.text j) := by
  rw [jsonText, document_ofJson legible]
  rfl

end Value

/-! ## Starting with the catalog -/

namespace Catalog

variable {d : Json} {entries : List (Text × Files.Entry)} {path : Text}

/-- **A written catalog file**: it can be asked for, and holds the text of a document. -/
structure Stored (entries : List (Text × Files.Entry)) (path : Text) (d : Json) : Prop where
  addressable : Files.isAddressable (Path.ofText path) = true
  content : Files.read entries (Path.ofText path) = .ok (Utf8.encode (Json.text d))

/-- **A written catalog is loaded** as it was written. -/
theorem load_of_stored (regular : d.Regular) (shape : HasShape d) (stored : Stored entries path d) :
    load entries path = .ok d := by
  have encodable : Files.isEncodable (Path.ofText path) = true :=
    (Bool.and_eq_true_iff.mp stored.addressable).1
  rw [load]
  simp only [encodable, stored.addressable, stored.content, Bool.not_true, Bool.false_eq_true,
    if_false]
  exact ofBytes_encode_text _ regular shape

/-- What is read is in a file. -/
theorem isFile_of_read {p : Path} {content : List UInt8} (h : Files.read entries p = .ok content) :
    Files.isFile entries p = .ok true := by
  unfold Files.read at h
  unfold Files.isFile
  split at h <;> simp_all

/-- The working directory is no file. -/
theorem ne_nil_of_stored (stored : Stored entries path d) : path ≠ [] := by
  rintro rfl
  -- the empty path leads nowhere else, and a directory cannot be read
  have content := stored.content
  cases content

end Catalog

namespace Settings

variable {env : Environment} {entries : List (Text × Files.Entry)}

/-- An environment is accepted with a catalog that is a file, if the numbers and names in it
are. -/
theorem load_of_stored {path : Text} {d : Json} {n : Int} {t : Text}
    (catalog : value? env catalogVariable = some path) (stored : Catalog.Stored entries path d)
    (limit : integer env limitVariable Config.default.instanceLimit 0 = .ok n)
    (level_ : level env levelVariable Config.default.logLevel = .ok t) :
    ∃ c, load env entries = .ok c ∧ c.catalogPath? = some path ∧ 0 ≤ c.instanceLimit ∧
      c.level?.isSome = true := by
  have named : catalogPath env entries = .ok (some path) := by
    rw [catalogPath, catalog]
    simp only [stored.addressable, Catalog.isFile_of_read stored.content, Bool.not_true,
      Bool.false_eq_true, if_false]
  have least : (0 : Int) ≤ n := le_of_integer (by decide) limit
  obtain ⟨-, l, -, named_⟩ := exists_ofName?_of_level level_
  have known : (Log.Level.ofText? t).isSome = true := Option.isSome_of_eq_some named_
  refine ⟨⟨some path, n, (value? env dashboardVariable).getD [], t,
    (value? env loggerVariable).getD Config.default.loggerName⟩, ?_, rfl, least, known⟩
  rw [load, named, limit, level_]
  rfl

end Settings

namespace Application

open Http Catalog

variable {given : Option Config} {env : Environment} {loggerGiven : Bool}
  {entries : List (Text × Files.Entry)} {path : Text} {d : Json} {c : Config}

/-- **A configuration names a catalog file** and is acceptable in everything else, whether it is
given or made from the environment. -/
def Names (given : Option Config) (env : Environment) (loggerGiven : Bool) (path : Text) : Prop :=
  match given with
  | some c =>
    c.catalogPath? = some path ∧ 0 ≤ c.instanceLimit ∧
      (loggerGiven = true ∨ c.level?.isSome = true)
  | none =>
    Settings.value? env Settings.catalogVariable = some path ∧
      (∃ n, Settings.integer env Settings.limitVariable Config.default.instanceLimit 0 = .ok n) ∧
      ∃ t, Settings.level env Settings.levelVariable Config.default.logLevel = .ok t

theorem exists_configuration (names : Names given env loggerGiven path)
    (stored : Stored entries path d) :
    ∃ c printed, configuration given env entries = .ok (c, printed) ∧
      c.catalogPath? = some path ∧ 0 ≤ c.instanceLimit ∧
        (loggerGiven = true ∨ c.level?.isSome = true) := by
  cases given with
  | some c => exact ⟨c, [], rfl, names⟩
  | none =>
    obtain ⟨catalog, ⟨n, limit⟩, t, level⟩ := names
    obtain ⟨c, load, path, least, known⟩ := Settings.load_of_stored catalog stored limit level
    refine ⟨c, c.summary, ?_, path, least, .inr known⟩
    exact Settings.tell_of_load load

theorem exists_memory (regular : d.Regular) (shape : HasShape d) (stored : Stored entries path d)
    (named : c.catalogPath? = some path) (least : 0 ≤ c.instanceLimit) :
    ∃ m, memory entries c = .ok m ∧ m.catalog = Value.ofJson d := by
  obtain ⟨first, rest, rfl⟩ := List.exists_cons_of_ne_nil (ne_nil_of_stored stored)
  rw [memory, named]
  simp only [load_of_stored regular shape stored, Memory.create, if_neg (Int.not_lt.mpr least)]
  exact ⟨_, rfl, rfl⟩

theorem exists_registry (known : loggerGiven = true ∨ c.level?.isSome = true) :
    ∃ r, registry loggerGiven c = .ok r := by
  unfold registry
  by_cases h : loggerGiven = true
  · rw [if_pos h]
    exact ⟨_, rfl⟩
  · obtain ⟨level, found⟩ := Option.isSome_iff_exists.mp (known.resolve_left h)
    have named : Log.Level.ofText? c.logLevel = some level := found
    rw [if_neg h, Log.Registry.configure, named]
    exact ⟨_, rfl⟩

/-- **The application starts** with a written catalog. -/
theorem exists_start (regular : d.Regular) (shape : HasShape d) (stored : Stored entries path d)
    (names : Names given env loggerGiven path) :
    ∃ a, start given (memory entries) loggerGiven env entries = .ok a ∧
      a.broker.catalog = Value.ofJson d := by
  obtain ⟨c, printed, config, named, least, known⟩ := exists_configuration names stored
  obtain ⟨m, made, catalog⟩ := exists_memory regular shape stored named least
  obtain ⟨r, logging⟩ := exists_registry known
  refine ⟨⟨c, m, r, loggerGiven, printed⟩, ?_, catalog⟩
  rw [start, config]
  simp only [bind, Except.bind, made, logging]

end Application

/-! ## Asking for the catalog -/

namespace Http

variable {r : Request}

theorem task_eq_catalog (verb : r.verb = "GET") (path : rooted r.path = "/v2/catalog") :
    r.task = .inl .catalog := by
  have route : r.route = .endpoint .catalog :=
    Request.route_eq_endpoint_iff.mpr ⟨by rw [path]; decide, by rw [verb]; decide⟩
  rw [Request.task, route, verb]
  rfl

/-- A request for the catalog is answered with what is made of the answer of the broker. -/
theorem serve_of_catalog {σ : Type} (broker : Broker σ) (verb : r.verb = "GET")
    (path : rooted r.path = "/v2/catalog") (s : σ) :
    serve broker r s =
      (answered .catalog (broker.answer .catalog s).1, (broker.answer .catalog s).2) := by
  have whole : r.isForHead = false :=
    Request.isForHead_of_verb_ne (by rw [verb]; decide)
  rw [serve, task_eq_catalog verb path]
  simp only [Served.asAsked, whole, Bool.false_eq_true, if_false]

/-- A catalog with a document is answered with this document, in any state. -/
theorem serve_catalog (m : Memory) (passwords : Nat → Text) {d : Json} (legible : d.Legible)
    (catalog : m.catalog = Value.ofJson d) (verb : r.verb = "GET")
    (path : rooted r.path = "/v2/catalog") (s : Memory.State) :
    serve (m.broker passwords) r s =
      (⟨.ok (Reply.json 200 (Json.text d)), [.catalog], [], none⟩, s) := by
  have answer : (m.broker passwords).answer .catalog s = (.ok (Value.ofJson d), s) := by
    rw [← catalog]
    rfl
  rw [serve_of_catalog _ verb path, answer]
  simp only [answered, Served.value, Value.jsonText_ofJson legible]
  rfl

end Http

namespace Application

open Http

/-- **The catalog is served as it was written.**  A file holds the text of a regular document
with a list of services.  Then the document is loaded as it is, with all members in their
order; the application starts with every configuration that names the file and is acceptable in
everything else; and whatever was asked before, a `GET` for the catalog is answered with 200 and
with a body that is the file byte by byte. -/
theorem serve_catalog_as_written {entries : List (Text × Files.Entry)} {path : Text} {d : Json}
    (regular : d.Regular) (shape : Catalog.HasShape d) (stored : Catalog.Stored entries path d) :
    Catalog.load entries path = .ok d ∧
      ∀ given env loggerGiven, Names given env loggerGiven path →
        ∃ a, start given (memory entries) loggerGiven env entries = .ok a ∧
          ∀ passwords requests (r : Request), r.verb = "GET" → rooted r.path = "/v2/catalog" →
            let broker := a.broker.broker passwords
            ∃ reply, (serve broker r (run broker requests Memory.fresh).2).1.reply = .ok reply ∧
              reply.status = 200 ∧
              Files.read entries (Path.ofText path) = .ok (Utf8.encode reply.body) := by
  refine ⟨Catalog.load_of_stored regular shape stored, fun given env loggerGiven names => ?_⟩
  obtain ⟨a, started, catalog⟩ := exists_start regular shape stored names
  refine ⟨a, started, fun passwords requests r verb target => ?_⟩
  refine ⟨Reply.json 200 (Json.text d), ?_, rfl, stored.content⟩
  rw [serve_catalog a.broker passwords regular.legible catalog verb target]

/-- A service with a name beyond ASCII, and members in no particular order.  The catalog is asked
for after an instance was created. -/
theorem serve_catalog_as_written_unordered :
    let d : Json := .object
      [("version", .null),
        ("services", .array [.object [("name", .string "dépôt 🗄"), ("free", .bool true)]])]
    let file : Text := "\x7b\"version\": null, \"services\": [\x7b\"name\": "
      ++ "\"d\\u00e9p\\u00f4t \\ud83d\\uddc4\", \"free\": true\x7d]\x7d"
    let entries : List (Text × Files.Entry) := [("catalog.json", .file (Utf8.encode file))]
    let env : Environment :=
      [("BROKER_CATALOG_PATH", " ./catalog.json "), ("BROKER_LOG_LEVEL", "debug")]
    let before : Request := ⟨"PUT", "/v2/service_instances/db", []⟩
    let r : Request := ⟨"get", "//v2/catalog", "again"⟩
    Catalog.load entries "./catalog.json" = .ok d ∧
      ∃ a, start none (memory entries) false env entries = .ok a ∧
        let broker := a.broker.broker fun _ => []
        ∃ reply, (serve broker r (run broker [before] Memory.fresh).2).1.reply = .ok reply ∧
          reply.status = 200 ∧ Utf8.encode reply.body = Utf8.encode file := by
  intro d file entries env before r
  have text : Json.text d = file := by decide +kernel
  have service : (Json.object [("name", .string "dépôt 🗄"), ("free", .bool true)]).Regular := by
    refine .object _ (by decide) ?_ ?_
    · exact List.forall_mem_cons.mpr ⟨List.all_eq_true.mp (by decide),
        List.forall_mem_singleton.mpr (List.all_eq_true.mp (by decide))⟩
    · exact List.forall_mem_cons.mpr ⟨.string _ (List.all_eq_true.mp (by decide)),
        List.forall_mem_singleton.mpr (.bool true)⟩
  have regular : d.Regular := by
    refine .object _ (by decide) ?_ ?_
    · exact List.forall_mem_cons.mpr ⟨List.all_eq_true.mp (by decide),
        List.forall_mem_singleton.mpr (List.all_eq_true.mp (by decide))⟩
    · exact List.forall_mem_cons.mpr ⟨.null,
        List.forall_mem_singleton.mpr (.array _ (List.forall_mem_singleton.mpr service))⟩
  have shape : Catalog.HasShape d := ⟨_, rfl⟩
  have stored : Catalog.Stored entries "./catalog.json" d := ⟨by decide, by rw [text]; rfl⟩
  have names : Names none env false "./catalog.json" :=
    ⟨by decide, ⟨100, rfl⟩, "DEBUG", rfl⟩
  obtain ⟨loaded, starts⟩ := serve_catalog_as_written regular shape stored
  obtain ⟨a, started, served⟩ := starts none env false names
  obtain ⟨reply, replied, status, body⟩ := served (fun _ => []) [before] r (by decide) (by decide)
  exact ⟨loaded, a, started, reply, replied, status, (Except.ok.inj body).symm⟩

end Application
end OpenBroker
