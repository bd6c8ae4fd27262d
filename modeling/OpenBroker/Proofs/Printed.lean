import OpenBroker.Proofs.Addressed
import OpenBroker.Proofs.JsonAscii

/-! # What the client prints

Every reply is printed on one line, the status and then the body.  A body that is a document is
read and written anew.  If it was written by a broker, writing it anew gives the same text again,
so the line shows what the broker wrote.

Any other body is printed as the literal of a string.  The literal is plain text, whatever the
body is, and it is read as the body again unless a pair of halves stands in that: the halves
are written one by one, and then they read as one character.  Only a reply whose character set
can spell single halves has such a body.
-/
namespace OpenBroker
namespace Client

open Http

namespace ServerReply

variable {r : ServerReply} {t : Text}

/-- **A reply shows a text**: the text is that of its body, and what the body seems to be by itself
is no other text. -/
structure Shows (r : ServerReply) (t : Text) : Prop where
  text : r.text = .ok t
  own : ∀ u, r.ownText? = .ok (some u) → u = t

theorem printedBody_of_read {j : Json} (read : Json.read t = .ok j) : printedBody t = j.text := by
  rw [printedBody, read]

theorem printedBody_of_error {e : Json.ReadError} (read : Json.read t = .error e) :
    printedBody t = Json.writeString t := by
  rw [printedBody, read]

/-- A printed body is plain, whatever is in it. -/
theorem plain_printedBody (t : Text) : (printedBody t).Plain := by
  cases read : Json.read t with
  | ok j =>
    rw [printedBody_of_read read]
    exact Json.plain_write Json.proper_spaced j
  | error e =>
    rw [printedBody_of_error read]
    exact Json.plain_writeString t

/-- **A reply is printed** by the text that it shows. -/
theorem printed_of_shows (shows : r.Shows t) : r.printed = .ok (line r.status (printedBody t)) := by
  obtain ⟨own?, own⟩ : ∃ own?, r.ownText? = .ok own? := by
    have text := shows.text
    unfold ServerReply.text at text
    unfold ownText?
    cases charset : r.charset? with
    | ok name? => exact ⟨_, rfl⟩
    | error f =>
      rw [charset] at text
      cases text
  have body : r.bodyPrinted = .ok (printedBody t) := by
    rw [bodyPrinted, own]
    cases own? with
    | none =>
      rw [shows.text]
      rfl
    | some u =>
      obtain rfl := shows.own u own
      cases read : Json.read u with
      | ok j =>
        rw [printedBody_of_read read]
        simp only [bind, Except.bind, Option.map_some, read]
      | error e =>
        rw [printedBody_of_error read]
        simp only [bind, Except.bind, Option.map_some, read, shows.text]
        rfl
  rw [printed, body]
  rfl

/-- The name of the set that documents are in is known. -/
theorem namedText_utf8 (bytes : List UInt8) :
    namedText "utf-8" bytes = .ok (Charset.piecesOfUtf8 bytes).lenient := by
  have name : ("utf-8" : Text).any (fun c => !c.isScalar) = false ∧
      ("utf-8" : Text).contains ('\x00' : CodePoint) = false := by decide
  obtain ⟨set, named, pieces⟩ := Option.map_eq_some_iff.mp
    (rfl : (Charset.ofName? "utf-8").map (·.method) = some (.pieces Charset.piecesOfUtf8))
  rw [namedText, name.1, name.2, named]
  simp only [Bool.false_eq_true, if_false]
  rw [Charset.read, pieces]

theorem lenient_piecesOfUtf8_encode (scalar : ∀ c ∈ t, c.isScalar = true) :
    (Charset.piecesOfUtf8 (Utf8.encode t)).lenient = t := by
  rw [Charset.piecesOfUtf8, Utf8.pieces_encode scalar, List.map_map]
  exact Charset.Pieces.lenient_ofText t

/-- **A reply of the application** shows a text, and it is its body if that can be encoded. -/
theorem exists_shows_ofReply (status : Nat) (body : Text) :
    ∃ t, (ServerReply.ofReply (Reply.json status body)).Shows t ∧
      ((∀ c ∈ body, c.isScalar = true) → t = body) := by
  have charset : (ServerReply.ofReply (Reply.json status body)).charset? = .ok (some "utf-8") := rfl
  refine ⟨(Charset.piecesOfUtf8 (Utf8.encode body)).lenient, ⟨?_, ?_⟩, lenient_piecesOfUtf8_encode⟩
  · rw [ServerReply.text, charset]
    by_cases empty : Utf8.encode body = []
    · have none : (ServerReply.ofReply (Reply.json status body)).body = [] := empty
      rw [empty]
      simp only [bind, Except.bind, none]
      rfl
    · have some : (ServerReply.ofReply (Reply.json status body)).body.isEmpty = false :=
        List.isEmpty_eq_false_iff.mpr empty
      simp only [bind, Except.bind, some, Bool.false_eq_true, if_false]
      exact namedText_utf8 _
  · intro u own
    rw [ownText?, charset] at own
    cases own

end ServerReply

/-- **The line of a reply.**  A run whose exchange ends with a reply prints one line of plain text,
the status and the body, and nothing else.  If the reply shows a document as brokers write it, the
body is printed as it was written.  If the reply shows no document, the body is printed as the
literal of a string, and the literal is read as what the reply shows exactly if no pair of halves
stands in that. -/
theorem output_of_run {σ : Type} (network : Network (StateM σ)) (s : σ) (env : Environment)
    (arguments : List Text) (o : Order) (read : readOrder env arguments = .ok (some o))
    (r : ServerReply) (replied : (call network o.broker o.timeout o.call s).1.2 = .ok r) (t : Text)
    (shows : r.Shows t) :
    let result := (run network env arguments s).1
    ∃ body, result.output = Decimal.ofNat r.status ++ " " ++ body ++ "\n" ∧ result.errors = [] ∧
      (Decimal.ofNat r.status ++ " " ++ body).Plain ∧
      (∀ v, Json.Regular v → t = Json.text v → body = t) ∧
      ((∀ j, Json.read t ≠ .ok j) → body = Json.writeString t ∧
        ∃ u, Json.read body = .ok (.string u) ∧ (u = t ↔ ¬ Json.HasPair t)) := by
  intro result
  have printed : result.output = ServerReply.line r.status (ServerReply.printedBody t) ∧
      result.errors = [] := by
    rcases exchange : call network o.broker o.timeout o.call s with ⟨⟨messages, reply⟩, s'⟩
    rw [exchange] at replied
    obtain rfl : reply = .ok r := replied
    simp only [result, run_of_readOrder read, exchange, Result.ofExchange,
      ServerReply.printed_of_shows shows, and_self]
  have plainStatus : (Decimal.ofNat r.status ++ " ").Plain :=
    (Json.isRow_ofNat r.status).plain.append (by decide)
  refine ⟨ServerReply.printedBody t, printed.1, printed.2,
    plainStatus.append (ServerReply.plain_printedBody t), ?_, ?_⟩
  · rintro v regular rfl
    exact ServerReply.printedBody_of_read (Json.read_write Json.proper_spaced regular)
  · intro noDocument
    cases refused : Json.read t with
    | ok j => exact absurd refused (noDocument j)
    | error e =>
      rw [ServerReply.printedBody_of_error refused]
      exact ⟨rfl, Json.joinHalves t, Json.read_writeString t, Json.joinHalves_eq_self_iff t⟩

/-- A network that gives the same reply to every message. -/
def sameReply (r : ServerReply) : Network (StateM Unit) := fun _ => pure (.ok r)

/-- A catalog whose only note has a quote, a backslash, a line end and a character beyond the first
plane in it. -/
theorem output_of_run_note :
    let v : Json := .object [("note", .string "a\"b\\\n😀"), ("of", .array [.int (-5), .object []])]
    let r := ServerReply.ofReply (Reply.json 200 (Json.text v))
    v.Regular ∧ readOrder [] ["catalog"] = .ok (some ⟨defaultBroker, defaultTimeout, .catalog⟩) ∧
      (call (sameReply r) defaultBroker defaultTimeout .catalog ()).1.2 = .ok r ∧
      r.Shows (Json.text v) ∧
      (run (sameReply r) [] ["catalog"] ()).1.output =
        "200 \x7b\"note\": \"a\\\"b\\\\\\n\\ud83d\\ude00\", \"of\": [-5, \x7b\x7d]\x7d\n" := by
  intro v r
  have regular : v.Regular := by
    have keys : ∀ key ∈ [("note" : Text), "of"], ∀ c ∈ key, c.isScalar = true :=
      List.forall_mem_cons.mpr ⟨Text.Plain.isScalar (by decide),
        List.forall_mem_singleton.mpr (Text.Plain.isScalar (by decide))⟩
    have note : ∀ c ∈ ("a\"b\\\n😀" : Text), c.isScalar = true :=
      List.all_eq_true.mp (by decide +kernel)
    have items : ∀ j ∈ [Json.int (-5), .object []], j.Regular :=
      List.forall_mem_cons.mpr ⟨.int _ (by decide +kernel), List.forall_mem_singleton.mpr
        (.object [] .nil (fun _ h => nomatch h) fun _ h => nomatch h)⟩
    exact .object _ (by decide) (fun e he => keys _ (List.mem_map_of_mem he))
      (List.forall_mem_cons.mpr ⟨.string _ note, List.forall_mem_singleton.mpr (.array _ items)⟩)
  have read : readOrder [] ["catalog"] =
      .ok (some ⟨defaultBroker, defaultTimeout, .catalog⟩) := rfl
  have replied : (call (sameReply r) defaultBroker defaultTimeout .catalog ()).1.2 = .ok r :=
    eq_ok_of_toOption (by decide +kernel)
  obtain ⟨t, shows, same⟩ := ServerReply.exists_shows_ofReply 200 (Json.text v)
  obtain rfl : t = Json.text v :=
    same (Json.plain_write Json.proper_spaced v).isScalar
  obtain ⟨body, output, -, -, written, -⟩ :=
    output_of_run (sameReply r) () [] ["catalog"] _ read r replied _ shows
  rw [written v regular rfl] at output
  exact ⟨regular, read, replied, shows, output.trans (by decide +kernel)⟩

/-- **A pair of halves is joined.**  A reply in a character set that spells the halves one by one
shows the two of them, and no document.  The literal that is printed for them is read as one
character, which is another text. -/
theorem exists_literal_of_pair :
    let r : ServerReply :=
      ⟨200, "text/plain; charset=unicode_escape", Utf8.encode "\\ud83d\\ude00", none⟩
    let t : Text := [CodePoint.ofNat 0xD83D, CodePoint.ofNat 0xDE00]
    r.Shows t ∧ (∀ j, Json.read t ≠ .ok j) ∧
      ∃ literal, (run (sameReply r) [] ["catalog"] ()).1.output = "200 " ++ literal ++ "\n" ∧
        Json.read literal = .ok (.string "😀") ∧ ("😀" : Text) ≠ t := by
  intro r t
  have noDocument : (Json.read t).isOk = false := by decide +kernel
  have joined : Json.joinHalves t = "😀" := by decide
  refine ⟨⟨eq_ok_of_toOption (by decide +kernel), ?_⟩, ?_, Json.writeString t,
    by decide +kernel, ?_, by decide⟩
  · intro u own
    cases own
  · intro j read
    rw [read] at noDocument
    cases noDocument
  · rw [Json.read_writeString, joined]

end Client
end OpenBroker
