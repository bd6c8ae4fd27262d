import OpenBroker.Proofs.Catalog
import OpenBroker.Proofs.ReplyObject

/-! # Which values have a document

A broker returns what it likes, and an answer can carry only what can be written.  Which values
these are can be said without writing anything (`Value.HasDocument`): there is no set and no byte
string in them, every key of a mapping is a text, a number, a truth value or nothing, no
integer has more digits than can be read again, and every object of another class gives such a value
to be written in its place.
-/
namespace OpenBroker
namespace Value

/-- **Short**: an integer that is not too long to be read. -/
def Short (n : Int) : Prop := n.natAbs < Nat.pow 10 Literal.digitLimit

/-- **Key** of a member: a value that is written as a text of its own. -/
def IsKey : Value → Prop
  | .null | .bool _ | .real _ | .text _ => True
  | .int n => Short n
  | .list _ | .tuple _ | .set _ | .bytes _ | .mapping _ | .foreign .. => False

/-- **Has a document**: all parts of the value can be written. -/
inductive HasDocument : Value → Prop
  | null : HasDocument .null
  | bool (b : Bool) : HasDocument (.bool b)
  | int (n : Int) (short : Short n) : HasDocument (.int n)
  | real (x : Binary64) : HasDocument (.real x)
  | text (s : Text) : HasDocument (.text s)
  | list (items : List Value) (parts : ∀ v ∈ items, HasDocument v) : HasDocument (.list items)
  | tuple (items : List Value) (parts : ∀ v ∈ items, HasDocument v) : HasDocument (.tuple items)
  | mapping (entries : List (Value × Value)) (keys : ∀ e ∈ entries, IsKey e.1)
    (parts : ∀ e ∈ entries, HasDocument e.2) : HasDocument (.mapping entries)
  | foreign (number : Nat) (kind : Text) (truth : Except Complaint Bool)
    (shown : Except Complaint Text) (v : Value) (instead : HasDocument v) :
    HasDocument (.foreign number kind truth shown (.ok v))

variable {v : Value} {n : Int}

theorem writable_eq_ok_iff {m : Int} : writable n = .ok m ↔ m = n ∧ Short n := by
  constructor
  · intro h
    have short := short_of_writable h
    have same : m = n := by
      unfold writable at h
      split at h
      · cases h
      · exact (Except.ok.inj h).symm
    exact ⟨same, same ▸ short⟩
  · rintro ⟨rfl, short⟩
    exact writable_of_short short

theorem exists_keyText_iff : (∃ t, keyText v = .ok t) ↔ v.IsKey := by
  cases v with
  | bool b => cases b <;> exact iff_of_true ⟨_, rfl⟩ trivial
  | null | real | text => exact iff_of_true ⟨_, rfl⟩ trivial
  | list | tuple | set | bytes | mapping | foreign => exact iff_of_false nofun not_false
  | int n =>
    constructor
    · rintro ⟨t, h⟩
      obtain ⟨m, written, -⟩ := exists_of_map_eq_ok h
      exact (writable_eq_ok_iff.mp written).2
    · intro short
      exact ⟨_, by rw [keyText, writable_eq_ok_iff.mpr ⟨rfl, short⟩]; rfl⟩

/-! ## What is written has only parts that can be written -/

mutual

theorem hasDocument_of_ok : ∀ {v : Value} {j : Json}, v.document = .ok j → v.HasDocument
  | .null, _, _ => .null
  | .bool b, _, _ => .bool b
  | .real x, _, _ => .real x
  | .text s, _, _ => .text s
  | .int n, _, h => by
    obtain ⟨m, written, -⟩ := exists_of_map_eq_ok h
    exact .int n (writable_eq_ok_iff.mp written).2
  | .list items, _, h => by
    rw [document] at h
    obtain ⟨js, written, -⟩ := exists_of_bind_eq_ok h
    exact .list items (hasDocument_of_documents written)
  | .tuple items, _, h => by
    rw [document] at h
    obtain ⟨js, written, -⟩ := exists_of_bind_eq_ok h
    exact .tuple items (hasDocument_of_documents written)
  | .mapping entries, _, h => by
    rw [document] at h
    obtain ⟨es, written, -⟩ := exists_of_bind_eq_ok h
    have parts := hasDocument_of_memberDocuments written
    exact .mapping entries (fun e he => (parts e he).1) fun e he => (parts e he).2
  | .foreign _ _ _ _ (.ok v), _, h => by
    rw [document] at h
    exact .foreign _ _ _ _ v (hasDocument_of_ok h)
  | .set _, _, h | .bytes _, _, h | .foreign _ _ _ _ (.error _), _, h => by cases h

theorem hasDocument_of_documents :
    ∀ {vs : List Value} {js : List Json}, documents vs = .ok js → ∀ v ∈ vs, v.HasDocument
  | [], _, _ => fun _ h => nomatch h
  | v :: rest, _, h => by
    rw [documents] at h
    obtain ⟨j, first, h⟩ := exists_of_bind_eq_ok h
    obtain ⟨js, others, -⟩ := exists_of_bind_eq_ok h
    exact List.forall_mem_cons.mpr ⟨hasDocument_of_ok first, hasDocument_of_documents others⟩

theorem hasDocument_of_memberDocuments : ∀ {entries : List (Value × Value)}
    {es : List (Text × Json)}, memberDocuments entries = .ok es →
      ∀ e ∈ entries, e.1.IsKey ∧ e.2.HasDocument
  | [], _, _ => fun _ h => nomatch h
  | (k, v) :: rest, _, h => by
    rw [memberDocuments] at h
    obtain ⟨key, named, h⟩ := exists_of_bind_eq_ok h
    obtain ⟨j, first, h⟩ := exists_of_bind_eq_ok h
    obtain ⟨es, others, -⟩ := exists_of_bind_eq_ok h
    exact List.forall_mem_cons.mpr ⟨⟨exists_keyText_iff.mp ⟨key, named⟩, hasDocument_of_ok first⟩,
      hasDocument_of_memberDocuments others⟩

end

/-! ## What has only parts that can be written is written -/

theorem exists_documents {vs : List Value} (parts : ∀ v ∈ vs, ∃ j, v.document = .ok j) :
    ∃ js, documents vs = .ok js := by
  induction vs with
  | nil => exact ⟨[], rfl⟩
  | cons v rest ih =>
    obtain ⟨⟨j, first⟩, others⟩ := List.forall_mem_cons.mp parts
    obtain ⟨js, rest⟩ := ih others
    exact ⟨j :: js, by rw [documents, first, rest]; rfl⟩

theorem exists_memberDocuments {entries : List (Value × Value)} (keys : ∀ e ∈ entries, e.1.IsKey)
    (parts : ∀ e ∈ entries, ∃ j, e.2.document = .ok j) :
    ∃ es, memberDocuments entries = .ok es := by
  induction entries with
  | nil => exact ⟨[], rfl⟩
  | cons e rest ih =>
    obtain ⟨k, v⟩ := e
    obtain ⟨isKey, others⟩ := List.forall_mem_cons.mp keys
    obtain ⟨key, named⟩ := exists_keyText_iff.mpr isKey
    obtain ⟨⟨j, first⟩, others'⟩ := List.forall_mem_cons.mp parts
    obtain ⟨es, rest⟩ := ih others others'
    exact ⟨(key, j) :: es, by rw [memberDocuments, named, first, rest]; rfl⟩

/-- **What can be written** is what has a document. -/
theorem exists_document_iff : (∃ j, v.document = .ok j) ↔ v.HasDocument := by
  refine ⟨fun ⟨j, h⟩ => hasDocument_of_ok h, fun h => ?_⟩
  induction h with
  | null | bool | real | text => exact ⟨_, rfl⟩
  | int n short => exact ⟨.int n, by rw [document, writable_eq_ok_iff.mpr ⟨rfl, short⟩]; rfl⟩
  | list items _ ih | tuple items _ ih =>
    obtain ⟨js, written⟩ := exists_documents ih
    exact ⟨.array js, by rw [document, written]; rfl⟩
  | mapping entries keys _ ih =>
    obtain ⟨es, written⟩ := exists_memberDocuments keys ih
    exact ⟨.object es, by rw [document, written]; rfl⟩
  | foreign number kind truth shown v _ ih =>
    obtain ⟨j, written⟩ := ih
    exact ⟨j, by rw [document, written]⟩

/-- Of any other value a part is reported. -/
theorem exists_error_of_not_hasDocument (h : ¬ v.HasDocument) : ∃ c, v.document = .error c := by
  cases written : v.document with
  | ok j => exact absurd (hasDocument_of_ok written) h
  | error c => exact ⟨c, rfl⟩

end Value
end OpenBroker
