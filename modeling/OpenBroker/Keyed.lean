import OpenBroker.Text.Basic

/-!
# Entries in the order they were first put

The members of a document, the instances of a broker and the bindings of an
instance are all collections of entries under text keys whose order is visible.
A key keeps the place at which it was first put; putting it again changes its
value there, and a key that was erased and put again stands at the end.
-/
namespace OpenBroker

/-- **Keyed entries.**  Pairs of a key and a value, in order. -/
abbrev Keyed (α : Type) := List (Text × α)

namespace Keyed

variable {α : Type}

/-- The value under a key. -/
def find? (k : Text) : Keyed α → Option α
  | [] => none
  | (k', v) :: rest => if k' = k then some v else find? k rest

/-- The entries with a value under a key: in the key's place if it has one, at
the end if it has none. -/
def put (k : Text) (v : α) : Keyed α → Keyed α
  | [] => [(k, v)]
  | (k', v') :: rest => if k' = k then (k', v) :: rest else (k', v') :: put k v rest

/-- The entries without the first one under a key. -/
def erase (k : Text) : Keyed α → Keyed α
  | [] => []
  | (k', v) :: rest => if k' = k then rest else (k', v) :: erase k rest

/-- The keys, in order. -/
def keys (entries : Keyed α) : List Text := entries.map (·.1)

/-- Whether there is an entry under a key. -/
def has (k : Text) (entries : Keyed α) : Bool := (find? k entries).isSome

/-- The entries of a list of pairs, put one after the other. -/
def ofPairs (pairs : List (Text × α)) : Keyed α :=
  pairs.foldl (fun entries e => put e.1 e.2 entries) []

@[simp] theorem find?_nil (k : Text) : find? k ([] : Keyed α) = none := rfl

theorem find?_put_self (k : Text) (v : α) (entries : Keyed α) :
    find? k (put k v entries) = some v := by
  induction entries with
  | nil => simp [put, find?]
  | cons e rest ih =>
    obtain ⟨k', v'⟩ := e
    by_cases h : k' = k <;> simp [put, find?, h, ih]

theorem find?_put_of_ne {k k' : Text} (h : k' ≠ k) (v : α) (entries : Keyed α) :
    find? k' (put k v entries) = find? k' entries := by
  induction entries with
  | nil => simp [put, find?, Ne.symm h]
  | cons e rest ih =>
    obtain ⟨k'', v'⟩ := e
    by_cases h₁ : k'' = k
    · subst h₁; simp [put, find?, Ne.symm h]
    · by_cases h₂ : k'' = k' <;> simp [put, find?, h, h₁, h₂, ih]

end Keyed
end OpenBroker
