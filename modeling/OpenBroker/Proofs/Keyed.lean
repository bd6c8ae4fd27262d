import OpenBroker.Keyed

/-! # Keys and their order

Of the entries under keys three things can be seen: which keys there are, in which
order, and what stands under each.  Putting and erasing an entry are described here by
what they do to the list of keys (`put_of_notMem`, `keys_put_of_mem`, `keys_erase`), to
a look-up (`find?_put_self` and its companions), and to the entries under all other keys
(`others`), which neither operation touches or moves.
-/
namespace OpenBroker
namespace Keyed

variable {α : Type} {k k' : Text} {v : α} {entries : Keyed α}

@[simp] theorem keys_nil : keys ([] : Keyed α) = [] := rfl

@[simp] theorem keys_cons (e : Text × α) (rest : Keyed α) :
    keys (e :: rest) = e.1 :: keys rest := rfl

@[simp] theorem keys_append (first second : Keyed α) :
    keys (first ++ second) = keys first ++ keys second := List.map_append

@[simp] theorem length_keys (entries : Keyed α) : (keys entries).length = entries.length :=
  List.length_map _

theorem find?_eq_none_iff : find? k entries = none ↔ k ∉ keys entries := by
  induction entries with
  | nil => simp
  | cons e rest ih =>
    by_cases h : e.1 = k
    · simp [find?, h]
    · simp [find?, h, Ne.symm h, ih]

theorem mem_keys_of_find? (h : find? k entries = some v) : k ∈ keys entries := by
  apply Classical.byContradiction
  intro hn
  rw [find?_eq_none_iff.mpr hn] at h
  cases h

theorem has_iff : has k entries = true ↔ k ∈ keys entries := by
  unfold has
  cases hf : find? k entries with
  | none => simpa using find?_eq_none_iff.mp hf
  | some v => simpa using mem_keys_of_find? hf

theorem find?_of_mem {e : Text × α} (distinct : (keys entries).Nodup) (h : e ∈ entries) :
    find? e.1 entries = some e.2 := by
  induction entries with
  | nil => cases h
  | cons first rest ih =>
    rw [keys_cons, List.nodup_cons] at distinct
    rcases List.mem_cons.mp h with rfl | h
    · simp [find?]
    · have ne : first.1 ≠ e.1 := by
        rintro same
        exact distinct.1 (same ▸ List.mem_map_of_mem h)
      simpa [find?, ne] using ih distinct.2 h

theorem mem_of_find? (h : find? k entries = some v) : (k, v) ∈ entries := by
  induction entries with
  | nil => cases h
  | cons e rest ih =>
    by_cases he : e.1 = k
    · simp only [find?, he, if_true, Option.some.injEq] at h
      exact List.mem_cons.mpr (.inl (Prod.ext he.symm h.symm))
    · simp only [find?, he, if_false] at h
      exact List.mem_cons_of_mem _ (ih h)

/-- Entries under distinct keys are those that are found. -/
theorem mem_iff_find? (distinct : (keys entries).Nodup) :
    (k, v) ∈ entries ↔ find? k entries = some v :=
  ⟨fun h => find?_of_mem (e := (k, v)) distinct h, mem_of_find?⟩

/-- **What is found** fixes the entries up to their order. -/
theorem perm_of_find? {entries' : Keyed α} (distinct : (keys entries).Nodup)
    (distinct' : (keys entries').Nodup)
    (same : ∀ k, find? k entries = find? k entries') : entries.Perm entries' := by
  have nodup {es : Keyed α} (h : (keys es).Nodup) : es.Nodup :=
    List.Pairwise.of_map (·.1) (fun _ _ ne same => ne (congrArg _ same)) h
  refine (List.perm_ext_iff_of_nodup (nodup distinct) (nodup distinct')).mpr ?_
  rintro ⟨k, v⟩
  rw [mem_iff_find? distinct, mem_iff_find? distinct', same]

/-! ## Putting an entry -/

theorem put_of_notMem (h : k ∉ keys entries) : put k v entries = entries ++ [(k, v)] := by
  induction entries with
  | nil => rfl
  | cons e rest ih =>
    rw [keys_cons, List.mem_cons, not_or] at h
    simp [put, Ne.symm h.1, ih h.2]

/-- The value of the last entry is changed in its place. -/
theorem put_append_self {v' : α} (h : k ∉ keys entries) :
    put k v (entries ++ [(k, v')]) = entries ++ [(k, v)] := by
  induction entries with
  | nil => simp [put]
  | cons e rest ih =>
    rw [keys_cons, List.mem_cons, not_or] at h
    simp [put, Ne.symm h.1, ih h.2]

/-- A key keeps its place. -/
theorem keys_put_of_mem (h : k ∈ keys entries) : keys (put k v entries) = keys entries := by
  induction entries with
  | nil => cases h
  | cons e rest ih =>
    by_cases he : e.1 = k
    · simp [put, he]
    · have hr : k ∈ keys rest := (List.mem_cons.mp h).resolve_left (Ne.symm he)
      simp [put, he, ih hr]

/-! ## Erasing an entry -/

theorem keys_erase (k : Text) (entries : Keyed α) :
    keys (erase k entries) = (keys entries).erase k := by
  induction entries with
  | nil => rfl
  | cons e rest ih =>
    by_cases he : e.1 = k
    · simp [erase, he]
    · rw [keys_cons, List.erase_cons_tail (by simpa using he), ← ih]
      simp [erase, he]

theorem find?_erase_self (h : (keys entries).Nodup) : find? k (erase k entries) = none := by
  rw [find?_eq_none_iff, keys_erase]
  exact h.not_mem_erase

theorem find?_erase_of_ne (h : k' ≠ k) : find? k' (erase k entries) = find? k' entries := by
  induction entries with
  | nil => rfl
  | cons e rest ih =>
    by_cases he : e.1 = k
    · simp [erase, find?, he, Ne.symm h]
    · by_cases he' : e.1 = k'
      · simp [erase, find?, he', h]
      · simp [erase, find?, he, he', ih]

/-- The last entry is erased, and no other. -/
theorem erase_append_self (h : k ∉ keys entries) : erase k (entries ++ [(k, v)]) = entries := by
  induction entries with
  | nil => simp [erase]
  | cons e rest ih =>
    rw [keys_cons, List.mem_cons, not_or] at h
    simp [erase, Ne.symm h.1, ih h.2]

theorem find?_append_of_ne (h : k' ≠ k) : find? k' (entries ++ [(k, v)]) = find? k' entries := by
  induction entries with
  | nil => simp [find?, Ne.symm h]
  | cons e rest ih =>
    by_cases he : e.1 = k'
    · simp [find?, he]
    · simp [find?, he, ih]

theorem find?_append_self (h : k ∉ keys entries) : find? k (entries ++ [(k, v)]) = some v := by
  rw [← put_of_notMem h]
  exact find?_put_self k v entries

/-! ## The other entries -/

/-- **The other entries**: all those that are not under a key, in order. -/
def others (k : Text) (entries : Keyed α) : Keyed α := entries.filter fun e => e.1 ≠ k

@[simp] theorem others_nil (k : Text) : others k ([] : Keyed α) = [] := rfl

theorem others_cons (e : Text × α) (rest : Keyed α) :
    others k (e :: rest) = if e.1 = k then others k rest else e :: others k rest := by
  by_cases h : e.1 = k <;> simp [others, h]

theorem others_put (k : Text) (v : α) (entries : Keyed α) :
    others k (put k v entries) = others k entries := by
  induction entries with
  | nil => simp [put, others_cons]
  | cons e rest ih =>
    by_cases h : e.1 = k
    · simp [put, others_cons, h]
    · simp [put, others_cons, h, ih]

theorem others_erase (k : Text) (entries : Keyed α) :
    others k (erase k entries) = others k entries := by
  induction entries with
  | nil => rfl
  | cons e rest ih =>
    by_cases h : e.1 = k
    · simp [erase, others_cons, h]
    · simp [erase, others_cons, h, ih]

end Keyed
end OpenBroker
