import OpenBroker.Failure.Basic

/-! # What an error belongs to is its lineage

An error belongs to a class if the class is among the basic classes of its strands or above
one of them; that is how `isA` and `isOrdinary` decide it, strand by strand.  The platform
decides it by the lineage, one list that is merged from the orders of all strands.  Both are
the same (`mem_lineage_iff`): a merge loses nobody and invents nobody, however the strands are
derived and in whatever order they are combined, as long as there is such a class at all.
-/
namespace OpenBroker

variable {a b : Ancestor} {lists orders : List (List Ancestor)} {l extra : List Ancestor}

/-! ## Merging orders -/

/-- The chosen ancestor is at the head of some list, and behind the head of none. -/
theorem nextAncestor?_eq_some (h : nextAncestor? lists = some a) :
    (∃ l ∈ lists, l.head? = some a) ∧ ∀ l ∈ lists, a ∉ l.drop 1 := by
  constructor
  · exact List.mem_filterMap.mp (List.mem_of_find?_eq_some h)
  · intro l hl behind
    have free := List.find?_some h
    have notBehind := List.all_eq_true.mp free l hl
    simp only [Bool.not_eq_true', ← Bool.not_eq_true, List.contains_iff_mem] at notBehind
    exact notBehind behind

/-- Dropping an ancestor from the head of a list takes it out of the list, as it is nowhere
else. -/
theorem mem_dropped_iff (free : a ∉ l.drop 1) :
    b ∈ (if l.head? = some a then l.drop 1 else l) ↔ b ∈ l ∧ b ≠ a := by
  cases l with
  | nil => simp
  | cons first rest =>
    have free : a ∉ rest := free
    by_cases head : first = a
    · subst head
      have ne : b ∈ rest → b ≠ first := fun hb same => free (same ▸ hb)
      simp only [List.head?_cons, if_true, List.drop_succ_cons, List.drop_zero, List.mem_cons]
      exact ⟨fun hb => ⟨.inr hb, ne hb⟩, fun hb => hb.1.resolve_left hb.2⟩
    · have ne : b ∈ first :: rest → b ≠ a := by
        rintro hb rfl
        exact (List.mem_cons.mp hb).elim (fun same => head same.symm) free
      simp only [List.head?_cons, Option.some.injEq, head, if_false]
      exact ⟨fun hb => ⟨hb, ne hb⟩, fun hb => hb.1⟩

/-- How many ancestors are left in some orders, each counted as often as it occurs. -/
def remaining (orders : List (List Ancestor)) : Nat := (orders.map List.length).foldr (· + ·) 0

theorem remaining_cons (l : List Ancestor) (rest : List (List Ancestor)) :
    remaining (l :: rest) = l.length + remaining rest := rfl

theorem remaining_dropAncestor_le (a : Ancestor) (orders : List (List Ancestor)) :
    remaining (dropAncestor a orders) ≤ remaining orders := by
  induction orders with
  | nil => exact Nat.le_refl _
  | cons l rest ih =>
    rw [dropAncestor, List.map_cons, remaining_cons, remaining_cons]
    refine Nat.add_le_add ?_ ih
    split
    · rw [List.length_drop]
      omega
    · exact Nat.le_refl _

/-- An ancestor at the head of some order makes the orders shorter when it is dropped. -/
theorem remaining_dropAncestor_lt (head : ∃ l ∈ orders, l.head? = some a) :
    remaining (dropAncestor a orders) < remaining orders := by
  induction orders with
  | nil => obtain ⟨l, hl, -⟩ := head; cases hl
  | cons l rest ih =>
    have others := remaining_dropAncestor_le a rest
    rw [dropAncestor, List.map_cons, remaining_cons, remaining_cons]
    cases l with
    | nil =>
      obtain ⟨l, hl, head⟩ := head
      rcases List.mem_cons.mp hl with rfl | hl
      · cases head
      · exact Nat.add_lt_add_left (ih ⟨l, hl, head⟩) _
    | cons first more =>
      by_cases here : first = a
      · simp only [List.head?_cons, here, if_true, List.drop_succ_cons, List.drop_zero,
          List.length_cons]
        exact Nat.add_lt_add_of_lt_of_le (Nat.lt_succ_self _) others
      · obtain ⟨l, hl, head⟩ := head
        rcases List.mem_cons.mp hl with rfl | hl
        · exact absurd (Option.some.inj head) here
        · simp only [List.head?_cons, Option.some.injEq, here, if_false]
          exact Nat.add_lt_add_left (ih ⟨l, hl, head⟩) _

/-- The orders without an ancestor that none of them has behind its head: just this ancestor
is missing. -/
theorem exists_mem_dropAncestor_iff (free : ∀ o ∈ orders, a ∉ o.drop 1) :
    (∃ o ∈ dropAncestor a orders, b ∈ o) ↔ (∃ o ∈ orders, b ∈ o) ∧ b ≠ a := by
  constructor
  · rintro ⟨dropped, hd, hb⟩
    obtain ⟨o, ho, rfl⟩ := List.mem_map.mp hd
    obtain ⟨hb, ne⟩ := (mem_dropped_iff (free o ho)).mp hb
    exact ⟨⟨o, ho, hb⟩, ne⟩
  · rintro ⟨⟨o, ho, hb⟩, ne⟩
    exact ⟨_, List.mem_map_of_mem ho, (mem_dropped_iff (free o ho)).mpr ⟨hb, ne⟩⟩

theorem not_mem_of_remaining_eq_zero (nothing : remaining orders = 0) : ¬ ∃ o ∈ orders, b ∈ o := by
  induction orders with
  | nil => simp
  | cons o rest ih =>
    rw [remaining_cons, Nat.add_eq_zero_iff, List.length_eq_zero_iff] at nothing
    obtain ⟨rfl, nothing⟩ := nothing
    rintro ⟨o, ho, hb⟩
    rcases List.mem_cons.mp ho with rfl | ho
    · cases hb
    · exact ih nothing ⟨o, ho, hb⟩

theorem head?_of_mem (mem : a ∈ l) (free : a ∉ l.drop 1) : l.head? = some a := by
  cases l with
  | nil => cases mem
  | cons first rest =>
    rcases List.mem_cons.mp mem with rfl | behind
    · rfl
    · exact absurd behind free

/-- A merge is finished, or it takes the next ancestor and goes on without it. -/
theorem mergeOrders_succ {bound : Nat} (merged : mergeOrders (bound + 1) lists = .ok l) :
    ((∀ o ∈ lists, o = []) ∧ l = []) ∨
      ∃ a l', nextAncestor? lists = some a ∧ mergeOrders bound (dropAncestor a lists) = .ok l' ∧
        l = a :: l' := by
  rw [mergeOrders] at merged
  split at merged
  · rename_i empty
    cases merged
    exact .inl ⟨fun o ho => List.isEmpty_iff.mp (List.all_eq_true.mp empty o ho), rfl⟩
  · cases next : nextAncestor? lists with
    | none =>
      rw [next] at merged
      cases merged
    | some a =>
      rw [next] at merged
      dsimp only at merged
      cases rest : mergeOrders bound (dropAncestor a lists) with
      | error e =>
        rw [rest] at merged
        cases merged
      | ok l' =>
        rw [rest] at merged
        cases merged
        exact .inr ⟨a, l', rfl, rest, rfl⟩

/-- **A merge of orders** has just the ancestors of the orders.  Along with them it keeps the
order of a further list, in which there is nobody else. -/
theorem mem_mergeOrders_iff {bound : Nat} (enough : remaining orders ≤ bound)
    (covered : ∀ x ∈ extra, ∃ o ∈ orders, x ∈ o)
    (merged : mergeOrders bound (orders ++ [extra]) = .ok l) :
    b ∈ l ↔ ∃ o ∈ orders, b ∈ o := by
  induction bound generalizing orders extra l with
  | zero =>
    cases merged
    have nobody := not_mem_of_remaining_eq_zero (b := b) (Nat.le_zero.mp enough)
    exact ⟨nofun, fun h => absurd h nobody⟩
  | succ bound ih =>
    rcases mergeOrders_succ merged with ⟨empty, rfl⟩ | ⟨a, l', next, rest, rfl⟩
    · refine ⟨nofun, fun ⟨o, ho, hb⟩ => ?_⟩
      rw [empty o (List.mem_append_left _ ho)] at hb
      exact hb
    · obtain ⟨⟨first, hfirst, head⟩, free⟩ := nextAncestor?_eq_some next
      have freeOrders : ∀ o ∈ orders, a ∉ o.drop 1 := fun o ho =>
        free o (List.mem_append_left _ ho)
      have freeExtra : a ∉ extra.drop 1 :=
        free extra (List.mem_append_right _ (List.mem_singleton_self _))
      -- an ancestor at the head of the further list alone would make no order shorter, but
      -- it is in one of the orders as well, and nowhere else than at its head
      have among : ∃ o ∈ orders, a ∈ o := by
        rcases List.mem_append.mp hfirst with ho | he
        · exact ⟨first, ho, List.mem_of_mem_head? head⟩
        · rw [List.mem_singleton.mp he] at head
          exact covered a (List.mem_of_mem_head? head)
      obtain ⟨o, ho, ha⟩ := among
      have fewer := remaining_dropAncestor_lt ⟨o, ho, head?_of_mem ha (freeOrders o ho)⟩
      have stillCovered : ∀ x ∈ (if extra.head? = some a then extra.drop 1 else extra),
          ∃ o ∈ dropAncestor a orders, x ∈ o := by
        intro x hx
        obtain ⟨hx, ne⟩ := (mem_dropped_iff freeExtra).mp hx
        exact (exists_mem_dropAncestor_iff freeOrders).mpr ⟨covered x hx, ne⟩
      rw [dropAncestor, List.map_append, ← dropAncestor] at rest
      rw [List.mem_cons, ih (by omega) stillCovered rest, exists_mem_dropAncestor_iff freeOrders]
      by_cases same : b = a
      · exact ⟨fun _ => same ▸ ⟨o, ho, ha⟩, fun _ => .inl same⟩
      · simp [same]

/-! ## The lineage of a class -/

namespace Strand

/-- What is not derived in a lineage is the basic class and what is above it. -/
theorem mem_lineage_iff {s : Strand} {number : Nat} {name : Text} :
    ⟨name, none⟩ ∈ s.lineage number ↔ name ∈ s.basic.names := by
  simp [lineage]

end Strand

namespace ErrorClass

variable {c : ErrorClass} {name : Text}

theorem exists_mem_orders_iff :
    (∃ o ∈ c.strands.mapIdx Strand.lineage, (⟨name, none⟩ : Ancestor) ∈ o) ↔
      ∃ s ∈ c.strands, name ∈ s.basic.names := by
  simp only [List.mem_mapIdx]
  constructor
  · rintro ⟨o, ⟨i, hi, rfl⟩, mem⟩
    exact ⟨_, List.getElem_mem hi, Strand.mem_lineage_iff.mp mem⟩
  · rintro ⟨s, hs, mem⟩
    obtain ⟨i, hi, rfl⟩ := List.mem_iff_getElem.mp hs
    exact ⟨_, ⟨i, hi, rfl⟩, Strand.mem_lineage_iff.mpr mem⟩

/-- **A lineage** has a class that is not derived just if some strand is derived from it. -/
theorem mem_lineage_iff (exists_lineage : c.lineage = .ok l) :
    ⟨name, none⟩ ∈ l ↔ ∃ s ∈ c.strands, name ∈ s.basic.names := by
  rw [← exists_mem_orders_iff]
  unfold lineage at exists_lineage
  dsimp only at exists_lineage
  split at exists_lineage
  · -- the one strand has the lineage to itself
    rename_i alone
    cases exists_lineage
    simp [strands, List.isEmpty_iff.mp alone]
  · split at exists_lineage
    · cases exists_lineage
    · split at exists_lineage
      · cases exists_lineage
      · refine mem_mergeOrders_iff (Nat.le_refl _) ?_ exists_lineage
        intro x hx
        obtain ⟨o, ho, head⟩ := List.mem_filterMap.mp hx
        exact ⟨o, ho, List.mem_of_mem_head? head⟩

/-- **To belong to a sentinel** is to have it in the lineage. -/
theorem isA_iff_mem_lineage (exists_lineage : c.lineage = .ok l) {t : Sentinel} :
    c.isA t = true ↔ ⟨t.name, none⟩ ∈ l := by
  rw [mem_lineage_iff exists_lineage]
  simp [isA]

/-- **To be ordinary** is to have the class of all ordinary errors in the lineage. -/
theorem isOrdinary_iff_mem_lineage (exists_lineage : c.lineage = .ok l) :
    c.isOrdinary = true ↔ ⟨"Exception", none⟩ ∈ l := by
  rw [mem_lineage_iff exists_lineage]
  simp [isOrdinary]

end ErrorClass
end OpenBroker
