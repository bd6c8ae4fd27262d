import OpenBroker.Proofs.Keyed
import OpenBroker.Proofs.Logger

/-! # The loggers above a logger

Names with dots in them form a tree, and loggers stand in it by their names.  What stands above a
logger is looked up once, when the logger is mentioned, and put right when another comes to stand
between.  So that it is right is an invariant (`Linked`): a logger stands below the nearest one that
is known, or else below the root.

The tree is not quite the one that is read off the names.  Of two dots side by side only one
divides.  And another logger comes between only if its name does not begin the name of what stands
above; since this is tried on the name of the root too, a logger that is named with a beginning of
that name may be passed over.

Going up, names get shorter until the root is reached.  So a logger stands above another only once,
and the bound of `ancestors` is never met (`rootName_mem_ancestorsUpTo`).
-/
namespace OpenBroker
namespace Log

/-! ## Names -/

variable {s name m n new above : Text}

/-- **Before a dot** of a name stands another. -/
def BeforeDot (m name : Text) : Prop := (m ++ "." : Text) <+: name

/-- **Plain**: no two dots stand side by side in a name. -/
def Plain (name : Text) : Prop := ¬ (".." : Text) <:+: name

theorem BeforeDot.length_lt (before : BeforeDot m name) : m.length < name.length := by
  have shorter := List.IsPrefix.length_le before
  rw [List.length_append] at shorter
  exact shorter

theorem BeforeDot.begins (before : BeforeDot m name) : m <+: name :=
  (List.prefix_append m ".").trans before

/-- There is no dot in a name of the root. -/
theorem BeforeDot.inner (before : BeforeDot m name) : isRoot name = false := by
  refine Bool.eq_false_iff.mpr fun root => ?_
  rcases Bool.or_eq_true_iff.mp root with empty | same
  · rw [List.isEmpty_iff.mp empty] at before
    exact absurd before.length_lt (Nat.not_lt_zero _)
  · rw [eq_of_beq same] at before
    have dot : CodePoint.ofChar '.' ∈ rootName :=
      List.IsPrefix.subset before (List.mem_append_right m (List.mem_singleton_self _))
    exact absurd dot (by decide)

/-- Of two names before dots of a third, the shorter stands before a dot of the longer. -/
theorem BeforeDot.of_length_lt (hm : BeforeDot m name) (hn : BeforeDot n name)
    (shorter : m.length < n.length) : BeforeDot m n := by
  refine List.prefix_of_prefix_length_le hm hn.begins ?_
  rw [List.length_append]
  exact shorter

theorem of_mem_namesAbove (h : m ∈ namesAbove s) : m ≠ [] ∧ BeforeDot m s.reverse := by
  fun_induction namesAbove s with
  | case1 d before ih =>
    rcases List.mem_cons.mp h with rfl | further
    · refine ⟨fun nothing => List.cons_ne_nil d before (List.reverse_eq_nil_iff.mp nothing), ?_⟩
      exact ⟨[], List.append_nil _ |>.trans List.reverse_cons.symm⟩
    · refine ⟨(ih further).1, (ih further).2.trans (List.reverse_prefix.mpr ?_)⟩
      exact (List.suffix_cons d before).trans (List.suffix_cons _ _)
  | case2 c d before noDot ih =>
    exact ⟨(ih h).1, (ih h).2.trans (List.reverse_prefix.mpr (List.suffix_cons c _))⟩
  | case3 => cases h

/-- Of the names above a name, those further up begin the nearer ones. -/
theorem pairwise_namesAbove (s : Text) :
    (namesAbove s).Pairwise fun nearer further => further <+: nearer := by
  fun_induction namesAbove s with
  | case1 d before ih =>
    refine List.pairwise_cons.mpr ⟨fun m h => ?_, ih⟩
    exact (of_mem_namesAbove h).2.begins.trans (List.reverse_prefix.mpr (List.suffix_cons d before))
  | case2 c d before noDot ih => exact ih
  | case3 => exact .nil

theorem Plain.of_begins (plain : Plain name) (begins : m <+: name) : Plain m :=
  fun dots => plain (dots.trans begins.isInfix)

/-- **What stands before a dot** of a plain name is above it. -/
theorem mem_namesAbove (plain : Plain s.reverse) (visible : m ≠ [])
    (dotted : BeforeDot m s.reverse) : m ∈ namesAbove s := by
  fun_induction namesAbove s with
  | case1 d before ih =>
    rw [List.reverse_cons] at plain dotted
    rcases List.prefix_concat_iff.mp dotted with whole | inside
    · exact List.mem_cons.mpr (.inl (List.append_cancel_right whole))
    · rw [List.reverse_cons] at plain inside
      rcases List.prefix_concat_iff.mp inside with two | further
      · -- the dot would be the second of two
        refine absurd ?_ plain
        rw [← two, List.append_assoc]
        exact (List.suffix_append m _).isInfix
      · have rest := (plain.of_begins (List.prefix_append _ _)).of_begins (List.prefix_append _ _)
        exact List.mem_cons_of_mem _ (ih rest further)
  | case2 c d before noDot ih =>
    rw [List.reverse_cons] at plain dotted
    rcases List.prefix_concat_iff.mp dotted with whole | inside
    · exact absurd (List.singleton_inj.mp (List.append_inj_right' whole rfl)).symm noDot
    · exact ih (plain.of_begins (List.prefix_append _ _)) inside
  | case3 s short =>
    have longer := dotted.length_lt
    have long := List.length_pos_iff.mpr visible
    match s with
    | [] => exact absurd longer (Nat.not_lt_zero _)
    | [_] => exact absurd (Nat.lt_one_iff.mp longer) (Nat.ne_of_gt long)
    | c :: d :: before => exact absurd rfl (short c d before)

/-! ## What stands above -/

/-- **Placed**: a name stands below the root or below another that is known, and no known one comes
between, except that the name of the root may begin with it. -/
structure Placed (known : List Text) (name above : Text) : Prop where
  stands : above = rootName ∨ (above ∈ namesAbove name.reverse ∧ above ∈ known)
  nearest : ∀ m ∈ namesAbove name.reverse, m ∈ known → m <+: rootName ∨ m <+: above

/-- **Linked**: the loggers with names of their own are placed. -/
structure Linked (named : Keyed Logger) : Prop where
  inner : ∀ n ∈ Keyed.keys named, isRoot n = false
  placed : ∀ n l, Keyed.find? n named = some l → Placed (Keyed.keys named) n l.above

theorem beforeDot_of_mem_namesAbove (h : m ∈ namesAbove name.reverse) : BeforeDot m name := by
  have dotted := (of_mem_namesAbove h).2
  rwa [List.reverse_reverse] at dotted

variable {known : List Text} {l : Logger} {named : Keyed Logger} {r : Registry}

/-- A name that is not above another changes nothing for it. -/
theorem Placed.append_of_notMem (placed : Placed known name above)
    (apart : new ∉ namesAbove name.reverse) : Placed (known ++ [new]) name above where
  stands := placed.stands.imp_right fun both => ⟨both.1, List.mem_append_left _ both.2⟩
  nearest m stands added := by
    rcases List.mem_append.mp added with old | self
    · exact placed.nearest m stands old
    · exact absurd (List.mem_singleton.mp self ▸ stands) apart

/-- A name may come in that begins the name of what stands above. -/
theorem Placed.append_of_begins (placed : Placed known name above) (begins : new <+: above) :
    Placed (known ++ [new]) name above where
  stands := placed.stands.imp_right fun both => ⟨both.1, List.mem_append_left _ both.2⟩
  nearest m stands added := by
    rcases List.mem_append.mp added with old | self
    · exact placed.nearest m stands old
    · exact .inr (List.mem_singleton.mp self ▸ begins)

/-- A name comes between if it does not begin the name of what stood above. -/
theorem Placed.append_between (placed : Placed known name above)
    (stands : new ∈ namesAbove name.reverse) (apart : ¬ new <+: above) :
    Placed (known ++ [new]) name new where
  stands := .inr ⟨stands, List.mem_append_right _ (List.mem_singleton_self new)⟩
  nearest m stands' added := by
    have begins {m : Text} (h : m ∈ namesAbove name.reverse) : m <+: name :=
      (beforeDot_of_mem_namesAbove h).begins
    rcases List.mem_append.mp added with old | self
    · rcases placed.nearest m stands' old with root | further
      · exact .inl root
      · rcases placed.stands with rfl | ⟨stood, -⟩
        · exact .inl further
        · -- what stood above is shorter than the new name, and so is what is further up
          have shorter : above.length ≤ new.length := Nat.le_of_lt <| Nat.lt_of_not_le fun longer =>
            apart (List.prefix_of_prefix_length_le (begins stands) (begins stood) longer)
          exact .inr (List.prefix_of_prefix_length_le (begins stands') (begins stands)
            (Nat.le_trans further.length_le shorter))
    · exact .inr (List.mem_singleton.mp self ▸ List.prefix_rfl)

/-- **A new name** comes to stand above a name, or it does not. -/
theorem Placed.append (placed : Placed known name l.above) :
    Placed (known ++ [new]) name (Registry.reparented new name l).above := by
  unfold Registry.reparented
  split
  · next moved =>
    obtain ⟨stands, apart⟩ := Bool.and_eq_true_iff.mp moved
    refine placed.append_between (List.contains_iff_mem.mp stands) fun begins => ?_
    rw [Text.startsWith, List.isPrefixOf_iff_prefix.mpr begins] at apart
    cases apart
  · next kept =>
    by_cases stands : new ∈ namesAbove name.reverse
    · refine placed.append_of_begins ?_
      rw [List.contains_iff_mem.mpr stands, Bool.true_and, Bool.not_eq_true,
        Bool.not_eq_false'] at kept
      exact List.isPrefixOf_iff_prefix.mp kept
    · exact placed.append_of_notMem stands

namespace Registry

/-- What is looked up is right. -/
theorem placed_above (r : Registry) (name : Text) :
    Placed (Keyed.keys r.named) name (r.above name) := by
  unfold Registry.above
  cases found : (namesAbove name.reverse).find? fun n => Keyed.has n r.named with
  | none =>
    refine ⟨.inl rfl, fun m stands known => ?_⟩
    exact absurd (Keyed.has_iff.mpr known) (List.find?_eq_none.mp found m stands)
  | some nearest =>
    obtain ⟨has, before, after, split, nearer⟩ := List.find?_eq_some_iff_append.mp found
    refine ⟨.inr ⟨List.mem_of_find?_eq_some found, Keyed.has_iff.mp has⟩, fun m stands known => ?_⟩
    have begins := pairwise_namesAbove name.reverse
    rw [split] at stands begins
    rcases List.mem_append.mp stands with h | h
    · have unknown := nearer m h
      rw [Keyed.has_iff.mpr known] at unknown
      cases unknown
    · rcases List.mem_cons.mp h with rfl | further
      · exact .inr List.prefix_rfl
      · exact .inr ((List.pairwise_cons.mp (List.pairwise_append.mp begins).2.1).1 m further)

theorem placed_logger (linked : Linked r.named) (inner : isRoot name = false) :
    Placed (Keyed.keys r.named) name (r.logger name).above := by
  rw [logger_of_not_isRoot inner]
  cases found : Keyed.find? name r.named with
  | none => exact r.placed_above name
  | some l => exact linked.placed name l found

/-! ## What keeps loggers linked -/

theorem linked_initial : Linked initial.named := ⟨nofun, nofun⟩

/-- **Mentioning a logger** puts all of them in place. -/
theorem linked_mention (linked : Linked r.named) (new : Text) : Linked (r.mention new).named := by
  by_cases old : r.Known new
  · rwa [mention_of_known old]
  refine ⟨?_, ?_⟩
  · rw [keys_mention_of_new old]
    intro n h
    rcases List.mem_append.mp h with h | h
    · exact linked.inner n h
    · exact List.mem_singleton.mp h ▸ Bool.eq_false_iff.mpr (not_or.mp old).1
  · rw [keys_mention_of_new old, mention_of_new old]
    intro n l found
    by_cases self : n = new
    · subst self
      rw [Keyed.find?_put_self, Option.some.injEq] at found
      subst found
      refine (r.placed_above n).append_of_notMem fun h => ?_
      exact Nat.lt_irrefl _ (beforeDot_of_mem_namesAbove h).length_lt
    · rw [Keyed.find?_put_of_ne self, find?_map_reparented] at found
      obtain ⟨l', found', rfl⟩ := Option.map_eq_some_iff.mp found
      exact (linked.placed n l' found').append

/-- **Replacing a logger** moves nothing, if the new one stands where the old one stood. -/
theorem linked_set (linked : Linked r.named) (known : r.Known name)
    (same : l.above = (r.logger name).above) : Linked (r.set name l).named := by
  refine ⟨?_, ?_⟩
  · rw [keys_set_of_known known]
    exact linked.inner
  · rw [keys_set_of_known known]
    intro n l' found
    unfold set at found
    by_cases root : isRoot name = true
    · rw [if_pos root] at found
      exact linked.placed n l' found
    · rw [if_neg root] at found
      by_cases self : n = name
      · subst self
        rw [Keyed.find?_put_self, Option.some.injEq] at found
        subst found
        rw [same]
        exact placed_logger linked (Bool.eq_false_iff.mpr root)
      · rw [Keyed.find?_put_of_ne self] at found
        exact linked.placed n l' found

/-! ## Going up -/

/-- The names above a logger up to the root, nearest first.  The first argument bounds their
number. -/
def ancestorsUpTo (r : Registry) : Nat → Text → List Text
  | 0, _ => []
  | bound + 1, name =>
    if isRoot name then []
    else (r.logger name).above :: r.ancestorsUpTo bound (r.logger name).above

/-- **The ancestors** of a logger, nearest first. -/
def ancestors (r : Registry) (name : Text) : List Text := r.ancestorsUpTo (name.length + 1) name

theorem lineage_succ (r : Registry) (bound : Nat) (name : Text) :
    r.lineage (bound + 1) name = (name :: r.ancestorsUpTo bound name).map r.logger := by
  induction bound generalizing name with
  | zero =>
    rw [lineage, ancestorsUpTo]
    split <;> rfl
  | succ bound ih =>
    rw [lineage, ancestorsUpTo]
    split
    · rfl
    · rw [ih]
      rfl

theorem chain_eq (r : Registry) (name : Text) :
    r.chain name = (name :: r.ancestors name).map r.logger := r.lineage_succ (name.length + 1) name

variable {bound : Nat}

theorem ancestorsUpTo_of_isRoot (root : isRoot name = true) : r.ancestorsUpTo bound name = [] := by
  cases bound with
  | zero => rfl
  | succ bound => exact if_pos root

theorem ancestorsUpTo_of_inner (inner : isRoot name = false) :
    r.ancestorsUpTo (bound + 1) name =
      (r.logger name).above :: r.ancestorsUpTo bound (r.logger name).above :=
  if_neg (Bool.eq_false_iff.mp inner)

/-- **One step up** leads to the root, or to the nearest known name. -/
theorem ancestorsUpTo_cases (linked : Linked r.named) (inner : isRoot name = false) (bound : Nat) :
    (r.ancestorsUpTo (bound + 1) name = [rootName] ∧
        ∀ m ∈ namesAbove name.reverse, m ∈ Keyed.keys r.named → m <+: rootName) ∨
      ∃ above ∈ Keyed.keys r.named, BeforeDot above name ∧
        r.ancestorsUpTo (bound + 1) name = above :: r.ancestorsUpTo bound above ∧
        ∀ m ∈ namesAbove name.reverse, m ∈ Keyed.keys r.named → m <+: rootName ∨ m <+: above := by
  rw [ancestorsUpTo_of_inner inner]
  obtain ⟨stands, nearest⟩ := placed_logger linked inner
  rcases stands with root | ⟨stands, known⟩
  · rw [root] at nearest ⊢
    refine .inl ⟨?_, fun m stands known => or_self_iff.mp (nearest m stands known)⟩
    rw [ancestorsUpTo_of_isRoot (by decide)]
  · exact .inr ⟨_, known, beforeDot_of_mem_namesAbove stands, rfl, nearest⟩

/-- Above a logger stand the root and loggers that its name says. -/
theorem of_mem_ancestorsUpTo (linked : Linked r.named) (h : n ∈ r.ancestorsUpTo bound name) :
    n = rootName ∨ (n ∈ Keyed.keys r.named ∧ BeforeDot n name) := by
  induction bound generalizing name with
  | zero => cases h
  | succ bound ih =>
    by_cases root : isRoot name = true
    · rw [ancestorsUpTo_of_isRoot root] at h
      cases h
    rcases ancestorsUpTo_cases linked (Bool.eq_false_iff.mpr root) bound with
      ⟨top, -⟩ | ⟨above, known, dotted, up, -⟩
    · rw [top] at h
      exact .inl (List.mem_singleton.mp h)
    · rw [up] at h
      rcases List.mem_cons.mp h with rfl | further
      · exact .inr ⟨known, dotted⟩
      · exact (ih further).imp_right fun both => ⟨both.1, both.2.trans dotted.begins⟩

theorem nodup_ancestorsUpTo (linked : Linked r.named) (bound : Nat) (name : Text) :
    (r.ancestorsUpTo bound name).Nodup := by
  induction bound generalizing name with
  | zero => exact .nil
  | succ bound ih =>
    by_cases root : isRoot name = true
    · rw [ancestorsUpTo_of_isRoot root]
      exact .nil
    rcases ancestorsUpTo_cases linked (Bool.eq_false_iff.mpr root) bound with
      ⟨top, -⟩ | ⟨above, known, -, up, -⟩
    · rw [top]
      exact List.nodup_cons.mpr ⟨List.not_mem_nil, .nil⟩
    · rw [up]
      refine List.nodup_cons.mpr ⟨fun again => ?_, ih above⟩
      rcases of_mem_ancestorsUpTo linked again with rfl | ⟨-, dotted⟩
      · exact ne_rootName_of_isRoot (linked.inner _ known) rfl
      · exact Nat.lt_irrefl _ dotted.length_lt

/-- **The root is reached** from every other logger, if the bound is not below the length of its
name. -/
theorem rootName_mem_ancestorsUpTo (linked : Linked r.named) (inner : isRoot name = false)
    (enough : name.length ≤ bound) : rootName ∈ r.ancestorsUpTo bound name := by
  induction bound generalizing name with
  | zero =>
    rw [List.length_eq_zero_iff.mp (Nat.le_zero.mp enough)] at inner
    cases inner
  | succ bound ih =>
    rcases ancestorsUpTo_cases linked inner bound with ⟨top, -⟩ | ⟨above, known, dotted, up, -⟩
    · rw [top]
      exact List.mem_singleton_self rootName
    · rw [up]
      have shorter := dotted.length_lt
      exact List.mem_cons_of_mem _ (ih (linked.inner above known) (by omega))

/-- **What a plain name says** stands above its logger. -/
theorem mem_ancestorsUpTo (linked : Linked r.named) (plain : Plain name)
    (known : n ∈ Keyed.keys r.named) (apart : ¬ n <+: rootName) (dotted : BeforeDot n name)
    (enough : name.length ≤ bound) : n ∈ r.ancestorsUpTo bound name := by
  induction bound generalizing name with
  | zero => exact absurd dotted.length_lt (by omega)
  | succ bound ih =>
    have stands : n ∈ namesAbove name.reverse := by
      rw [← name.reverse_reverse] at plain dotted
      exact mem_namesAbove plain (fun empty => apart (empty ▸ List.nil_prefix)) dotted
    rcases ancestorsUpTo_cases linked dotted.inner bound with
      ⟨-, nearest⟩ | ⟨above, -, between, up, nearest⟩
    · exact absurd (nearest n stands known) apart
    · rw [up]
      have begins := (nearest n stands known).resolve_left apart
      rcases Nat.lt_or_eq_of_le begins.length_le with shorter | same
      · have less := between.length_lt
        exact List.mem_cons_of_mem _ (ih (plain.of_begins between.begins)
          (dotted.of_length_lt between shorter) (by omega))
      · exact List.mem_cons.mpr (.inl (begins.eq_of_length same))

/-- **As the names say**: above a logger stand, each of them once, the root, if it is another, and
loggers that are named before a dot of its name.  If the name is plain, these are all, except for
those that the name of the root begins with. -/
structure AsNamed (r : Registry) (name : Text) : Prop where
  once : (r.ancestors name).Nodup
  root : rootName ∈ r.ancestors name ↔ isRoot name = false
  dotted : ∀ n ∈ r.ancestors name, n = rootName ∨ BeforeDot n name
  all : Plain name → ∀ n ∈ Keyed.keys r.named, BeforeDot n name → ¬ n <+: rootName →
    n ∈ r.ancestors name

theorem asNamed_of_linked (linked : Linked r.named) (name : Text) : AsNamed r name where
  once := nodup_ancestorsUpTo linked ..
  root := by
    constructor
    · intro reached
      refine Bool.eq_false_iff.mpr fun root => ?_
      rw [ancestors, ancestorsUpTo_of_isRoot root] at reached
      cases reached
    · intro inner
      exact rootName_mem_ancestorsUpTo linked inner (Nat.le_succ _)
  dotted := fun n h => (of_mem_ancestorsUpTo linked h).imp_right And.right
  all := fun plain _ known dotted apart =>
    mem_ancestorsUpTo linked plain known apart dotted (Nat.le_succ _)

end Registry
end Log
end OpenBroker
