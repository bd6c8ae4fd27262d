import OpenBroker.Proofs.Contract
import OpenBroker.Proofs.Text

/-! # Addresses of dashboards

The base that the addresses of dashboards begin with loses the slashes at its end, so it does not
matter how many there were (`create_append_slashes`).  If nothing is left of it there are no
dashboards.  Otherwise the address of an instance's dashboard is what is left, which does not end
in a slash, and then the identifier behind `/instances/`.  As what is left is the same in every
address, addresses differ when identifiers do, whatever slashes these have in them.

What a provision returns in a run depends on its identifier alone (`Provides.eq_dashboard`), so all
this is so for every run, and from any state.
-/
namespace OpenBroker
namespace Memory

variable {m : Memory} {catalog? : Option Value} {limit : Int} {base : Text}
  {passwords : Nat → Text} {calls : List Action} {s : State} {i : Text} {v : Value}

/-! ## Bases -/

theorem trimBase_append_slashes (base : Text) (k : Nat) :
    trimBase (base ++ Text.replicate k '/') = trimBase base :=
  Text.dropEndWhile_append_replicate (by decide) base k

theorem trimBase_eq_nil_iff : trimBase base = [] ↔ ∀ c ∈ base, c = '/' := by
  have dropped : trimBase base = [] ↔ ∀ c ∈ base, decide (c = '/') = true :=
    List.rdropWhile_eq_nil_iff
  simpa using dropped

/-- **What is left of a base** does not end in a slash. -/
theorem getLast?_trimBase (base : Text) : (trimBase base).getLast? ≠ some '/' := by
  intro last
  have other := Text.of_getLast?_dropEndWhile last
  exact absurd other (by decide)

/-- **What a base loses** are slashes. -/
theorem exists_eq_trimBase_append (base : Text) :
    ∃ k, base = trimBase base ++ Text.replicate k '/' := by
  obtain ⟨dropped, whole, slashes⟩ :=
    Text.exists_eq_dropEndWhile_append (fun c => decide (c = '/')) base
  have copies : dropped = Text.replicate dropped.length '/' :=
    List.eq_replicate_iff.mpr ⟨rfl, fun c mem => of_decide_eq_true (slashes c mem)⟩
  exact ⟨dropped.length, copies ▸ whole⟩

/-- **Slashes at the end of a base** make no other broker. -/
theorem create_append_slashes (catalog? : Option Value) (limit : Int) (base : Text) (k : Nat) :
    create catalog? limit (base ++ Text.replicate k '/') = create catalog? limit base := by
  unfold create
  rw [trimBase_append_slashes]

theorem dashboardBase_of_create (created : create catalog? limit base = .ok m) :
    m.dashboardBase = trimBase base := by
  unfold create at created
  split at created
  · cases created
  · cases created
    rfl

/-! ## What provisions return -/

/-- **Provides**: in a run, a provision of an instance succeeds and returns a value. -/
def Provides (m : Memory) (passwords : Nat → Text) (calls : List Action) (s : State) (i : Text)
    (v : Value) : Prop :=
  ∃ k : Nat, calls[k]? = some (.provision i) ∧ (m.answers passwords calls s)[k]? = some (.ok v)

/-- An action that succeeds returns what its success is answered with, with some password. -/
theorem exists_success_of_perform {a : Action} (done : (m.perform passwords a s).1 = .ok v) :
    ∃ password, v = m.success password a := by
  rcases m.perform_cases passwords a s with ⟨t, -, carried⟩ | ⟨e, -, refused⟩
  · rw [carried] at done
    exact ⟨_, (Except.ok.inj done).symm⟩
  · rw [refused] at done
    cases done

/-- The same of an action anywhere in a run. -/
theorem exists_success_of_answers {a : Action} {k : Nat} (called : calls[k]? = some a)
    (answered : (m.answers passwords calls s)[k]? = some (.ok v)) :
    ∃ password, v = m.success password a := by
  induction calls generalizing s k with
  | nil => cases called
  | cons a' rest ih =>
    cases k with
    | zero =>
      cases called
      exact exists_success_of_perform (Option.some.inj answered)
    | succ k => exact ih called answered

/-- **What a provision returns** is the address of the dashboard, in every run. -/
theorem Provides.eq_dashboard (provided : m.Provides passwords calls s i v) :
    v = .text (m.dashboard i) := by
  obtain ⟨k, called, answered⟩ := provided
  obtain ⟨password, rfl⟩ := exists_success_of_answers called answered
  rfl

/-- **Addresses of dashboards** are well formed and tell instances apart.  A broker is created with
some base.

* With any number of slashes more at the end of the base, a broker is created that shows the same
  catalog and that answers every run of actions in the same way.
* If there are only slashes in the base, every provision that succeeds returns the empty text.
* Otherwise the base is some text that does not end in a slash, with slashes behind it, and every
  provision that succeeds in a run returns this text with `/instances/` and the identifier behind
  it; so two of them return the same only for the same identifier. -/
theorem dashboards_of_create (created : create catalog? limit base = .ok m) :
    (∀ k, ∃ m', create catalog? limit (base ++ Text.replicate k '/') = .ok m' ∧
      m'.catalog = m.catalog ∧ ∀ passwords calls s,
        m'.answers passwords calls s = m.answers passwords calls s ∧
        m'.run passwords calls s = m.run passwords calls s) ∧
    ((∀ c ∈ base, c = '/') → ∀ passwords calls s i v,
      m.Provides passwords calls s i v → v = .text []) ∧
    (¬ (∀ c ∈ base, c = '/') → ∃ front : Text, front ≠ [] ∧ front.getLast? ≠ some '/' ∧
      (∃ k, base = front ++ Text.replicate k '/') ∧
      ∀ passwords calls s i v, m.Provides passwords calls s i v →
        v = .text (front ++ "/instances/" ++ i) ∧
        ∀ j, m.Provides passwords calls s j v → i = j) := by
  have trimmed := dashboardBase_of_create created
  refine ⟨fun k => ?_, fun slashes passwords calls s i v provided => ?_, fun other => ?_⟩
  · exact ⟨m, (create_append_slashes ..).trans created, rfl, fun _ _ _ => ⟨rfl, rfl⟩⟩
  · rw [provided.eq_dashboard, dashboard_eq, trimmed, if_pos (trimBase_eq_nil_iff.mpr slashes)]
  · have visible : trimBase base ≠ [] := fun nothing => other (trimBase_eq_nil_iff.mp nothing)
    refine ⟨trimBase base, visible, getLast?_trimBase base, exists_eq_trimBase_append base, ?_⟩
    have address (i : Text) : m.dashboard i = trimBase base ++ "/instances/" ++ i := by
      rw [dashboard_eq, trimmed, if_neg visible]
    intro passwords calls s i v provided
    have shown := provided.eq_dashboard
    rw [address] at shown
    refine ⟨shown, fun j provided' => ?_⟩
    have shown' := provided'.eq_dashboard
    rw [address] at shown'
    exact List.append_cancel_left (Value.text.inj (shown.symm.trans shown'))

/-- The base ends like what comes between it and an identifier, and one of the identifiers begins
like that. -/
theorem dashboards_of_create_nested :
    let m : Memory := ⟨.null, 0, "http://d/instances"⟩
    let calls : List Action := [.provision "a", .provision "/instances/a"]
    let passwords : Nat → Text := fun _ => []
    let v : Value := .text "http://d/instances/instances//instances/a"
    create (some .null) 0 "http://d/instances//" = .ok m ∧
      m.Provides passwords calls fresh "/instances/a" v ∧
      ¬ m.Provides passwords calls fresh "a" v ∧
      ∃ m', create (some .null) 0 "http://d/instances////" = .ok m' ∧
        m'.answers passwords calls fresh = m.answers passwords calls fresh := by
  intro m calls passwords v
  have created : create (some .null) 0 "http://d/instances//" = .ok m := rfl
  have provided : m.Provides passwords calls fresh "/instances/a" v := ⟨1, rfl, rfl⟩
  obtain ⟨more, -, otherwise⟩ := dashboards_of_create created
  have other : ¬ ∀ c ∈ ("http://d/instances//" : Text), c = '/' := fun slashes =>
    absurd (slashes 'h' (List.mem_cons_self ..)) (by decide)
  obtain ⟨front, -, -, -, provides⟩ := otherwise other
  obtain ⟨m', created', same⟩ := more 2
  refine ⟨created, provided, fun provided' => ?_, m', created', (same.2 passwords calls fresh).1⟩
  have ids := (provides passwords calls fresh _ v provided).2 "a" provided'
  exact absurd ids (by decide)

end Memory
end OpenBroker
