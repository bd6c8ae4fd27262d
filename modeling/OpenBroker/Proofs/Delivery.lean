import OpenBroker.Http.Service

/-! # Which requests reach a broker

A path is taken apart at its slashes, and nothing is lost by that: the parts joined again
are the path (`join_split`), and no part has a slash in it.  So the path of an endpoint can
be read off the endpoint (`ofPath?_eq_instance_iff`, `ofPath?_eq_binding_iff`), whatever
the identifiers in it are.

A broker is asked to act for just the requests that are delivered to one of its actions
(`task_eq_action_iff`): a `PUT` or a `DELETE` whose path is that of an instance or of a
binding.
-/
namespace OpenBroker

/-! ## Splitting and joining -/

namespace Text

variable {separator : CodePoint} {part : Text}

theorem split_cons_self (separator : CodePoint) (t : Text) :
    split separator (separator :: t) = [] :: split separator t := by
  simp [split]

theorem split_ne_nil (separator : CodePoint) (t : Text) : split separator t ≠ [] := by
  cases t with
  | nil => simp [split]
  | cons c rest =>
    by_cases h : c = separator
    · simp [split, h]
    · have ne := split_ne_nil separator rest
      simpa [split, h] using ne

theorem join_split (separator : CodePoint) (t : Text) :
    join [separator] (split separator t) = t := by
  induction t with
  | nil => rfl
  | cons c rest ih =>
    obtain ⟨first, others, hs⟩ := List.exists_cons_of_ne_nil (split_ne_nil separator rest)
    rw [hs] at ih
    by_cases h : c = separator
    · rw [h, split_cons_self, hs, join, ih]
      rfl
    · have split_eq : split separator (c :: rest) = (c :: first) :: others := by
        simp [split, h, hs]
      rw [split_eq, ← ih]
      cases others <;> rfl

theorem notMem_of_mem_split {t : Text} (h : part ∈ split separator t) : separator ∉ part := by
  induction t generalizing part with
  | nil =>
    rw [List.mem_singleton.mp h]
    exact List.not_mem_nil
  | cons c rest ih =>
    by_cases hc : c = separator
    · rw [hc, split_cons_self] at h
      rcases List.mem_cons.mp h with rfl | h
      · exact List.not_mem_nil
      · exact ih h
    · obtain ⟨first, others, hs⟩ := List.exists_cons_of_ne_nil (split_ne_nil separator rest)
      rw [hs] at ih
      have split_eq : split separator (c :: rest) = (c :: first) :: others := by
        simp [split, hc, hs]
      rw [split_eq] at h
      rcases List.mem_cons.mp h with rfl | h
      · have hf := ih (List.mem_cons_self ..)
        simp [hf, Ne.symm hc]
      · exact ih (List.mem_cons_of_mem _ h)

/-- A part without the separator is split off. -/
theorem split_append (h : separator ∉ part) (t : Text) :
    split separator (part ++ separator :: t) = part :: split separator t := by
  induction part with
  | nil => exact split_cons_self separator t
  | cons c rest ih =>
    rw [List.mem_cons, not_or] at h
    simp [split, Ne.symm h.1, ih h.2]

theorem split_of_notMem (h : separator ∉ part) : split separator part = [part] := by
  induction part with
  | nil => rfl
  | cons c rest ih =>
    rw [List.mem_cons, not_or] at h
    simp [split, Ne.symm h.1, ih h.2]

theorem split_join {parts : List Text} (ne : parts ≠ []) (h : ∀ part ∈ parts, separator ∉ part) :
    split separator (join [separator] parts) = parts := by
  induction parts with
  | nil => exact absurd rfl ne
  | cons part rest ih =>
    have hp : separator ∉ part := h part (List.mem_cons_self ..)
    cases rest with
    | nil => exact split_of_notMem hp
    | cons next others =>
      rw [join, List.append_assoc, List.singleton_append, split_append hp,
        ih (List.cons_ne_nil _ _) fun p hp => h p (List.mem_cons_of_mem _ hp)]

/-- **Splitting is unique**: the parts of a text are the only ones that give it when they
are joined, as far as no part has the separator in it. -/
theorem split_eq_iff {t : Text} {parts : List Text} (ne : parts ≠ []) :
    split separator t = parts ↔
      t = join [separator] parts ∧ ∀ part ∈ parts, separator ∉ part := by
  constructor
  · rintro rfl
    exact ⟨(join_split separator t).symm, fun part => notMem_of_mem_split⟩
  · rintro ⟨rfl, h⟩
    exact split_join ne h

theorem mem_join {c : CodePoint} {between : Text} {parts : List Text} (h : c ∈ join between parts) :
    c ∈ between ∨ ∃ part ∈ parts, c ∈ part := by
  induction parts with
  | nil => cases h
  | cons part rest ih =>
    cases rest with
    | nil => exact .inr ⟨part, List.mem_singleton_self part, h⟩
    | cons next others =>
      rcases List.mem_append.mp h with h | h
      · rcases List.mem_append.mp h with h | h
        · exact .inr ⟨part, List.mem_cons_self .., h⟩
        · exact .inl h
      · rcases ih h with h | ⟨p, hp, hc⟩
        · exact .inl h
        · exact .inr ⟨p, List.mem_cons_of_mem _ hp, hc⟩

theorem mem_join_of_mem {c : CodePoint} {between : Text} {parts : List Text} (h : part ∈ parts)
    (hc : c ∈ part) : c ∈ join between parts := by
  induction parts with
  | nil => cases h
  | cons first rest ih =>
    cases rest with
    | nil =>
      rw [List.mem_singleton.mp h] at hc
      exact hc
    | cons next others =>
      rcases List.mem_cons.mp h with rfl | h
      · exact List.mem_append_left _ (List.mem_append_left _ hc)
      · exact List.mem_append_right _ (ih h)

theorem mem_of_mem_split {c : CodePoint} {t : Text} (h : part ∈ split separator t) (hc : c ∈ part) :
    c ∈ t := by
  rw [← join_split separator t]
  exact mem_join_of_mem h hc

/-- Nothing but the separators is lost by splitting. -/
theorem exists_mem_split_of_mem {c : CodePoint} {t : Text} (h : c ∈ t) (ne : c ≠ separator) :
    ∃ part ∈ split separator t, c ∈ part := by
  rw [← join_split separator t] at h
  rcases mem_join h with between | found
  · exact absurd (List.mem_singleton.mp between) ne
  · exact found

end Text

/-! ## Paths -/

namespace Action

/-- The endpoint of an action. -/
def endpoint : Action → Http.Endpoint
  | provision i | deprovision i => .instance i
  | bind i b | unbind i b => .binding i b

/-- The method of an action. -/
def verb : Action → Text
  | provision _ | bind _ _ => "PUT"
  | deprovision _ | unbind _ _ => "DELETE"

theorem verb_eq (a : Action) : a.verb = "PUT" ∨ a.verb = "DELETE" := by
  cases a with
  | provision | bind => exact .inl rfl
  | deprovision | unbind => exact .inr rfl

/-- **The path of an action.** -/
def path : Action → Text
  | provision i | deprovision i => "/v2/service_instances/" ++ i
  | bind i b | unbind i b => "/v2/service_instances/" ++ i ++ "/service_bindings/" ++ b

end Action

namespace Http
namespace Endpoint

variable {segments : List Text} {rest i b : Text} {e : Endpoint}

/-- Apart from the files and the two reports, all endpoints are below `v2`. -/
theorem exists_serviceSegments (h : ofSegments? segments = some e)
    (other : e ≠ asset ∧ e ≠ health ∧ e ≠ ready) :
    ∃ rest, segments = ("v2" : Text) :: rest ∧ ofServiceSegments? rest = some e := by
  obtain ⟨ha, hh, hr⟩ := other
  cases segments with
  | nil => cases h
  | cons a rest =>
    rw [ofSegments?] at h
    split at h
    · rename_i hv
      exact ⟨rest, by rw [hv], h⟩
    · repeat' split at h
      all_goals cases h
      all_goals contradiction

theorem ofSegments?_eq_instance_iff :
    ofSegments? segments = some (.instance i) ↔
      segments = [("v2" : Text), ("service_instances" : Text), i] ∧ i ≠ [] := by
  constructor
  · intro h
    obtain ⟨rest, rfl, h'⟩ := exists_serviceSegments h (by simp)
    unfold ofServiceSegments? at h'
    repeat' split at h'
    all_goals cases h'
    rename_i hs
    exact ⟨by rw [hs.1], hs.2⟩
  · rintro ⟨rfl, hi⟩
    simp [ofSegments?, ofServiceSegments?, hi]

theorem ofSegments?_eq_binding_iff :
    ofSegments? segments = some (binding i b) ↔
      segments = [("v2" : Text), ("service_instances" : Text), i,
        ("service_bindings" : Text), b] ∧ i ≠ [] ∧ b ≠ [] := by
  constructor
  · intro h
    obtain ⟨rest, rfl, h'⟩ := exists_serviceSegments h (by simp)
    unfold ofServiceSegments? at h'
    repeat' split at h'
    all_goals cases h'
    rename_i hs
    exact ⟨by rw [hs.1, hs.2.2.1], hs.2.1, hs.2.2.2⟩
  · rintro ⟨rfl, hi, hb⟩
    simp [ofSegments?, ofServiceSegments?, hi, hb]

theorem ofPath?_root (rest : Text) :
    ofPath? (('/' : CodePoint) :: rest) = ofSegments? (Text.split '/' rest) := by
  rw [ofPath?, Text.split_cons_self]
  rfl

/-- **The path of an endpoint** of actions is the path of those actions, and any identifiers
will do that are not empty and have no slash in them. -/
theorem ofPath?_eq_endpoint_iff (a : Action) :
    ofPath? (('/' : CodePoint) :: rest) = some a.endpoint ↔
      ('/' : CodePoint) :: rest = a.path ∧ ∀ id ∈ a.ids, id ≠ [] ∧ ('/' : CodePoint) ∉ id := by
  have hv : ('/' : CodePoint) ∉ ("v2" : Text) := by decide
  have hi : ('/' : CodePoint) ∉ ("service_instances" : Text) := by decide
  have hb : ('/' : CodePoint) ∉ ("service_bindings" : Text) := by decide
  rw [ofPath?_root]
  -- the path is the join of its segments, by computation up to the first identifier
  cases a with
  | provision i | deprovision i =>
    have path : "/v2/service_instances/" ++ i = ('/' : CodePoint) ::
        Text.join [('/' : CodePoint)] [("v2" : Text), ("service_instances" : Text), i] := rfl
    simp only [Action.endpoint, Action.path, Action.ids, ofSegments?_eq_instance_iff, path,
      Text.split_eq_iff (List.cons_ne_nil _ _)]
    rw [List.cons.injEq]
    simp only [List.mem_cons, List.not_mem_nil, or_false, forall_eq_or_imp, forall_eq,
      true_and]
    constructor
    · rintro ⟨⟨h, -, -, slash⟩, ne⟩
      exact ⟨h, ne, slash⟩
    · rintro ⟨h, ne, slash⟩
      exact ⟨⟨h, hv, hi, slash⟩, ne⟩
  | bind i b | unbind i b =>
    have path : "/v2/service_instances/" ++ i ++ "/service_bindings/" ++ b =
        ('/' : CodePoint) :: Text.join [('/' : CodePoint)] [("v2" : Text),
          ("service_instances" : Text), i, ("service_bindings" : Text), b] := by
      simp [Text.join]
      rfl
    simp only [Action.endpoint, Action.path, Action.ids, ofSegments?_eq_binding_iff, path,
      Text.split_eq_iff (List.cons_ne_nil _ _)]
    rw [List.cons.injEq]
    simp only [List.mem_cons, List.not_mem_nil, or_false, forall_eq_or_imp, forall_eq,
      true_and]
    constructor
    · rintro ⟨⟨h, -, -, slash, -, slash'⟩, ne, ne'⟩
      exact ⟨h, ⟨ne, slash⟩, ne', slash'⟩
    · rintro ⟨h, ⟨ne, slash⟩, ne', slash'⟩
      exact ⟨⟨h, hv, hi, slash, hb, slash'⟩, ne, ne'⟩

theorem task_eq_action_iff {verb : Text} {a : Action} (taken : verb ∈ e.methods) :
    e.task verb = .inl (.action a) ↔ e = a.endpoint ∧ verb = a.verb := by
  unfold task
  cases e with
  | catalog | health | ready | asset =>
    dsimp only
    constructor
    · intro h
      split at h <;> cases h
    · rintro ⟨h, -⟩
      cases a <;> cases h
  | «instance» i | binding i b =>
    have options : ("DELETE" : Text) ≠ "OPTIONS" ∧ ("PUT" : Text) ≠ "OPTIONS" ∧
      ("DELETE" : Text) ≠ "PUT" := by decide
    obtain ⟨delete, put, ne⟩ := options
    simp only [methods, List.mem_cons, List.not_mem_nil, or_false] at taken
    rcases taken with rfl | rfl | rfl
    · simp only [if_neg delete, if_neg ne]
      cases a <;> simp [Action.endpoint, Action.verb, ne]
    · rw [if_pos rfl]
      refine ⟨by simp, fun h => ?_⟩
      rcases a.verb_eq with put' | delete'
      · exact absurd (h.2.trans put') put.symm
      · exact absurd (h.2.trans delete') delete.symm
    · simp only [if_neg put]
      cases a <;> simp [Action.endpoint, Action.verb, ne.symm]

end Endpoint

/-! ## Requests -/

namespace Request

variable {r : Request} {a : Action} {e : Endpoint}

theorem route_eq_endpoint_iff :
    r.route = .endpoint e ↔ Endpoint.ofPath? (rooted r.path) = some e ∧ r.verb ∈ e.methods := by
  unfold route
  dsimp only
  cases Endpoint.ofPath? (rooted r.path) with
  | none =>
    refine ⟨fun h => ?_, fun h => nomatch h.1⟩
    split at h
    · contradiction
    · split at h <;> cases h
    · cases h
  | some e' =>
    dsimp only
    constructor
    · intro h
      split at h
      · cases h
        exact ⟨rfl, List.contains_iff_mem.mp ‹_›⟩
      · split at h <;> cases h
    · rintro ⟨same, taken⟩
      cases same
      rw [if_pos (List.contains_iff_mem.mpr taken)]

/-- **Delivered**: the request reaches the endpoint of an action with its method. -/
def Delivers (r : Request) (a : Action) : Prop := r.route = .endpoint a.endpoint ∧ r.verb = a.verb

theorem verb_mem_methods (a : Action) : a.verb ∈ a.endpoint.methods := by
  cases a <;> simp [Action.verb, Action.endpoint, Endpoint.methods]

/-- **What is delivered** to an action is a request with the path and the method of the
action.  Any identifiers will do that are not empty and have no slash in them. -/
theorem delivers_iff :
    r.Delivers a ↔ rooted r.path = a.path ∧ r.verb = a.verb ∧
      ∀ id ∈ a.ids, id ≠ [] ∧ ('/' : CodePoint) ∉ id := by
  unfold Delivers
  rw [route_eq_endpoint_iff, rooted, Endpoint.ofPath?_eq_endpoint_iff]
  constructor
  · rintro ⟨⟨⟨path, ids⟩, _⟩, verb⟩
    exact ⟨path, verb, ids⟩
  · rintro ⟨path, verb, ids⟩
    exact ⟨⟨⟨path, ids⟩, verb ▸ verb_mem_methods a⟩, verb⟩

/-- **The broker is asked to act** just for the requests that are delivered to an action. -/
theorem task_eq_action_iff : r.task = .inl (.action a) ↔ r.Delivers a := by
  unfold task Delivers
  cases hr : r.route with
  | endpoint e =>
    have taken := (route_eq_endpoint_iff.mp hr).2
    have task := Endpoint.task_eq_action_iff (a := a) taken
    rw [Route.endpoint.injEq, ← task]
    dsimp only
    cases e.task r.verb <;> simp
  | redirection | methodNotAllowed | notFound => simp

/-- The method that asks for the head is its own upper case. -/
theorem isForHead_of_verb_ne (other : r.verb ≠ "HEAD") : r.isForHead = false := by
  apply Bool.eq_false_iff.mpr
  intro head
  have upper : Text.upper "HEAD" = "HEAD" := by decide
  rw [Request.verb, eq_of_beq head, upper] at other
  exact other rfl

theorem isForHead_of_delivers (h : r.Delivers a) : r.isForHead = false := by
  apply isForHead_of_verb_ne
  rw [h.2]
  rcases a.verb_eq with put | delete
  · rw [put]
    decide
  · rw [delete]
    decide

end Request
end Http
end OpenBroker
