import OpenBroker.Proofs.Addressed

/-! # Calls that are made with the same request

The client puts the identifiers of a call into a path as they are, and between an instance and a
binding it puts a text of its own.  An identifier may contain this text.  Then the path can be
taken apart in more than one way, and each way is the path of another call.

There are three ways for two different calls to be made with the same request, and `Confused` has
them all (`requestOf_eq_iff_confused`).  An instance may be named like a binding of another one.  Of
two bindings, one may be on an instance that is named like a binding.  And the text may overlap
with itself, since it begins and ends with a slash: the last slash of one occurrence is then the
first of the next.  In all of them an instance has a slash in its name.
-/
namespace OpenBroker
namespace Client

/-- What stands in a path between an instance and a binding. -/
def between : Text := "/service_bindings/"

/-- **Shifted**: a binding on an instance, and another one on an instance with a shorter name, at
whose end the path has the text between the two for the first time. -/
inductive Shifted : Text → Text → Text → Text → Prop
  | apart (i rest b : Text) : Shifted (i ++ between ++ rest) b i (rest ++ between ++ b)
  | overlapping (i b : Text) : Shifted (i ++ "/service_bindings") b i ("service_bindings/" ++ b)

/-- **Confused**: two different actions for which the client makes the same request. -/
inductive Confused : Action → Action → Prop
  | created (i b : Text) : Confused (.provision (i ++ between ++ b)) (.bind i b)
  | removed (i b : Text) : Confused (.deprovision (i ++ between ++ b)) (.unbind i b)
  | bound {i b j c : Text} (shifted : Shifted i b j c) : Confused (.bind i b) (.bind j c)
  | unbound {i b j c : Text} (shifted : Shifted i b j c) : Confused (.unbind i b) (.unbind j c)

variable {i b j c w rest : Text} {a a' : Action}

/-! ## Where the text between the two can stand -/

/-- An end of the text that is also a beginning of it is all of it, its last slash, or nothing. -/
theorem split_between (h : between = w ++ rest) (beginning : rest <+: between) :
    w = [] ∨ (w = "/service_bindings" ∧ rest = "/") ∨ rest = [] := by
  have all : ∀ n ≤ between.length, between.drop n <+: between → between.take n = [] ∨
      (between.take n = "/service_bindings" ∧ between.drop n = "/") ∨ between.drop n = [] := by
    decide +kernel
  have taken : between.take w.length = w := by rw [h, List.take_left]
  have dropped : between.drop w.length = rest := by rw [h, List.drop_left]
  have fits : w.length ≤ between.length := by
    rw [h, List.length_append]
    omega
  have split := all w.length fits
  rw [taken, dropped] at split
  exact split beginning

/-- **The text in front of a text** that begins with it too. -/
theorem append_between_inj (h : between ++ b = w ++ (between ++ c)) :
    (w = [] ∧ b = c) ∨ (∃ rest, w = between ++ rest ∧ b = rest ++ between ++ c) ∨
      (w = "/service_bindings" ∧ b = "service_bindings/" ++ c) := by
  -- the second occurrence begins behind the first one, or inside it
  rcases List.append_eq_append_iff.mp h with ⟨rest, hw, hb⟩ | ⟨rest, hs, hc⟩
  · exact .inr (.inl ⟨rest, hw, by rw [hb, List.append_assoc]⟩)
  · have beginning : rest <+: between := by
      refine List.prefix_of_prefix_length_le ⟨b, hc.symm⟩ (List.prefix_append between c) ?_
      rw [hs, List.length_append]
      omega
    rcases split_between hs beginning with rfl | ⟨rfl, rfl⟩ | rfl
    · rw [hs, List.nil_append] at hc
      exact .inl ⟨rfl, (List.append_cancel_left hc).symm⟩
    · exact .inr (.inr ⟨rfl, (List.cons.inj hc).2.symm⟩)
    · rw [List.append_nil] at hs
      exact .inr (.inl ⟨[], by rw [hs, List.append_nil], hc.symm⟩)

theorem Shifted.append_eq (h : Shifted i b j c) : i ++ between ++ b = j ++ between ++ c := by
  cases h with
  | apart i rest b => simp only [List.append_assoc]
  | overlapping i b =>
    simp only [List.append_assoc]
    rfl

/-- **Two bindings with the same path** are the same or shifted. -/
theorem append_between_eq_iff :
    i ++ between ++ b = j ++ between ++ c ↔
      (i = j ∧ b = c) ∨ Shifted i b j c ∨ Shifted j c i b := by
  constructor
  · have shorter {i b j c : Text} (longer : ∃ w, i = j ++ w ∧ between ++ c = w ++ (between ++ b)) :
        (i = j ∧ b = c) ∨ Shifted i b j c := by
      obtain ⟨w, rfl, h⟩ := longer
      rcases append_between_inj h with ⟨rfl, rfl⟩ | ⟨rest, rfl, rfl⟩ | ⟨rfl, rfl⟩
      · exact .inl ⟨List.append_nil j, rfl⟩
      · rw [← List.append_assoc]
        exact .inr (.apart j rest b)
      · exact .inr (.overlapping j b)
    intro same
    rw [List.append_assoc, List.append_assoc] at same
    rcases List.append_eq_append_iff.mp same with ⟨w, hj, h⟩ | ⟨w, hi, h⟩
    · rcases shorter ⟨w, hj, h⟩ with ⟨rfl, rfl⟩ | shifted
      · exact .inl ⟨rfl, rfl⟩
      · exact .inr (.inr shifted)
    · exact (shorter ⟨w, hi, h⟩).imp id .inl
  · rintro (⟨rfl, rfl⟩ | shifted | shifted)
    · rfl
    · exact shifted.append_eq
    · exact shifted.append_eq.symm

/-! ## From paths to calls -/

theorem Shifted.slash_mem (h : Shifted i b j c) : ('/' : CodePoint) ∈ i := by
  have slash : ('/' : CodePoint) ∈ between ∧ ('/' : CodePoint) ∈ ("/service_bindings" : Text) := by
    decide
  cases h with
  | apart => exact List.mem_append_left _ (List.mem_append_right _ slash.1)
  | overlapping => exact List.mem_append_right _ slash.2

theorem Shifted.length_lt (h : Shifted i b j c) : j.length < i.length := by
  cases h with
  | apart =>
    have length : between.length = 18 := rfl
    simp only [List.length_append, length]
    omega
  | overlapping =>
    have length : ("/service_bindings" : Text).length = 17 := rfl
    simp only [List.length_append, length]
    omega

namespace Confused

/-- In a confusion the first instance has a slash in its name. -/
theorem slash_mem (h : Confused a a') : ('/' : CodePoint) ∈ a.instanceId := by
  have slash : ('/' : CodePoint) ∈ between := by decide
  cases h with
  | created | removed => exact List.mem_append_left _ (List.mem_append_right _ slash)
  | bound shifted | unbound shifted => exact shifted.slash_mem

theorem ne (h : Confused a a') : a ≠ a' := by
  cases h with
  | created | removed => exact nofun
  | bound shifted | unbound shifted =>
    rintro same
    cases same
    exact Nat.lt_irrefl _ shifted.length_lt

theorem requestOf_eq (h : Confused a a') : requestOf (.action a) = requestOf (.action a') := by
  cases h with
  | created i b | removed i b =>
    simp only [requestOf, bindingPath, instancePath, between, List.append_assoc]
  | bound shifted | unbound shifted =>
    have same := shifted.append_eq
    simp only [between, List.append_assoc] at same
    simp only [requestOf, bindingPath, instancePath, List.append_assoc, same]

end Confused

/-- Two actions on bindings, of one kind, are the same or confused if their paths are the same. -/
theorem confused_of_append_between_eq {made : Text → Text → Action}
    (confused : ∀ {i b j c}, Shifted i b j c → Confused (made i b) (made j c))
    (path : i ++ between ++ b = j ++ between ++ c) :
    made i b = made j c ∨ Confused (made i b) (made j c) ∨ Confused (made j c) (made i b) := by
  rcases append_between_eq_iff.mp path with ⟨rfl, rfl⟩ | shifted | shifted
  · exact .inl rfl
  · exact .inr (.inl (confused shifted))
  · exact .inr (.inr (confused shifted))

/-- **The same request** is made for the same action, and for two that are confused. -/
theorem requestOf_action_eq_iff :
    requestOf (.action a) = requestOf (.action a') ↔ a = a' ∨ Confused a a' ∨ Confused a' a := by
  constructor
  · intro same
    rw [requestOf_action, requestOf_action, Prod.mk.injEq] at same
    obtain ⟨verb, path⟩ := same
    have put : ("PUT" : Text) ≠ "DELETE" := by decide
    cases a <;> cases a'
    case provision.deprovision | provision.unbind | bind.deprovision | bind.unbind =>
      exact absurd verb put
    case deprovision.provision | deprovision.bind | unbind.provision | unbind.bind =>
      exact absurd verb.symm put
    -- what all paths begin with is left out
    all_goals
      simp only [Action.path, List.append_assoc, List.append_cancel_left_eq] at path
    case provision.provision i j | deprovision.deprovision i j => exact .inl (congrArg _ path)
    case provision.bind i j b =>
      rw [path, ← List.append_assoc]
      exact .inr (.inl (.created j b))
    case bind.provision i b j =>
      rw [← path, ← List.append_assoc]
      exact .inr (.inr (.created i b))
    case deprovision.unbind i j b =>
      rw [path, ← List.append_assoc]
      exact .inr (.inl (.removed j b))
    case unbind.deprovision i b j =>
      rw [← path, ← List.append_assoc]
      exact .inr (.inr (.removed i b))
    case bind.bind i b j c =>
      rw [← List.append_assoc, ← List.append_assoc] at path
      exact confused_of_append_between_eq .bound path
    case unbind.unbind i b j c =>
      rw [← List.append_assoc, ← List.append_assoc] at path
      exact confused_of_append_between_eq .unbound path
  · rintro (rfl | confused | confused)
    · rfl
    · exact confused.requestOf_eq
    · exact confused.requestOf_eq.symm

/-- **Two calls with one request** are the same call, or they are confused.  Confused calls are
different, and one of the two instances has a slash in its name: calls on instances without one
are told apart by their requests. -/
theorem requestOf_eq_iff_confused (a a' : Action) :
    (requestOf (.action a) = requestOf (.action a') ↔
        a = a' ∨ Confused a a' ∨ Confused a' a) ∧
      (Confused a a' → a ≠ a' ∧ ('/' : CodePoint) ∈ a.instanceId) :=
  ⟨requestOf_action_eq_iff, fun confused => ⟨confused.ne, confused.slash_mem⟩⟩

/-- **A removal that hits a binding.**  To remove the instance `a/service_bindings/b` the client
makes the request that removes the binding `b` from the instance `a`, and the server takes it for
this one. -/
theorem delivers_unbind_of_requestOf_deprovision :
    let named : Text := "a/service_bindings/b"
    let request := requestOf (.action (.deprovision named))
    let r : Http.Request := ⟨request.1, request.2, []⟩
    named ≠ [] ∧ ("a" : Text) ≠ [] ∧ ("b" : Text) ≠ [] ∧
      Action.deprovision named ≠ .unbind "a" "b" ∧
      request = requestOf (.action (.unbind "a" "b")) ∧
      r.Delivers (.unbind "a" "b") :=
  ⟨by decide, by decide, by decide, nofun, by decide,
    Http.Request.delivers_iff.mpr ⟨by decide, by decide +kernel, by decide⟩⟩

end Client
end OpenBroker
