import Mathlib.Data.List.Perm.Subperm
import Wiring.Proofs.ServiceGraph.Lowering

/-!
# What a visit does

`Visiting` lists the ways a visit can go, one constructor each: the identifier is settled, it is on
the stack, its result is known in this frame, it is no entry that can be built, or it is entered. A
stack holds registered identifiers, each once (`OnStack`), so an identifier that can be entered
leaves room on it. The bound on how many more may be entered is therefore never reached:
`visit_visiting` gives the cases for every stack, and `visit_room` says that more room changes
nothing.
-/

namespace Wiring.ServiceGraph

/-- What a stack of identifiers being visited looks like, and that the bound leaves room for all the
others. -/
structure OnStack (services : ServiceMap) (room : Nat) (stack : List String) : Prop where
  nodup : stack.Nodup
  registered : ∀ id ∈ stack, (services.get? id).isSome
  room : services.size ≤ room + stack.length

section
variable {services : ServiceMap} {room : Nat} {stack : List String} {id : String}

/-- Every registered identifier is on a stack that leaves no room. -/
theorem OnStack.mem_of_full (h : OnStack services 0 stack) (hid : (services.get? id).isSome) :
    id ∈ stack := by
  by_contra hn
  have hnd : (id :: stack).Nodup := List.nodup_cons.2 ⟨hn, h.nodup⟩
  have hsub : id :: stack ⊆ services.ids := by
    intro z hz
    rcases List.mem_cons.1 hz with rfl | hz
    · exact ServiceMap.mem_ids_iff.2 hid
    · exact ServiceMap.mem_ids_iff.2 (h.registered z hz)
  have hle := (hnd.subperm hsub).length_le
  have hsize := h.room
  simp only [List.length_cons, ServiceMap.ids, List.length_map] at hle
  simp only [ServiceMap.size] at hsize
  omega

/-- One more identifier on the stack takes up room for one. -/
theorem OnStack.push (h : OnStack services (room + 1) stack) (hid : (services.get? id).isSome)
    (hn : id ∉ stack) : OnStack services room (stack ++ [id]) where
  nodup := List.nodup_append.2 ⟨h.nodup, by simp, fun a ha b hb => by
    rintro rfl
    exact hn (List.mem_singleton.1 hb ▸ ha)⟩
  registered z hz := by
    rcases List.mem_append.1 hz with hz | hz
    · exact h.registered z hz
    · exact List.mem_singleton.1 hz ▸ hid
  room := by
    have := h.room
    simp only [List.length_append, List.length_singleton]
    omega

/-- At the start there is room for all identifiers. -/
theorem OnStack.empty (h : services.size ≤ room) : OnStack services room [] :=
  ⟨.nil, by simp, by simpa using h⟩

/-- How a visit of `id` with this stack goes, given how identifiers are visited in its own frame. -/
inductive Visiting (services : ServiceMap) (below : String → WalkM Visit) (stack : List String)
    (id : String) (w : Walk) : Visit × Walk → Prop
  | settled {r : Except Failure (List (String × Argument))} : w.settled.lookup id = some r →
      Visiting services below stack id w (⟨failureOf r, none⟩, w)
  | onStack {pos : Nat} : stack.findIdx? (· == id) = some pos →
      Visiting services below stack id w (⟨some (.cycle (stack.drop pos ++ [id])), some pos⟩, w)
  | known {v : Visit} : w.frame.lookup id = some v → Visiting services below stack id w (v, w)
  | unregistered : services.get? id = none →
      Visiting services below stack id w (⟨some .notRegistered, none⟩, w)
  | ambiguous {candidates : List String} : services.get? id = some (.ambiguous candidates) →
      Visiting services below stack id w (⟨some .ambiguous, none⟩, w)
  | alias {target : String} : w.settled.lookup id = none → id ∉ stack →
      services.get? id = some (.alias target) →
      Visiting services below stack id w (close id stack.length
        (aliasResult target (inFrame (below target) w).1.failure?)
          (inFrame (below target) w).1.open?
        (inFrame (below target) w).2)
  | service {s : ServiceDescriptor} : w.settled.lookup id = none → id ∉ stack →
      services.get? id = some (.service s) →
      Visiting services below stack id w (close id stack.length
        (inFrame (lowerService below id none s.params) w).1.1
        (inFrame (lowerService below id none s.params) w).1.2
        (inFrame (lowerService below id none s.params) w).2)

/-- A visit goes in one of these ways. -/
theorem visit_visiting (h : OnStack services room stack) (w : Walk) :
    Visiting services (visit services (room - 1) (stack ++ [id])) stack id w
      (visit services room stack id w) := by
  rw [visit.eq_def]
  simp only [bind_apply, get_apply]
  cases hset : w.settled.lookup id with
  | some r => exact .settled hset
  | none =>
  cases hpos : stack.findIdx? (· == id) with
  | some pos => exact .onStack hpos
  | none =>
  have hn : id ∉ stack := fun hm => by simpa using List.findIdx?_eq_none_iff.1 hpos id hm
  cases hknown : w.frame.lookup id with
  | some v => exact .known hknown
  | none =>
  cases he : services.get? id with
  | none => exact .unregistered he
  | some entry =>
  cases entry with
  | ambiguous candidates => exact .ambiguous he
  | «alias» target =>
    cases room with
    | zero => exact absurd (h.mem_of_full (by rw [he]; rfl)) hn
    | succ room => exact .alias hset hn he
  | service s =>
    cases room with
    | zero => exact absurd (h.mem_of_full (by rw [he]; rfl)) hn
    | succ room => exact .service hset hn he

/-- Two bounds make no difference if they make none to what is visited under each identifier that
can be entered. -/
theorem visit_congr {room' : Nat}
    (h : ∀ id, id ∉ stack → (services.get? id).isSome → ∃ n m, room = n + 1 ∧ room' = m + 1 ∧
      visit services n (stack ++ [id]) = visit services m (stack ++ [id])) :
    visit services room stack = visit services room' stack := by
  funext id w
  rw [visit.eq_def, visit.eq_def]
  simp only [bind_apply, get_apply]
  cases w.settled.lookup id with
  | some r => rfl
  | none =>
  cases hpos : stack.findIdx? (· == id) with
  | some pos => rfl
  | none =>
  cases w.frame.lookup id with
  | some v => rfl
  | none =>
  cases he : services.get? id with
  | none => rfl
  | some entry =>
    have hn : id ∉ stack := fun hm => by simpa using List.findIdx?_eq_none_iff.1 hpos id hm
    obtain ⟨n, m, rfl, rfl, hnm⟩ := h id hn (by rw [he]; rfl)
    cases entry with
    | ambiguous candidates => rfl
    | «alias» target | service s => simp only [hnm]

/-- More room changes nothing. -/
theorem visit_room (h : OnStack services room stack) {room' : Nat} (hle : room ≤ room') :
    visit services room stack = visit services room' stack := by
  induction room generalizing stack room' with
  | zero => exact visit_congr fun id hn hid => absurd (h.mem_of_full hid) hn
  | succ room ih =>
    obtain ⟨room', rfl⟩ : ∃ k, room' = k + 1 := ⟨room' - 1, by omega⟩
    exact visit_congr fun id hn hid => ⟨room, room', rfl, rfl, ih (h.push hid hn) (by omega)⟩

end

end Wiring.ServiceGraph
