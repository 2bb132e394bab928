import Mathlib.Data.List.Nodup
import Wiring.Proofs.Route.Depth

/-!
# The calls of a plan with their places

Each call of a plan stands at the end of some keys of a verb. Listing the calls with these
(`RouterPlan.terminals`) gives the routes of the plan in their order (`RouterPlan.map_terminals`). A
plan that routes were entered into has at each place the call of the last of them, and nothing
anywhere else (`RouteTable.Entered.mem_terminals`); no place is listed twice
(`RouteTable.Entered.nodup_terminals`).
-/

namespace Wiring

/-! ## Tries -/

namespace RouteNode

mutual

/-- The calls of a trie, each with the keys that lead to it. -/
def terminals : RouteNode → List (List RouteKey × RouteCall)
  | node _ _ literals captures call? =>
    call?.toList.map ([], ·) ++ terminalsOf literals ++ terminalsOf captures

/-- The calls of some tries, each with the keys that lead to it, that of its trie first. -/
def terminalsOf : List RouteNode → List (List RouteKey × RouteCall)
  | [] => []
  | n :: rest => n.terminals.map (fun t => (n.key :: t.1, t.2)) ++ terminalsOf rest

end

/-- The ends of routes below nodes begin with the keys of these. -/
theorem terminalsOf_eq (ns : List RouteNode) :
    terminalsOf ns = ns.flatMap fun n => n.terminals.map fun t => (n.key :: t.1, t.2) := by
  induction ns with
  | nil => rfl
  | cons n rest ih => rw [terminalsOf, ih, List.flatMap_cons]

/-- The calls of nodes, one node after the other. -/
theorem callsOf_eq (ns : List RouteNode) : callsOf ns = ns.flatMap calls := by
  induction ns with
  | nil => rfl
  | cons n rest ih => rw [callsOf, ih, List.flatMap_cons]

/-- Without their keys, these are the calls of the trie. -/
theorem map_terminals (n : RouteNode) : n.terminals.map (·.2) = n.calls := by
  induction n using recData with
  | node segment key literals captures call? hliterals hcaptures =>
    have hchildren : ∀ ns : List RouteNode, (∀ n ∈ ns, n.terminals.map (·.2) = n.calls) →
        (terminalsOf ns).map (·.2) = callsOf ns := by
      intro ns hns
      rw [terminalsOf_eq, callsOf_eq, List.map_flatMap]
      refine List.flatMap_congr fun n hn => ?_
      rw [List.map_map, ← hns n hn]
      rfl
    have hown : (call?.toList.map fun call => (([] : List RouteKey), call)).map (·.2) =
        call?.toList := by
      rw [List.map_map]
      exact List.map_id _
    rw [terminals, calls, List.map_append, List.map_append, hchildren _ hliterals,
      hchildren _ hcaptures, hown]

end RouteNode

namespace Routes

section
variable {rs : Routes} {keys : List RouteKey} {call : RouteCall} {segment : Nat} {key : RouteKey}

/-- A route ends below a child if its keys begin with the key of the child. -/
theorem mem_terminalsOf_children {p : RouteKey → Bool} :
    (keys, call) ∈ RouteNode.terminalsOf (children p segment rs) ↔ ∃ k rest, keys = k :: rest ∧
      (k ∈ firsts rs ∧ p k = true) ∧ (rest, call) ∈ (trie segment k (below k rs)).terminals := by
  simp only [RouteNode.terminalsOf_eq, children, List.mem_flatMap, List.mem_map, List.mem_filter]
  constructor
  · rintro ⟨n, ⟨k, hk, rfl⟩, ⟨rest, _⟩, ht, heq⟩
    cases heq
    exact ⟨k, rest, by rw [trie_key], hk, ht⟩
  · rintro ⟨k, rest, rfl, hk, ht⟩
    exact ⟨_, ⟨k, hk, rfl⟩, _, ht, by rw [trie_key]⟩

/-- A trie has at the end of some keys what the last route with these keys calls. -/
theorem mem_terminals_trie :
    (keys, call) ∈ (trie segment key rs).terminals ↔ call? rs keys = some call := by
  induction keys generalizing rs segment key with
  | nil =>
    rw [trie_eq, RouteNode.terminals, List.mem_append, List.mem_append, mem_terminalsOf_children,
      mem_terminalsOf_children]
    simp
  | cons k rest ih =>
    have hfirst : call? rs (k :: rest) = some call → k ∈ firsts rs :=
      fun h => mem_firsts.2 ⟨rest, call, mem_of_call? h⟩
    rw [trie_eq, RouteNode.terminals, List.mem_append, List.mem_append, mem_terminalsOf_children,
      mem_terminalsOf_children]
    constructor
    · rintro ((h | ⟨_, _, heq, -, h⟩) | ⟨_, _, heq, -, h⟩)
      · simp at h
      all_goals
        cases heq
        rwa [ih, call?_below] at h
    · intro h
      have hbelow : (rest, call) ∈ (trie (segment + 1) k (below k rs)).terminals := by
        rwa [ih, call?_below]
      cases hk : k.isLiteral with
      | true => exact .inl (.inr ⟨k, rest, rfl, ⟨hfirst h, hk⟩, hbelow⟩)
      | false => exact .inr ⟨k, rest, rfl, ⟨hfirst h, by simp [hk]⟩, hbelow⟩

/-- Below different keys there are different places. -/
theorem nodup_places_children {p : RouteKey → Bool}
    (h : ∀ k ∈ firsts rs, ((trie segment k (below k rs)).terminals.map (·.1)).Nodup) :
    ((RouteNode.terminalsOf (children p segment rs)).map (·.1)).Nodup := by
  have hplaces : (RouteNode.terminalsOf (children p segment rs)).map (·.1) =
      ((firsts rs).filter p).flatMap fun k =>
        ((trie segment k (below k rs)).terminals.map (·.1)).map (k :: ·) := by
    rw [RouteNode.terminalsOf_eq, children, List.flatMap_map, List.map_flatMap]
    refine List.flatMap_congr fun k _ => ?_
    rw [List.map_map, List.map_map, trie_key]
    rfl
  rw [hplaces, List.nodup_flatMap]
  refine ⟨fun k hk => (h k (List.mem_filter.1 hk).1).map fun _ _ => List.tail_eq_of_cons_eq,
    ((nodup_firsts rs).filter p).imp fun {k k'} hne keys hkeys hkeys' => hne ?_⟩
  obtain ⟨rest, -, rfl⟩ := List.mem_map.1 hkeys
  obtain ⟨rest', -, heq⟩ := List.mem_map.1 hkeys'
  exact (List.head_eq_of_cons_eq heq).symm

/-- No place of a trie is listed twice. -/
theorem nodup_places_trie : ((trie segment key rs).terminals.map (·.1)).Nodup := by
  induction rs using recBelow generalizing segment key with
  | node rs ih =>
  have hbelow : ∀ k ∈ firsts rs,
      ((trie (segment + 1) k (below k rs)).terminals.map (·.1)).Nodup :=
    fun k hk => ih k hk
  have hkind : ∀ (p : RouteKey → Bool) keys,
      keys ∈ (RouteNode.terminalsOf (children p (segment + 1) rs)).map (·.1) →
        ∃ k rest, keys = k :: rest ∧ p k = true := by
    intro p keys hkeys
    obtain ⟨⟨_, call⟩, ht, rfl⟩ := List.mem_map.1 hkeys
    obtain ⟨k, rest, heq, hk, -⟩ := mem_terminalsOf_children.1 ht
    exact ⟨k, rest, heq, hk.2⟩
  have hown : ((call? rs []).toList.map fun call => (([] : List RouteKey), call)).map (·.1) =
      (call? rs []).toList.map fun _ => [] := by
    rw [List.map_map]
    rfl
  rw [trie_eq, RouteNode.terminals, List.map_append, List.map_append, hown]
  refine ((?_ : List.Nodup _).append (nodup_places_children hbelow) ?_).append
    (nodup_places_children hbelow) ?_
  · cases call? rs [] <;> simp
  · intro keys hkeys hkeys'
    obtain ⟨_, -, rfl⟩ := List.mem_map.1 hkeys
    obtain ⟨_, _, heq, -⟩ := hkind _ _ hkeys'
    cases heq
  · intro keys hkeys hkeys'
    obtain ⟨k, rest, rfl, hk⟩ := hkind _ _ hkeys'
    rcases List.mem_append.1 hkeys with hkeys | hkeys
    · obtain ⟨_, -, heq⟩ := List.mem_map.1 hkeys
      cases heq
    · obtain ⟨k', rest', heq, hk'⟩ := hkind _ _ hkeys
      cases heq
      simp [hk'] at hk

end

end Routes

/-! ## Plans -/

namespace RouterPlan

/-- The calls of a plan, each with its verb and the keys that lead to it: those of routes without
captures first. -/
def terminals (p : RouterPlan) : List ((Verb × List RouteKey) × RouteCall) :=
  p.statics.map (fun r => ((r.verb, (Route.segments r.path).map .literal), r.call)) ++
    p.tries.flatMap fun t => t.2.terminals.map fun e => ((t.1, e.1), e.2)

/-- Without their keys, these are the routes of the plan. -/
theorem map_terminals (p : RouterPlan) : p.terminals.map (fun e => (e.1.1, e.2)) = p.routes := by
  rw [terminals, routes, List.map_append, List.map_map, List.map_flatMap]
  congr 1
  refine List.flatMap_congr fun ⟨verb, n⟩ _ => ?_
  dsimp only
  rw [← n.map_terminals, List.map_map, List.map_map]
  rfl

/-- Without their calls, these are the places of the plan. -/
theorem places_terminals (p : RouterPlan) : p.terminals.map (·.1) =
    (RouteTable.places p.statics).map
        (fun place => (place.1, (Route.segments place.2).map .literal)) ++
      p.tries.flatMap fun t => (t.2.terminals.map (·.1)).map (t.1, ·) := by
  rw [terminals, RouteTable.places, List.map_append, List.map_map, List.map_map, List.map_flatMap]
  congr 1
  refine List.flatMap_congr fun t _ => ?_
  rw [List.map_map, List.map_map]
  rfl

/-- The size of a plan is how many routes end in it. -/
theorem size_eq (p : RouterPlan) : p.size = p.terminals.length := by
  rw [size, ← map_terminals, List.length_map]

end RouterPlan

namespace RouteTable

section
variable {rs : Verb → Routes} {plan : RouterPlan} {verb : Verb} {keys : List RouteKey}
  {call : RouteCall}

/-- A plan has at each place the call of the last route that was entered there. -/
theorem Entered.mem_terminals (h : Entered rs plan) (hplaced : Placed plan) (hpathed : Pathed rs) :
    ((verb, keys), call) ∈ plan.terminals ↔ Routes.call? (rs verb) keys = some call := by
  rw [RouterPlan.terminals, List.mem_append]
  constructor
  · rintro (hmem | hmem)
    · obtain ⟨r, hr, heq⟩ := List.mem_map.1 hmem
      cases heq
      exact h.call?_of_static hplaced hr
    · obtain ⟨⟨verb', n⟩, ht, hmem⟩ := List.mem_flatMap.1 hmem
      obtain ⟨⟨keys', call'⟩, he, heq⟩ := List.mem_map.1 hmem
      cases heq
      rw [h.eq_trie hplaced ht] at he
      exact (Routes.call?_captured.1 (Routes.mem_terminals_trie.1 he)).1
  · intro hcall
    cases hall : keys.all RouteKey.isLiteral with
    | true =>
      obtain ⟨r, hr, rfl, rfl, rfl⟩ := h.exists_static hpathed hcall hall
      exact .inl (List.mem_map_of_mem hr)
    | false =>
      have hmem : (keys, call) ∈ ((plan.trie? verb).getD .root).terminals := by
        rw [h.trie]
        exact Routes.mem_terminals_trie.2 (Routes.call?_captured.2 ⟨hcall, hall⟩)
      cases htrie : plan.trie? verb with
      | none =>
        rw [htrie] at hmem
        cases hmem
      | some n =>
        rw [htrie, Option.getD_some] at hmem
        exact .inr (List.mem_flatMap.2 ⟨(verb, n), mem_of_lookup htrie,
          List.mem_map_of_mem (f := fun e => ((verb, e.1), e.2)) hmem⟩)

/-- No place of a plan is listed twice. -/
theorem Entered.nodup_terminals (h : Entered rs plan) (hplaced : Placed plan) :
    (plan.terminals.map (·.1)).Nodup := by
  have hliteral : ∀ place ∈ (RouteTable.places plan.statics).map
      (fun place => (place.1, (Route.segments place.2).map RouteKey.literal)),
        place.2.all RouteKey.isLiteral = true := by
    intro place hplace
    obtain ⟨_, -, rfl⟩ := List.mem_map.1 hplace
    exact List.all_eq_true.2 (List.forall_mem_map.2 fun _ _ => rfl)
  have hcapture : ∀ t ∈ plan.tries, ∀ place ∈ (t.2.terminals.map (·.1)).map (t.1, ·),
      place.1 = t.1 ∧ place.2.all RouteKey.isLiteral = false := by
    intro t ht place hplace
    obtain ⟨keys, hkeys, rfl⟩ := List.mem_map.1 hplace
    obtain ⟨e, he, rfl⟩ := List.mem_map.1 hkeys
    rw [h.eq_trie hplaced ht] at he
    exact ⟨rfl, (Routes.call?_captured.1 (Routes.mem_terminals_trie.1 he)).2⟩
  rw [RouterPlan.places_terminals]
  refine List.Nodup.append ?_ (List.nodup_flatMap.2 ⟨fun t ht => ?_, ?_⟩) ?_
  · -- normalized paths with the same segments are the same
    refine h.places.map_on fun ⟨verb, path⟩ hplace ⟨verb', path'⟩ hplace' heq => ?_
    obtain ⟨hverb, hsegments⟩ := Prod.mk.inj heq
    have hpath : Route.normalize path = path := hplaced.statics (verb, path) hplace
    have hpath' : Route.normalize path' = path' := hplaced.statics (verb', path') hplace'
    have hinj : Function.Injective RouteKey.literal := fun _ _ => RouteKey.literal.inj
    rw [Prod.mk.injEq, ← hpath, ← hpath', Route.normalize, Route.normalize,
      List.map_injective_iff.2 hinj hsegments]
    exact ⟨hverb, rfl⟩
  · rw [h.eq_trie hplaced ht]
    exact Routes.nodup_places_trie.map fun _ _ => congrArg Prod.snd
  · -- the verbs of the tries are all different
    have hverbs := (List.pairwise_map.1 hplaced.tries).imp fun hlt heq => Nat.ne_of_lt hlt heq
    refine hverbs.imp_of_mem fun {t t'} ht ht' hne place hplace hplace' => hne ?_
    rw [← (hcapture t ht place hplace).1, (hcapture t' ht' place hplace').1]
  · -- a trie holds keys with captures only
    intro place hplace hplace'
    obtain ⟨t, ht, hplace'⟩ := List.mem_flatMap.1 hplace'
    have hno := (hcapture t ht place hplace').2
    rw [hliteral place hplace] at hno
    cases hno

end

end RouteTable

end Wiring
