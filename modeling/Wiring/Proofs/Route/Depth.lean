import Wiring.Proofs.Datum.Depth
import Wiring.Proofs.Route.Codec
import Wiring.Proofs.Route.Compile

/-!
# How deep routes stand in a router plan

A reader that does not go down to the end of a router plan does not read it at all
(`RouterPlan.ofDatum?_within`): every call, key and trie needs all of its tree. In the tree of a
compiled plan a trie has two levels for each segment of a template, so how deep the plan is nested
is known from the routes that were compiled (`RouteTable.nesting_compile_le`).
-/

namespace Wiring

open Datum (Needs)

/-! ## Calls -/

section
variable {levels : Nat}

/-- Nothing can be cut off from an argument. -/
theorem RouteArg.needs_toDatum (a : RouteArg) : Needs ofDatum? a.toDatum := by
  intro levels a' h
  have hsource : (RouteArgSource.ofDatum? (a.toDatum.within levels)).isSome = true := by
    rw [ofDatum?.eq_def] at h
    split at h
    · obtain ⟨columns, -, h⟩ := Option.bind_eq_some_iff.1 h
      split at h
      · obtain ⟨_, -, h⟩ := Option.bind_eq_some_iff.1 h
        obtain ⟨source, hsource, -⟩ := Option.bind_eq_some_iff.1 h
        rw [hsource, Option.isSome_some]
      · cases h
    · cases h
  obtain ⟨source, hsource⟩ := Option.isSome_iff_exists.1 hsource
  obtain ⟨name, hname, -⟩ := Option.bind_eq_some_iff.1 hsource
  exact Datum.nesting_le_of_tagged? hname

/-- The deepest field of a call are its arguments. -/
theorem RouteCall.nesting_toDatum_le {c : RouteCall} :
    c.toDatum.nesting ≤ levels + 1 ↔
      (Datum.list (c.args.map RouteArg.toDatum)).nesting ≤ levels := by
  rw [toDatum, Datum.nesting_record_le, List.forall_mem_append, List.forall_mem_append,
    List.forall_mem_append, Datum.forall_optionalField, Datum.forall_optionalField]
  simp

/-- Nothing can be cut off from a call. -/
theorem RouteCall.needs_toDatum (c : RouteCall) : Needs ofDatum? c.toDatum := by
  refine Datum.needs_record rfl fun levels c' h => nesting_toDatum_le.2 ?_
  simp [ofDatum?, Option.bind_eq_some_iff] at h
  obtain ⟨_, -, args, hargs, -⟩ := h
  exact Datum.needs_list (fun a _ => a.needs_toDatum) levels args hargs

/-- A key holds nothing that is nested. -/
theorem RouteKey.nesting_toDatum (key : RouteKey) : key.toDatum.nesting = 1 := by
  cases key with
  | root | literal text => rfl
  | capture name requirement? => cases requirement? <;> rfl

/-- Nothing can be cut off from a key. -/
theorem RouteKey.needs_toDatum (key : RouteKey) : Needs ofDatum? key.toDatum := by
  intro levels key' h
  obtain ⟨name, hname, -⟩ := Option.bind_eq_some_iff.1 h
  exact Datum.nesting_le_of_tagged? hname

/-! ## Routes without captures -/

/-- The deepest field of a route without captures is its call. -/
theorem StaticRoute.nesting_toDatum_le {r : StaticRoute} :
    r.toDatum.nesting ≤ levels + 1 ↔ r.call.toDatum.nesting ≤ levels := by
  have hverb : (Wiring.toDatum r.verb).nesting = 0 := rfl
  rw [toDatum, Datum.nesting_record_le]
  simp [hverb]

/-- Nothing can be cut off from a route without captures. -/
theorem StaticRoute.needs_toDatum (r : StaticRoute) : Needs ofDatum? r.toDatum := by
  refine Datum.needs_record rfl fun levels r' h => nesting_toDatum_le.2 ?_
  simp [ofDatum?, Option.bind_eq_some_iff] at h
  obtain ⟨_, -, call, hcall, -⟩ := h
  exact r.call.needs_toDatum levels call hcall

/-! ## Tries -/

namespace RouteNode

/-- What a node adds to the nesting of its children and its call. -/
theorem nesting_toDatum_le {segment : Nat} {key : RouteKey} {literals captures : List RouteNode}
    {call? : Option RouteCall} :
    (node segment key literals captures call?).toDatum.nesting ≤ levels + 2 ↔
      (∀ n ∈ literals ++ captures, n.toDatum.nesting ≤ levels) ∧
        ∀ c, call? = some c → c.toDatum.nesting ≤ levels + 1 := by
  have hchildren (name : String) (ns : List RouteNode) :
      (∀ f ∈ Datum.listField name toDatum ns, f.2.nesting ≤ levels + 1) ↔
        ∀ n ∈ ns, n.toDatum.nesting ≤ levels := by
    cases ns with
    | nil => exact ⟨nofun, nofun⟩
    | cons n rest =>
      refine List.forall_mem_singleton.trans (Datum.nesting_list_le.trans ?_)
      exact List.forall_mem_map
  rw [toDatum, childField_eq, childField_eq, Datum.nesting_record_le, List.forall_mem_append,
    List.forall_mem_append, List.forall_mem_append, Datum.forall_optionalField, hchildren,
    hchildren, List.forall_mem_append]
  simp [key.nesting_toDatum]

/-- Nothing can be cut off from a node, however deep it is read. -/
theorem needs_toDatumTo (n : RouteNode) : ∀ depth, Needs (ofDatumTo? depth) n.toDatum := by
  induction n using recData with
  | node segment key literals captures call? hliterals hcaptures =>
    intro depth
    cases depth with
    | zero => exact fun _ _ h => nomatch h
    | succ depth =>
      rw [toDatum, childField_eq, childField_eq]
      refine Datum.needs_record rfl fun levels n' h => Datum.nesting_record_le.2 ?_
      simp [ofDatumTo?, Option.bind_eq_some_iff] at h
      obtain ⟨_, -, key', hkey, _, hreadL, _, hreadC, _, hcall, -⟩ := h
      rw [List.forall_mem_append, List.forall_mem_append, List.forall_mem_append]
      refine ⟨⟨⟨by simp [key.needs_toDatum levels key' hkey], ?_⟩, ?_⟩, ?_⟩
      · exact Datum.nesting_le_of_listField (fun n hn => hliterals n hn depth) hreadL
      · exact Datum.nesting_le_of_listField (fun n hn => hcaptures n hn depth) hreadC
      · exact Datum.nesting_le_of_optionalField (fun c _ => c.needs_toDatum) hcall

/-- Nothing can be cut off from a node. -/
theorem needs_toDatum (n : RouteNode) : Needs ofDatum? n.toDatum := by
  intro levels n' h
  exact n.needs_toDatumTo _ levels n' h

end RouteNode

/-! ## Router plans -/

namespace RouterPlan

/-- The tries of a plan need all of their trees. -/
theorem needs_tries (tries : List (Verb × RouteNode)) :
    Needs tries? (.record (tries.map fun t => (t.1.name, t.2.toDatum))) := by
  refine Datum.needs_record rfl fun levels done h => Datum.nesting_record_le.2
    (List.forall_mem_map.2 ?_)
  rw [Datum.within_record_succ, List.map_map, tries?] at h
  generalize ([] : List (Verb × RouteNode)) = start at h
  induction tries generalizing start with
  | nil => exact List.forall_mem_nil _
  | cons t rest ih =>
    rw [List.map_cons, List.foldlM_cons] at h
    obtain ⟨next, hnext, hrest⟩ := Option.bind_eq_some_iff.1 h
    obtain ⟨verb, -, hnext⟩ := Option.bind_eq_some_iff.1 hnext
    obtain ⟨trie, htrie, -⟩ := Option.bind_eq_some_iff.1 hnext
    exact List.forall_mem_cons.2 ⟨t.2.needs_toDatum levels trie htrie, ih next hrest⟩

/-- What a plan adds to the nesting of its routes. -/
theorem nesting_toDatum_le {p : RouterPlan} :
    p.toDatum.nesting ≤ levels + 2 ↔ (∀ r ∈ p.statics, r.toDatum.nesting ≤ levels) ∧
      ∀ t ∈ p.tries, t.2.toDatum.nesting ≤ levels := by
  rw [toDatum, Datum.nesting_record_le, List.forall_mem_cons, List.forall_mem_singleton,
    Datum.nesting_list_le, Datum.nesting_record_le, List.forall_mem_map, List.forall_mem_map]

/-- Nothing can be cut off from a plan. -/
theorem needs_toDatum (p : RouterPlan) : Needs ofDatum? p.toDatum := by
  refine Datum.needs_record rfl fun levels p' h => Datum.nesting_record_le.2 ?_
  simp [ofDatum?, Option.bind_eq_some_iff] at h
  obtain ⟨statics, hstatics, tries, htries, -⟩ := h
  have hneeds := Datum.needs_list (fun r (_ : r ∈ p.statics) => r.needs_toDatum) levels
    statics hstatics
  simp [hneeds, needs_tries p.tries levels tries htries]

/-- A reader that does not go down to the end of a plan does not read it, and any other does. -/
theorem ofDatum?_within {p : RouterPlan} (h : p.Regular) (levels : Nat) :
    ofDatum? (p.toDatum.within levels) =
      if p.toDatum.nesting ≤ levels then some (p.mapLiterals .finite) else none := by
  split
  · next hle => rw [Datum.within_of_nesting_le hle, ofDatum?_toDatum h]
  · next hlt =>
    refine Option.eq_none_iff_forall_ne_some.2 fun p' hp' => hlt ?_
    exact p.needs_toDatum levels p' hp'

end RouterPlan

end

/-! ## Tries of routes -/

/-- There are a list and a record in the tree of a call. -/
theorem RouteCall.two_le_nesting_toDatum (c : RouteCall) : 2 ≤ c.toDatum.nesting := by
  have hargs : ¬ (Datum.list (c.args.map RouteArg.toDatum)).nesting ≤ 0 := by
    rw [Datum.nesting]
    omega
  have hcall : ¬ c.toDatum.nesting ≤ 0 + 1 := fun h => hargs (nesting_toDatum_le.1 h)
  omega

/-- There are two records in the tree of a trie. -/
theorem RouteNode.two_le_nesting_toDatum (n : RouteNode) : 2 ≤ n.toDatum.nesting := by
  obtain ⟨segment, key, literals, captures, call?⟩ := n
  have hnode : ¬ (node segment key literals captures call?).toDatum.nesting ≤ 0 + 1 := by
    intro h
    rw [toDatum, Datum.nesting_record_le] at h
    have hkey := h ("key", key.toDatum) (by simp)
    rw [key.nesting_toDatum] at hkey
    omega
  omega

namespace Routes

variable {rs : Routes} {keys : List RouteKey} {call : RouteCall}

/-- The keys of a route have a call. -/
theorem exists_call?_of_mem (h : (keys, call) ∈ rs) : ∃ call', call? rs keys = some call' := by
  refine Option.ne_none_iff_exists'.1 fun hnone => ?_
  have hne := List.lookup_eq_none_iff.1 hnone (keys, call) (List.mem_reverse.2 h)
  simp at hne

/-- A node has a child for each key that comes first in a route. -/
theorem forall_mem_children {P : RouteNode → Prop} {segment : Nat} :
    (∀ n ∈ children RouteKey.isLiteral segment rs ++ children (fun k => !k.isLiteral) segment rs,
      P n) ↔ ∀ k ∈ firsts rs, P (trie segment k (below k rs)) := by
  rw [children, children, List.forall_mem_append, List.forall_mem_map, List.forall_mem_map]
  constructor
  · rintro ⟨hliterals, hcaptures⟩ k hk
    cases hlit : k.isLiteral with
    | true => exact hliterals k (List.mem_filter.2 ⟨hk, hlit⟩)
    | false => exact hcaptures k (List.mem_filter.2 ⟨hk, by rw [hlit]; rfl⟩)
  · intro h
    exact ⟨fun k hk => h k (List.mem_filter.1 hk).1, fun k hk => h k (List.mem_filter.1 hk).1⟩

/-- In the tree of a trie there are two levels above a call for each of its keys, and one more. -/
theorem nesting_trie_le {levels : Nat} (segment : Nat) (key : RouteKey) (rs : Routes) :
    (trie segment key rs).toDatum.nesting ≤ levels + 2 ↔ ∀ keys call,
      call? rs keys = some call → 2 * keys.length + call.toDatum.nesting ≤ levels + 1 := by
  -- A child stands two levels below its node. It is there for some route, so there are two levels
  -- left if the calls below it are to fit.
  induction levels using Nat.strongRecOn generalizing segment key rs with
  | ind levels ih =>
    have hbelow : ∀ k ∈ firsts rs,
        ((trie (segment + 1) k (below k rs)).toDatum.nesting ≤ levels ↔ ∀ keys call,
          call? rs (k :: keys) = some call →
            2 * (keys.length + 1) + call.toDatum.nesting ≤ levels + 1) := by
      intro k hk
      by_cases hlevels : 2 ≤ levels
      · obtain ⟨levels, rfl⟩ : ∃ l, levels = l + 2 := ⟨levels - 2, by omega⟩
        rw [ih levels (by omega)]
        simp only [call?_below]
        refine forall_congr' fun keys => forall_congr' fun call => imp_congr_right fun _ => ?_
        omega
      · obtain ⟨rest, call, hmem⟩ := mem_firsts.1 hk
        obtain ⟨call', hcall'⟩ := exists_call?_of_mem hmem
        have htrie := (trie (segment + 1) k (below k rs)).two_le_nesting_toDatum
        have hnest := call'.two_le_nesting_toDatum
        refine iff_of_false (by omega) fun h => ?_
        have := h rest call' hcall'
        omega
    rw [trie_eq, RouteNode.nesting_toDatum_le, forall_mem_children, forall₂_congr hbelow]
    constructor
    · rintro ⟨hchildren, hown⟩ keys call hcall
      cases keys with
      | nil => simpa using hown call hcall
      | cons k rest =>
        exact hchildren k (mem_firsts.2 ⟨rest, call, mem_of_call? hcall⟩) rest call hcall
    · intro h
      refine ⟨fun k _ keys call hcall => h (k :: keys) call hcall, fun call hcall => ?_⟩
      simpa using h [] call hcall

/-- The number of lists and records around a call in the tree of a plan: in a trie there are two for
each key. -/
def depth (keys : List RouteKey) : Nat :=
  3 + if keys.all RouteKey.isLiteral then 0 else 2 * keys.length

end Routes

/-! ## Compiled plans -/

/-- Verbs with the same number are the same. -/
theorem Verb.ctorIdx_injective : Function.Injective Verb.ctorIdx := by
  intro v w h
  cases v <;> cases w <;> first | rfl | cases h

namespace RouteTable

/-- The tries of the plan stand in the order of their verbs, and its routes without captures at
normalized paths. -/
structure Placed (plan : RouterPlan) : Prop where
  tries : (plan.tries.map (·.1.ctorIdx)).Pairwise (· < ·)
  statics : ∀ place ∈ places plan.statics, Route.Normalized place.2

section
variable {tries : List (Verb × RouteNode)} {verb : Verb} {trie : RouteNode}

/-- The tries stay in the order of their verbs. -/
theorem pairwise_placeTrie (h : (tries.map (·.1.ctorIdx)).Pairwise (· < ·)) :
    ((RouterPlan.placeTrie verb trie tries).map (·.1.ctorIdx)).Pairwise (· < ·) := by
  induction tries with
  | nil => exact List.pairwise_singleton ..
  | cons t rest ih =>
    obtain ⟨w, m⟩ := t
    obtain ⟨hfirst, hrest⟩ := List.pairwise_cons.1 h
    rw [RouterPlan.placeTrie]
    split
    · next heq =>
      subst heq
      exact h
    · next hne =>
      split
      · next hlt =>
        refine List.pairwise_cons.2 ⟨fun i hi => ?_, h⟩
        rcases List.mem_cons.1 hi with rfl | hi
        · exact hlt
        · exact Nat.lt_trans hlt (hfirst i hi)
      · next hge =>
        refine List.pairwise_cons.2 ⟨List.forall_mem_map.2 fun t ht => ?_, ih hrest⟩
        rcases mem_placeTrie ht with rfl | ht
        · have hidx : verb.ctorIdx ≠ w.ctorIdx := fun heq => hne (Verb.ctorIdx_injective heq)
          exact Nat.lt_of_le_of_ne (Nat.le_of_not_lt hge) hidx.symm
        · exact hfirst _ (List.mem_map_of_mem ht)

/-- A trie of the plan is the one of its verb. -/
theorem lookup_of_mem (h : (tries.map (·.1.ctorIdx)).Pairwise (· < ·)) (ht : (verb, trie) ∈ tries) :
    tries.lookup verb = some trie := by
  induction tries with
  | nil => cases ht
  | cons t rest ih =>
    obtain ⟨w, m⟩ := t
    obtain ⟨hfirst, hrest⟩ := List.pairwise_cons.1 h
    rw [lookup_cons_ite]
    rcases List.mem_cons.1 ht with heq | ht
    · cases heq
      exact if_pos rfl
    · have hlt : w.ctorIdx < verb.ctorIdx := hfirst _ (List.mem_map_of_mem (f := (·.1.ctorIdx)) ht)
      rw [if_neg fun heq => Nat.lt_irrefl _ (heq ▸ hlt), ih hrest ht]

end

section
variable {statics : List StaticRoute} {verb : Verb} {path : String}

/-- The call at a place is that of a route there. -/
theorem of_staticCall?_eq_some {call : RouteCall} (h : staticCall? statics verb path = some call) :
    ∃ r ∈ statics, r.verb = verb ∧ r.path = path ∧ r.call = call := by
  obtain ⟨r, hr, hcall⟩ := Option.map_eq_some_iff.1 h
  have hplace := List.find?_some hr
  simp only [Bool.and_eq_true, decide_eq_true_eq] at hplace
  exact ⟨r, List.mem_reverse.1 (List.mem_of_find?_eq_some hr), hplace.1, hplace.2, hcall⟩

/-- A route without captures is found at its place. -/
theorem staticCall?_of_mem (h : (places statics).Nodup) {r : StaticRoute} (hr : r ∈ statics) :
    staticCall? statics r.verb r.path = some r.call := by
  induction statics with
  | nil => cases hr
  | cons first rest ih =>
    obtain ⟨hfirst, hrest⟩ := List.nodup_cons.1 h
    rw [staticCall?_cons]
    rcases List.mem_cons.1 hr with rfl | hr
    · rw [staticCall?_eq_none hfirst, Option.none_or, if_pos ⟨rfl, rfl⟩]
    · rw [ih hrest hr, Option.some_or]

end

section
variable {rs : Verb → Routes} {plan : RouterPlan} {verb : Verb} {keys : List RouteKey}
  {call : RouteCall}

/-- Routes without captures have the keys of some path. -/
def Pathed (rs : Verb → Routes) : Prop :=
  ∀ verb, ∀ route ∈ rs verb, route.1.all RouteKey.isLiteral = true →
    ∃ path, route.1 = (Route.segments path).map .literal

/-- A route without captures stands at a normalized path. -/
theorem Placed.normalize_path (h : Placed plan) {r : StaticRoute} (hr : r ∈ plan.statics) :
    Route.normalize r.path = r.path :=
  h.statics (r.verb, r.path) (List.mem_map_of_mem (f := fun r : StaticRoute => (r.verb, r.path)) hr)

/-- A route without captures is what is called for the segments of its path. -/
theorem Entered.call?_of_static (h : Entered rs plan) (hplaced : Placed plan) {r : StaticRoute}
    (hr : r ∈ plan.statics) :
    Routes.call? (rs r.verb) ((Route.segments r.path).map .literal) = some r.call := by
  rw [← h.statics, hplaced.normalize_path hr]
  exact staticCall?_of_mem h.places hr

/-- What is called for keys without captures is a route without captures. -/
theorem Entered.exists_static (h : Entered rs plan) (hpathed : Pathed rs)
    (hcall : Routes.call? (rs verb) keys = some call) (hall : keys.all RouteKey.isLiteral = true) :
    ∃ r ∈ plan.statics, r.verb = verb ∧ (Route.segments r.path).map .literal = keys ∧
      r.call = call := by
  obtain ⟨path, hpath⟩ := hpathed verb _ (Routes.mem_of_call? hcall) hall
  obtain rfl : keys = (Route.segments path).map .literal := hpath
  rw [← h.statics] at hcall
  obtain ⟨r, hr, hverb, hpath, hrcall⟩ := of_staticCall?_eq_some hcall
  exact ⟨r, hr, hverb, by rw [hpath, Route.segments_normalize], hrcall⟩

/-- A trie of the plan is that of the routes with captures of its verb. -/
theorem Entered.eq_trie (h : Entered rs plan) (hplaced : Placed plan) {n : RouteNode}
    (hn : (verb, n) ∈ plan.tries) : n = Routes.trie 0 .root (Routes.captured (rs verb)) := by
  have htrie : plan.trie? verb = some n := lookup_of_mem hplaced.tries hn
  rw [← h.trie, htrie, Option.getD_some]

end

section
variable {config : Config} {classes : List ClassDescriptor} {services : ContainerPlan}
  {r : RouteDefinition} {plan : RouterPlan} {diagnostics : List Diagnostic} {rs : Verb → Routes}

/-- The routes of definitions without captures have the keys of their paths. -/
theorem pathed_routes (definitions : List RouteDefinition) :
    Pathed (routes config classes services definitions) := by
  intro verb route hroute hlit
  obtain ⟨r, -, hr⟩ := List.mem_filterMap.1 hroute
  rw [route?] at hr
  split at hr
  · obtain ⟨call, -, rfl⟩ := Option.map_eq_some_iff.1 hr
    exact ⟨r.path, RouteDefinition.keys_of_literals (r.all_isLiteral_keys ▸ hlit)⟩
  · cases hr

/-- Entering a route keeps the tries in order and the paths normalized. -/
theorem Placed.enter (h : Placed plan) (hnorm : Route.Normalized r.path) (call : RouteCall) :
    Placed (enter plan r call).1 := by
  rw [RouteTable.enter]
  split
  · refine ⟨h.tries, fun place hplace => ?_⟩
    rw [places_placeStatic] at hplace
    split at hplace
    · exact h.statics place hplace
    · rcases List.mem_append.1 hplace with hplace | hplace
      · exact h.statics place hplace
      · rw [List.mem_singleton.1 hplace]
        exact hnorm
  · exact ⟨pairwise_placeTrie h.tries, h.statics⟩

/-- In a compiled plan everything stands in its place. -/
theorem compile_placed (h : compile config classes services = .ok (plan, diagnostics)) :
    Placed plan := by
  obtain ⟨definitions, hall, hfold⟩ := Result.bind_eq_ok.1 h
  refine Result.foldlM_induction (fun _ b => Placed b.1) ⟨.nil, List.forall_mem_nil _⟩ ?_ hfold
  rintro done ⟨plan, diagnostics⟩ ⟨plan', diagnostics'⟩ r hr hplaced hadd
  rcases of_add_eq_ok hadd with ⟨finding, -, rfl, -⟩ | ⟨call, -, rfl, -⟩
  · exact hplaced
  · exact hplaced.enter (RouteDefinition.normalized_of_all hall hr) call

/-- How deep a plan is nested is known from the calls of its routes and their keys. -/
theorem Entered.nesting_le (h : Entered rs plan) (hplaced : Placed plan) (hpathed : Pathed rs)
    {levels : Nat} :
    plan.toDatum.nesting ≤ levels + 4 ↔ ∀ verb keys call, Routes.call? (rs verb) keys = some call →
      Routes.depth keys + call.toDatum.nesting ≤ levels + 4 := by
  rw [RouterPlan.nesting_toDatum_le]
  -- keys without captures belong to a static route, all others to a node of the trie
  constructor
  · rintro ⟨hstatics, htries⟩ verb keys call hcall
    rw [Routes.depth]
    cases hall : keys.all RouteKey.isLiteral with
    | true =>
      obtain ⟨r, hr, -, -, rfl⟩ := h.exists_static hpathed hcall hall
      have := StaticRoute.nesting_toDatum_le.1 (hstatics r hr)
      simp only [if_true]
      omega
    | false =>
      have htrie :
          (Routes.trie 0 .root (Routes.captured (rs verb))).toDatum.nesting ≤ levels + 2 := by
        rw [← h.trie]
        cases hlookup : plan.trie? verb with
        | none => exact RouteNode.nesting_toDatum_le.2 ⟨nofun, nofun⟩
        | some trie => exact htries _ (mem_of_lookup hlookup)
      have := (Routes.nesting_trie_le ..).1 htrie keys call (Routes.call?_captured.2 ⟨hcall, hall⟩)
      simp only [Bool.false_eq_true, if_false]
      omega
  · intro hcalls
    refine ⟨fun r hr => StaticRoute.nesting_toDatum_le.2 ?_, fun t ht => ?_⟩
    · have := hcalls _ _ _ (h.call?_of_static hplaced hr)
      rw [Routes.depth] at this
      omega
    · obtain ⟨verb, trie⟩ := t
      rw [h.eq_trie hplaced ht, Routes.nesting_trie_le]
      intro keys call hcall
      obtain ⟨hcall, hall⟩ := Routes.call?_captured.1 hcall
      have := hcalls verb keys call hcall
      rw [Routes.depth, hall, if_neg Bool.false_ne_true] at this
      omega

/-- How deep a compiled plan is nested is known from the definitions that were bound. -/
theorem nesting_compile_le (h : compile config classes services = .ok (plan, diagnostics)) :
    ∃ definitions, RouteDefinition.all config classes = .ok definitions ∧ ∀ levels,
      (plan.toDatum.nesting ≤ levels + 4 ↔ ∀ verb keys call,
        Routes.call? (routes config classes services definitions verb) keys = some call →
          Routes.depth keys + call.toDatum.nesting ≤ levels + 4) := by
  obtain ⟨definitions, hall, hentered, -⟩ := compile_entered h
  exact ⟨definitions, hall, fun levels =>
    hentered.nesting_le (compile_placed h) (pathed_routes definitions)⟩

end

end RouteTable

end Wiring
