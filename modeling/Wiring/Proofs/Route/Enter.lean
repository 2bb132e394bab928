import Wiring.Proofs.Route.Path
import Wiring.Proofs.Route.Search
import Wiring.Route.Table

/-!
# Entering definitions

A plan that definitions were entered into holds the routes of each verb: those without captures by
their normalized path, the others in the trie of the verb (`RouteTable.Entered`). Entering one more
definition adds one route to those of its verb (`RouteTable.Entered.enter`).
-/

namespace Wiring

/-! ## Keys of a definition -/

namespace RouteDefinition

/-- The keys under which a definition is entered. -/
def keys (r : RouteDefinition) : List RouteKey :=
  (Route.template r.path).map (RouteKey.ofSegment r.requirements)

section
variable {r : RouteDefinition}

/-- A definition has only literals as keys if its path has only literals. -/
theorem all_isLiteral_keys (r : RouteDefinition) :
    r.keys.all RouteKey.isLiteral = (Route.template r.path).all Route.Segment.isLiteral := by
  rw [keys, List.all_map]
  exact congrArg (List.all _) (funext fun s => RouteKey.isLiteral_ofSegment ..)

/-- Without captures, the keys are the segments of the path. -/
theorem keys_of_literals (h : (Route.template r.path).all Route.Segment.isLiteral = true) :
    r.keys = (Route.segments r.path).map .literal := by
  rw [keys, Route.template, List.map_map]
  refine List.map_congr_left fun s hs => ?_
  have hlit := List.all_eq_true.1 h _ (List.mem_map_of_mem hs)
  rw [Function.comp_apply]
  unfold Route.Segment.ofText at hlit ⊢
  split at hlit
  · cases hlit
  · rfl

/-- The patterns of the keys are those of the definition. -/
theorem mem_requirements_of_hasPattern {text : String} (h : Routes.HasPattern text r.keys) :
    ∃ capture, (capture, text) ∈ r.requirements := by
  obtain ⟨name, hname⟩ := h
  obtain ⟨s, -, hs⟩ := List.mem_map.1 hname
  cases s with
  | literal _ => cases hs
  | capture _ =>
    injection hs with _ hlookup
    exact ⟨_, mem_of_lookup hlookup⟩

end

end RouteDefinition

namespace RouteTable

/-! ## Routes without captures -/

/-- The last call at a place. -/
def staticCall? (statics : List StaticRoute) (verb : Verb) (path : String) : Option RouteCall :=
  (statics.reverse.find? fun r => r.verb = verb && r.path = path).map (·.call)

/-- Where routes without captures stand. -/
def places (statics : List StaticRoute) : List (Verb × String) :=
  statics.map fun r => (r.verb, r.path)

section
variable {statics : List StaticRoute} {verb verb' : Verb} {path path' : String}

/-- The call at a place is the last one there. -/
theorem staticCall?_cons (r : StaticRoute) (rest : List StaticRoute) (verb : Verb) (path : String) :
    staticCall? (r :: rest) verb path =
      (staticCall? rest verb path).or
        (if r.verb = verb ∧ r.path = path then some r.call else none) := by
  rw [staticCall?, staticCall?, List.reverse_cons, List.find?_append, Option.map_or]
  congr 1
  by_cases h : r.verb = verb ∧ r.path = path
  · simp [h]
  · simp [h]

/-- A place where no route stands has no call. -/
theorem staticCall?_eq_none (h : (verb, path) ∉ places statics) :
    staticCall? statics verb path = none := by
  rw [staticCall?, Option.map_eq_none_iff, List.find?_eq_none]
  intro r hr hplace
  simp only [Bool.and_eq_true, decide_eq_true_eq] at hplace
  obtain ⟨rfl, rfl⟩ := hplace
  exact h (List.mem_map_of_mem (List.mem_reverse.1 hr))

/-- A call stands at a place of its own, or at that of the call it replaces. -/
theorem places_placeStatic (verb : Verb) (path : String) (call : RouteCall)
    (statics : List StaticRoute) : places (placeStatic verb path call statics).1 =
      if (verb, path) ∈ places statics then places statics
      else places statics ++ [(verb, path)] := by
  induction statics with
  | nil => rfl
  | cons r rest ih =>
    rw [placeStatic]
    split
    · next h =>
      obtain ⟨rfl, rfl⟩ := h
      rw [if_pos (by simp [places])]
      rfl
    · next h =>
      have hiff : (verb, path) ∈ places (r :: rest) ↔ (verb, path) ∈ places rest := by
        rw [places, List.map_cons, List.mem_cons, Prod.mk.injEq, ← places]
        exact or_iff_right fun heq => h ⟨heq.1.symm, heq.2.symm⟩
      simp only [hiff]
      rw [places, List.map_cons, ← places, ih]
      split <;> rfl

/-- A route takes the place of one at its place, so none comes twice. -/
theorem nodup_places_placeStatic (h : (places statics).Nodup) (verb : Verb) (path : String)
    (call : RouteCall) : (places (placeStatic verb path call statics).1).Nodup := by
  rw [places_placeStatic]
  split
  · exact h
  · next hno => exact (List.perm_append_singleton _ _).nodup_iff.2 (List.nodup_cons.2 ⟨hno, h⟩)

/-- The call that was placed is found at its place, and every other one where it was. -/
theorem staticCall?_placeStatic (h : (places statics).Nodup) (call : RouteCall) :
    staticCall? (placeStatic verb path call statics).1 verb' path' =
      if verb = verb' ∧ path = path' then some call else staticCall? statics verb' path' := by
  induction statics with
  | nil => exact staticCall?_cons ..
  | cons r rest ih =>
    obtain ⟨hr, hrest⟩ := List.nodup_cons.1 h
    rw [placeStatic]
    split
    · next heq =>
      obtain ⟨rfl, rfl⟩ := heq
      rw [staticCall?_cons, staticCall?_cons]
      split
      · next heq =>
        obtain ⟨rfl, rfl⟩ := heq
        rw [staticCall?_eq_none hr, Option.none_or]
      · rfl
    · next hne =>
      rw [staticCall?_cons, ih hrest, staticCall?_cons]
      split
      · rw [Option.some_or]
      · rfl

end

/-! ## Tries -/

section
variable {verb : Verb} {trie : RouteNode} {tries : List (Verb × RouteNode)}

/-- A trie takes the place of that of its verb and of no other. -/
theorem lookup_placeTrie (verb : Verb) (trie : RouteNode) (tries : List (Verb × RouteNode))
    (verb' : Verb) : (RouterPlan.placeTrie verb trie tries).lookup verb' =
      if verb' = verb then some trie else tries.lookup verb' := by
  induction tries with
  | nil => exact lookup_cons_ite ..
  | cons entry rest ih =>
    obtain ⟨verb₁, trie₁⟩ := entry
    rw [RouterPlan.placeTrie]
    split
    · next heq =>
      subst heq
      rw [lookup_cons_ite, lookup_cons_ite]
      split <;> rfl
    · next hne =>
      split
      · exact lookup_cons_ite ..
      · rw [lookup_cons_ite, lookup_cons_ite, ih]
        by_cases h : verb' = verb
        · rw [if_neg (h ▸ hne), if_pos h, if_pos h]
        · rw [if_neg h, if_neg h]

/-- What stands after a trie was placed is the trie or stood there before. -/
theorem mem_placeTrie {entry : Verb × RouteNode}
    (h : entry ∈ RouterPlan.placeTrie verb trie tries) : entry = (verb, trie) ∨ entry ∈ tries := by
  induction tries with
  | nil => exact .inl (List.mem_singleton.1 h)
  | cons first rest ih =>
    obtain ⟨verb₁, trie₁⟩ := first
    rw [RouterPlan.placeTrie] at h
    split at h
    · exact (List.mem_cons.1 h).imp_right (.tail _)
    · split at h
      · exact List.mem_cons.1 h
      · rcases List.mem_cons.1 h with rfl | h
        · exact .inr (.head _)
        · exact (ih h).imp_right (.tail _)

end

/-! ## The routes of a plan -/

/-- Routes by verb with one more. -/
def withRoute (rs : Verb → Routes) (verb : Verb) (keys : List RouteKey) (call : RouteCall) :
    Verb → Routes :=
  fun verb' => if verb = verb' then rs verb' ++ [(keys, call)] else rs verb'

/-- The patterns of the routes are patterns. -/
def Valid (rs : Routes) : Prop :=
  ∀ r ∈ rs, ∀ text, Routes.HasPattern text r.1 →
    (Pattern.ofText? (Route.anchored text)).isSome = true

/-- The plan holds the routes of each verb. -/
structure Entered (rs : Verb → Routes) (plan : RouterPlan) : Prop where
  valid : ∀ verb, Valid (rs verb)
  places : (places plan.statics).Nodup
  statics : ∀ verb path, staticCall? plan.statics verb (Route.normalize path) =
    Routes.call? (rs verb) ((Route.segments path).map .literal)
  trie : ∀ verb, (plan.trie? verb).getD .root = Routes.trie 0 .root (Routes.captured (rs verb))
  patterns : ∀ entry ∈ plan.tries, ∀ text ∈ entry.2.patterns,
    (Pattern.ofText? (Route.anchored text)).isSome = true

/-- An empty plan holds no routes. -/
theorem Entered.empty : Entered (fun _ => []) {} where
  valid := fun _ => nofun
  places := .nil
  statics := fun _ _ => rfl
  trie := fun _ => rfl
  patterns := nofun

section
variable {rs : Verb → Routes} {plan : RouterPlan} {r : RouteDefinition} {call : RouteCall}

/-- The patterns of the routes with captures are patterns, if all are. -/
theorem Valid.captured {rs : Routes} (h : Valid rs) : Valid (Routes.captured rs) :=
  fun r hr => h r (List.mem_filter.1 hr).1

/-- The patterns of one more route are patterns, if its requirements are. -/
theorem valid_withRoute (h : ∀ verb, Valid (rs verb)) (verb : Verb)
    (hr : ∀ capture pattern, (capture, pattern) ∈ r.requirements →
      (Pattern.ofText? (Route.anchored pattern)).isSome = true) (verb' : Verb) :
    Valid (withRoute rs verb r.keys call verb') := by
  intro route hroute text htext
  rw [withRoute] at hroute
  split at hroute
  · rcases List.mem_append.1 hroute with hroute | hroute
    · exact h verb' route hroute text htext
    · obtain rfl := List.mem_singleton.1 hroute
      obtain ⟨capture, hmem⟩ := RouteDefinition.mem_requirements_of_hasPattern htext
      exact hr capture text hmem
  · exact h verb' route hroute text htext

/-- The trie of valid routes has valid patterns only. -/
theorem Valid.trie {rs : Routes} (h : Valid rs) :
    ∀ text ∈ (Routes.trie 0 .root rs).patterns,
      (Pattern.ofText? (Route.anchored text)).isSome = true := by
  intro text htext
  obtain ⟨r, hr, hpat⟩ := Routes.mem_patterns_root.1 htext
  exact h r hr text hpat

/-- One more route is one with captures, unless its keys are literals. -/
theorem captured_concat (rs : Routes) (keys : List RouteKey) (call : RouteCall) :
    Routes.captured (rs ++ [(keys, call)]) =
      if keys.all RouteKey.isLiteral = true then Routes.captured rs
      else Routes.captured rs ++ [(keys, call)] := by
  rw [Routes.captured, List.filter_append, ← Routes.captured]
  split
  · next h => rw [List.filter_cons_of_neg (by simp [h]), List.filter_nil, List.append_nil]
  · next h => rw [List.filter_cons_of_pos (by simp [h]), List.filter_nil]

/-- A route without captures is entered at its place. -/
theorem Entered.placeStatic (h : Entered rs plan) (hnorm : Route.Normalized r.path)
    (hvalid : ∀ verb, Valid (withRoute rs r.verb r.keys call verb))
    (hlit : (Route.template r.path).all Route.Segment.isLiteral = true) :
    Entered (withRoute rs r.verb r.keys call)
      { plan with statics := (placeStatic r.verb r.path call plan.statics).1 } where
  valid := hvalid
  places := nodup_places_placeStatic h.places ..
  statics := by
    intro verb path
    have hkeys : (Route.segments path).map RouteKey.literal = r.keys ↔
        r.path = Route.normalize path := by
      rw [RouteDefinition.keys_of_literals hlit, eq_comm (a := r.path),
        Route.normalize_eq_iff hnorm]
      exact List.map_inj_right fun _ _ heq => RouteKey.literal.inj heq
    rw [staticCall?_placeStatic h.places, h.statics, withRoute]
    by_cases hverb : r.verb = verb
    · rw [if_pos hverb, Routes.call?_concat]
      by_cases hpath : r.path = Route.normalize path
      · rw [if_pos ⟨hverb, hpath⟩, if_pos (hkeys.2 hpath)]
      · rw [if_neg fun hand => hpath hand.2, if_neg fun heq => hpath (hkeys.1 heq)]
    · rw [if_neg fun hand => hverb hand.1, if_neg hverb]
  trie := by
    intro verb
    refine (h.trie verb).trans ?_
    rw [withRoute]
    split
    · rw [captured_concat, if_pos ((RouteDefinition.all_isLiteral_keys r).trans hlit)]
    · rfl
  patterns := h.patterns

/-- A route with captures is put into the trie of its verb. -/
theorem Entered.placeTrie (h : Entered rs plan)
    (hvalid : ∀ verb, Valid (withRoute rs r.verb r.keys call verb))
    (hcapture : ¬ (Route.template r.path).all Route.Segment.isLiteral = true) :
    Entered (withRoute rs r.verb r.keys call)
      { plan with
        tries := RouterPlan.placeTrie r.verb
          (((plan.trie? r.verb).getD .root).insert r.requirements call (Route.template r.path)).1
          plan.tries } := by
  have hall : ¬ r.keys.all RouteKey.isLiteral = true := by
    rwa [RouteDefinition.all_isLiteral_keys]
  have htrie : (((plan.trie? r.verb).getD .root).insert r.requirements call
      (Route.template r.path)).1 =
        Routes.trie 0 .root (Routes.captured (withRoute rs r.verb r.keys call r.verb)) := by
    rw [RouteNode.insert_fst, h.trie, withRoute, if_pos rfl, captured_concat, if_neg hall,
      Routes.trie_concat]
    rfl
  rw [htrie]
  refine ⟨hvalid, h.places, fun verb path => ?_, fun verb => ?_, fun entry hentry text htext => ?_⟩
  · -- a route with captures has the keys of no path
    have hne : (Route.segments path).map RouteKey.literal ≠ r.keys := by
      intro heq
      rw [← heq, List.all_map] at hall
      exact hall (List.all_eq_true.2 fun _ _ => rfl)
    rw [h.statics, withRoute]
    split
    · rw [Routes.call?_concat, if_neg hne]
    · rfl
  · rw [RouterPlan.trie?, lookup_placeTrie]
    split
    · next heq => rw [heq, Option.getD_some]
    · next hne =>
      rw [withRoute, if_neg fun heq => hne heq.symm]
      exact h.trie verb
  · rcases mem_placeTrie hentry with rfl | hentry
    · exact (hvalid r.verb).captured.trie text htext
    · exact h.patterns entry hentry text htext

/-- Entering a definition adds a route to those of its verb. -/
theorem Entered.enter (h : Entered rs plan) (hnorm : Route.Normalized r.path)
    (hpatterns : ∀ capture pattern, (capture, pattern) ∈ r.requirements →
      (Pattern.ofText? (Route.anchored pattern)).isSome = true) (call : RouteCall) :
    Entered (withRoute rs r.verb r.keys call) (enter plan r call).1 := by
  have hvalid : ∀ verb, Valid (withRoute rs r.verb r.keys call verb) :=
    valid_withRoute h.valid r.verb hpatterns
  rw [RouteTable.enter]
  split
  · next hlit => exact h.placeStatic hnorm hvalid hlit
  · next hcapture => exact h.placeTrie hvalid hcapture

end

end RouteTable

end Wiring
