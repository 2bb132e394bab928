import Wiring.Proofs.Route.Depth

/-!
# What takes the place of what

Entering a call gives back the call that was at its place: among routes that were entered one after
another this is the call of the last route with the same keys (`RouteTable.Entered.enter_snd`). So
what compiling says about a definition is known from the definitions before it
(`RouteTable.verdict?`), whichever way the plan keeps their routes, and so is the conflict that ends
it in strict mode (`RouteTable.conflict?`).
-/

namespace Wiring

/-! ## Tries -/

namespace RouteNode

/-- The child that is changed is the one with the key, or a new one. -/
theorem updateChild_snd {g : RouteKey → RouteNode} (hg : ∀ k, (g k).key = k) (segment : Nat)
    (key : RouteKey) (change : RouteNode → RouteNode × Option RouteCall) (keys : List RouteKey) :
    (updateChild segment key change (keys.map g)).2 =
      (change (if key ∈ keys then g key else leaf segment key)).2 := by
  induction keys with
  | nil => rfl
  | cons k rest ih =>
    rw [List.map_cons, updateChild, hg]
    split
    · next heq => rw [if_pos (heq ▸ .head _), heq]
    · next hne =>
      have hiff : key ∈ k :: rest ↔ key ∈ rest :=
        List.mem_cons.trans (or_iff_right fun heq => hne heq.symm)
      simp only [hiff]
      exact ih

end RouteNode

namespace Routes

/-- Inserting into a trie gives back the call of the last route with the keys. -/
theorem insert_trie_snd (segment : Nat) (key : RouteKey) (rs : Routes)
    (requirements : List (String × String)) (call : RouteCall) (template : List Route.Segment) :
    ((trie segment key rs).insert requirements call template).2 =
      call? rs (template.map (RouteKey.ofSegment requirements)) := by
  induction template generalizing segment key rs with
  | nil => rw [trie_eq, RouteNode.insert]; rfl
  | cons first rest ih =>
    let k := RouteKey.ofSegment requirements first
    -- a key with which no route begins leads to the trie of no routes
    have hchild : ∀ (p : RouteKey → Bool), p k = true →
        (if k ∈ (firsts rs).filter p then trie (segment + 1) k (below k rs)
          else RouteNode.leaf (segment + 1) k) = trie (segment + 1) k (below k rs) := by
      intro p hp
      split
      · rfl
      · next hk =>
        rw [below_eq_nil fun hmem => hk (List.mem_filter.2 ⟨hmem, hp⟩)]
        rfl
    have hchildren : ∀ (p : RouteKey → Bool), p k = true →
        (RouteNode.updateChild (segment + 1) k (fun c => c.insert requirements call rest)
          (children p (segment + 1) rs)).2 =
            call? rs ((first :: rest).map (RouteKey.ofSegment requirements)) := by
      intro p hp
      rw [children, RouteNode.updateChild_snd (fun _ => trie_key ..), hchild p hp, ih, call?_below]
      rfl
    rw [trie_eq, RouteNode.insert]
    split
    · next hfirst => exact hchildren _ ((RouteKey.isLiteral_ofSegment ..).trans hfirst)
    · next hfirst => exact hchildren _ (by simpa [k] using hfirst)

end Routes

namespace RouteTable

/-! ## Entering a call -/

/-- A call that is placed takes the place of the one that is found there. -/
theorem placeStatic_snd {statics : List StaticRoute} {verb : Verb} {path : String}
    (h : (places statics).Nodup) (call : RouteCall) :
    (placeStatic verb path call statics).2 = staticCall? statics verb path := by
  induction statics with
  | nil => rfl
  | cons r rest ih =>
    obtain ⟨hr, hrest⟩ := List.nodup_cons.1 h
    rw [placeStatic, staticCall?_cons]
    split
    · next heq =>
      obtain ⟨rfl, rfl⟩ := heq
      rw [staticCall?_eq_none hr, Option.none_or]
    · rw [Option.or_none]
      exact ih hrest

section
variable {rs : Verb → Routes} {plan : RouterPlan} {r : RouteDefinition}

/-- Entering a definition gives back the call of the last route with its keys. -/
theorem Entered.enter_snd (h : Entered rs plan) (hnorm : Route.Normalized r.path)
    (call : RouteCall) :
    (RouteTable.enter plan r call).2 = Routes.call? (rs r.verb) r.keys := by
  rw [RouteTable.enter]
  split
  · next hlit =>
    have hpath : Route.normalize r.path = r.path := hnorm
    have hstatic := h.statics r.verb r.path
    rw [hpath] at hstatic
    rw [RouteDefinition.keys_of_literals hlit, ← hstatic]
    exact placeStatic_snd h.places call
  · next hcapture =>
    have hall : r.keys.all RouteKey.isLiteral = false := by
      rw [RouteDefinition.all_isLiteral_keys]
      exact Bool.not_eq_true _ ▸ hcapture
    have hcaptured : Routes.call? (Routes.captured (rs r.verb)) r.keys =
        Routes.call? (rs r.verb) r.keys :=
      Option.ext fun call => Routes.call?_captured.trans (and_iff_left hall)
    rw [← hcaptured, h.trie]
    exact Routes.insert_trie_snd ..

end

/-! ## What is said about definitions -/

section
variable (config : Config) (classes : List ClassDescriptor) (services : ContainerPlan)
  (done : List RouteDefinition) (r : RouteDefinition)

/-- The call that a definition after others takes the place of: that of the last of them with its
verb and keys that can be bound. -/
def displaced? : Option RouteCall :=
  Routes.call? (routes config classes services done r.verb) r.keys

/-- What is said about a definition after others: why it cannot be bound, or whose place it takes.
-/
def verdict? : Option Diagnostic :=
  match bind config classes services r with
  | .error finding => some (.error r.subject finding)
  | .ok _ => (displaced? config classes services done r).map fun previous =>
    .warning r.subject (.routeOverwritten previous.target)

/-- The error that a definition after others is in strict mode, if it takes the place of one. -/
def conflict? : Option CompileError :=
  match bind config classes services r with
  | .error _ => none
  | .ok _ => (displaced? config classes services done r).map fun previous =>
    .routeConflict r.verb r.path previous.target r.target

/-- The plan after a definition: with its call, if it can be bound. -/
def after (plan : RouterPlan) : RouterPlan :=
  match bind config classes services r with
  | .error _ => plan
  | .ok call => (enter plan r call).1

end

/-- Whether a diagnostic reports a route that took the place of another. -/
def isReplacement (d : Diagnostic) : Bool :=
  match d.finding with
  | .routeOverwritten _ => true
  | _ => false

/-- The plan holds the routes of the definitions so far, each in its place. -/
structure Stands (config : Config) (classes : List ClassDescriptor) (services : ContainerPlan)
    (done : List RouteDefinition) (plan : RouterPlan) : Prop where
  entered : Entered (routes config classes services done) plan
  placed : Placed plan

section
variable {config : Config} {classes : List ClassDescriptor} {services : ContainerPlan}
  {definitions done : List RouteDefinition} {r : RouteDefinition} {plan : RouterPlan}
  {diagnostics : List Diagnostic}

/-- What a definition cannot be bound for: its target, or one of its parameters. -/
theorem of_bind_eq_error {finding : Finding} (h : bind config classes services r = .error finding) :
    (∃ target, finding = .missingTarget target) ∨
      ∃ param, finding = .unboundRouteParameter param := by
  have hargs : ∀ params finding, args config.capabilities.request services (Route.captures r.path)
      params = .error finding → ∃ param, finding = .unboundRouteParameter param := by
    intro params
    induction params with
    | nil => nofun
    | cons p rest ih =>
      intro finding h
      rw [args] at h
      split at h
      · cases h
        exact ⟨p.name, rfl⟩
      · cases hrest : args config.capabilities.request services (Route.captures r.path) rest with
        | ok as => rw [hrest] at h; cases h
        | error finding' => rw [hrest] at h; cases h; exact ih _ hrest
  rw [bind] at h
  split at h
  · cases h
    exact .inl ⟨_, rfl⟩
  · next m _ =>
    dsimp only at h
    split at h
    · cases h
      exact .inl ⟨_, rfl⟩
    · cases has : args config.capabilities.request services (Route.captures r.path) m.params with
      | ok as => rw [has] at h; cases h
      | error finding' => rw [has] at h; cases h; exact .inr (hargs _ _ has)

/-- Before any definition the plan is empty. -/
theorem Stands.empty : Stands config classes services [] {} :=
  ⟨Entered.empty, .nil, List.forall_mem_nil _⟩

/-- After one more definition the plan holds its route as well. -/
theorem Stands.after (h : Stands config classes services done plan)
    (hall : RouteDefinition.all config classes = .ok definitions) (hr : r ∈ definitions) :
    Stands config classes services (done ++ [r]) (after config classes services r plan) := by
  have hnorm := RouteDefinition.normalized_of_all hall hr
  rw [RouteTable.after]
  split
  · next hbind =>
    refine ⟨?_, h.placed⟩
    rw [routes_concat_error hbind]
    exact h.entered
  · next call hbind =>
    refine ⟨?_, h.placed.enter hnorm call⟩
    rw [routes_concat_ok hbind]
    exact h.entered.enter hnorm
      (fun _ _ hmem => RouteDefinition.isSome_pattern_of_all hall hr hmem) call

/-- Adding a definition ends with its conflict in strict mode, and else goes on with what is said
about it. -/
theorem Stands.add_eq (h : Stands config classes services done plan)
    (hnorm : Route.Normalized r.path) : add config classes services (plan, diagnostics) r =
      match (if config.strictRoutes then conflict? config classes services done r else none) with
      | some e => .error e
      | none => .ok (RouteTable.after config classes services r plan,
          diagnostics ++ (verdict? config classes services done r).toList) := by
  rw [add, conflict?, verdict?, RouteTable.after]
  cases hbind : bind config classes services r with
  | error finding => cases config.strictRoutes <;> rfl
  | ok call =>
    have hback : (enter plan r call).2 = displaced? config classes services done r :=
      h.entered.enter_snd hnorm call
    dsimp only
    rw [← hback]
    cases enter plan r call with
    | mk plan' previous? =>
      cases previous? with
      | none => cases config.strictRoutes <;> simp
      | some previous => cases config.strictRoutes <;> rfl

end

end RouteTable

end Wiring
