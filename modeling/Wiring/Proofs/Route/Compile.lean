import Wiring.Proofs.Result
import Wiring.Proofs.Route.Definition
import Wiring.Proofs.Route.Enter

/-!
# Compiled routes find the route of a path

Compiling enters the definitions that can be bound one after another and reports the others
(`RouteTable.compile_entered`). The plan that comes out has patterns only, and what is found in it
is the route of the path among these definitions (`RouteTable.compile_finds`).
-/

namespace Wiring

/-! ## Patterns of a matcher -/

namespace RouteMatcher

/-- The patterns are those of their texts. -/
def Compiled (patterns : List (String × Pattern)) : Prop :=
  ∀ text p, patterns.lookup text = some p → Pattern.ofText? (Route.anchored text) = some p

section
variable {done : List (String × Pattern)} {text : String}

/-- Texts that are patterns can be collected, and then all of them are there. -/
theorem collect?_of_valid {texts : List String} (hdone : Compiled done)
    (h : ∀ text ∈ texts, (Pattern.ofText? (Route.anchored text)).isSome = true) :
    ∃ patterns, collect? done texts = some patterns ∧ Compiled patterns ∧
      (∀ text, (done.lookup text).isSome = true → (patterns.lookup text).isSome = true) ∧
      ∀ text ∈ texts, (patterns.lookup text).isSome = true := by
  induction texts generalizing done with
  | nil => exact ⟨done, rfl, hdone, fun _ => id, nofun⟩
  | cons text rest ih =>
    have hrest : ∀ text ∈ rest, (Pattern.ofText? (Route.anchored text)).isSome = true :=
      fun text ht => h text (.tail _ ht)
    rw [collect?]
    split
    · next hknown =>
      obtain ⟨patterns, hcollect, hcompiled, hkeeps, hall⟩ := ih hdone hrest
      exact ⟨patterns, hcollect, hcompiled, hkeeps, List.forall_mem_cons.2 ⟨hkeeps _ hknown, hall⟩⟩
    · obtain ⟨p, hp⟩ := Option.isSome_iff_exists.1 (h text (.head _))
      have hcons : Compiled ((text, p) :: done) := by
        intro text' p' hp'
        rw [lookup_cons_ite] at hp'
        split at hp'
        · next heq => rw [heq, hp, hp']
        · exact hdone text' p' hp'
      obtain ⟨patterns, hcollect, hcompiled, hkeeps, hall⟩ := ih hcons hrest
      simp only [hp]
      refine ⟨patterns, hcollect, hcompiled, fun text' hknown => hkeeps text' ?_,
        List.forall_mem_cons.2 ⟨hkeeps text ?_, hall⟩⟩
      · rw [lookup_cons_ite]
        split
        · rfl
        · exact hknown
      · rw [lookup_cons_ite, if_pos rfl, Option.isSome_some]

/-- There is no route in an empty trie. -/
theorem search_root (patterns : List (String × Pattern)) (segments : List String)
    (params : List (String × String)) : search patterns segments params .root = none := by
  cases segments <;> rfl

end

end RouteMatcher

/-! ## What is entered and what is reported -/

namespace RouteTable

/-- The route that a definition adds to those of a verb, if it is one of the verb and can be bound.
-/
def route? (config : Config) (classes : List ClassDescriptor) (services : ContainerPlan)
    (verb : Verb) (r : RouteDefinition) : Option (List RouteKey × RouteCall) :=
  if r.verb = verb then (bind config classes services r).toOption.map (r.keys, ·) else none

/-- The routes of a verb, in the order of their definitions. -/
def routes (config : Config) (classes : List ClassDescriptor) (services : ContainerPlan)
    (definitions : List RouteDefinition) (verb : Verb) : Routes :=
  definitions.filterMap (route? config classes services verb)

/-- The error that reports a definition, if it cannot be bound. -/
def reported? (config : Config) (classes : List ClassDescriptor) (services : ContainerPlan)
    (r : RouteDefinition) : Option Diagnostic :=
  match bind config classes services r with
  | .error finding => some (.error r.subject finding)
  | .ok _ => none

section
variable {config : Config} {classes : List ClassDescriptor} {services : ContainerPlan}
  {definitions : List RouteDefinition} {r : RouteDefinition} {plan plan' : RouterPlan}
  {diagnostics diagnostics' : List Diagnostic}

/-- Where a parameter gets its value. -/
inductive SourceOf (services : ContainerPlan) (captures : List String) (p : Parameter) :
    RouteArgSource → Prop
  | captured : p.name ∈ captures → SourceOf services captures p (.captured (coercion? p.type))
  | request : p.name ∉ captures → SourceOf services captures p .request
  | default {value : DefaultValue} : p.name ∉ captures → p.default? = some value →
      SourceOf services captures p (.default value)
  | service {id : String} : p.name ∉ captures → services.has id = true →
      SourceOf services captures p (.service id)

/-- A parameter gets its value from what is captured under its name, or else from the request, its
default or a planned service. -/
theorem SourceOf.of_source? {request : String} {captures : List String} {p : Parameter}
    {source : RouteArgSource} (h : source? request services captures p = some source) :
    SourceOf services captures p source := by
  rw [source?] at h
  split at h
  · next hmem =>
    cases h
    exact .captured (List.contains_iff_mem.1 hmem)
  next hno =>
  have hno : p.name ∉ captures := fun hmem => hno (List.contains_iff_mem.2 hmem)
  split at h
  · cases h
    exact .request hno
  split at h
  · next hdefault =>
    cases h
    exact .default hno hdefault
  split at h
  · next hname =>
    cases h
    exact .service hno hname
  split at h
  · split at h
    · next htype =>
      cases h
      exact .service hno htype
    · cases h
  · cases h

/-- Each parameter is an argument with the source that it has. -/
theorem forall₂_of_args {request : String} {captures : List String} {params : List Parameter}
    {as : List RouteArg} (h : args request services captures params = .ok as) :
    List.Forall₂ (fun p arg => arg.name = p.name ∧
      source? request services captures p = some arg.source) params as := by
  induction params generalizing as with
  | nil =>
    cases h
    exact .nil
  | cons p rest ih =>
    rw [args] at h
    split at h
    · cases h
    · next source hsource =>
      cases hrest : args request services captures rest with
      | error finding =>
        rw [hrest] at h
        cases h
      | ok as' =>
        rw [hrest] at h
        cases h
        exact .cons ⟨rfl, hsource⟩ (ih hrest)

/-- What a definition is bound to: a method that is there and can be called, with a source for each
of its parameters. -/
theorem of_bind {call : RouteCall} (h : bind config classes services r = .ok call) : ∃ m as,
    (class? classes r.className >>= (·.method? r.method)) = some m ∧
      (m.isStatic = true ∨ services.has r.className = true) ∧
        args config.capabilities.request services (Route.captures r.path) m.params = .ok as ∧
          call = {
            className := r.className, method := r.method
            service? := if m.isStatic then none else some r.className
            args := as, path := r.path, name? := r.name? } := by
  rw [bind] at h
  split at h
  · cases h
  · next m hm =>
    dsimp only at h
    split at h
    · cases h
    · next hguard =>
      obtain ⟨as, has, h⟩ := Result.bind_eq_ok.1 h
      refine ⟨m, as, hm, ?_, has, (Except.ok.inj h).symm⟩
      simpa [or_iff_not_imp_left] using hguard

/-- One more definition adds its route, if it has one. -/
theorem routes_concat (done : List RouteDefinition) :
    routes config classes services (done ++ [r]) =
      fun verb => routes config classes services done verb ++
        (route? config classes services verb r).toList := by
  funext verb
  rw [routes, List.filterMap_append, ← routes]
  cases h : route? config classes services verb r <;> simp [h]

/-- A definition that cannot be bound adds no route. -/
theorem routes_concat_error {finding : Finding}
    (h : bind config classes services r = .error finding) (done : List RouteDefinition) :
    routes config classes services (done ++ [r]) = routes config classes services done := by
  rw [routes_concat]
  funext verb
  simp [route?, h, Except.toOption]

/-- A definition that can be bound adds its route to those of its verb. -/
theorem routes_concat_ok {call : RouteCall} (h : bind config classes services r = .ok call)
    (done : List RouteDefinition) : routes config classes services (done ++ [r]) =
      withRoute (routes config classes services done) r.verb r.keys call := by
  rw [routes_concat]
  funext verb
  rw [withRoute, route?, h]
  split
  · rfl
  · exact List.append_nil _

/-- What adding a definition does: it is reported, or entered with a warning at most. -/
theorem of_add_eq_ok (h : add config classes services (plan, diagnostics) r =
    .ok (plan', diagnostics')) :
    (∃ finding, bind config classes services r = .error finding ∧ plan' = plan ∧
      diagnostics' = diagnostics ++ [.error r.subject finding]) ∨
    (∃ call, bind config classes services r = .ok call ∧ plan' = (enter plan r call).1 ∧
      diagnostics'.filter (·.isError) = diagnostics.filter (·.isError)) := by
  rw [add] at h
  split at h
  · next finding hbind =>
    cases h
    exact .inl ⟨finding, hbind, rfl, rfl⟩
  · next call hbind =>
    refine .inr ⟨call, hbind, ?_⟩
    split at h
    · next plan₁ henter =>
      cases h
      exact ⟨by rw [henter], rfl⟩
    · next plan₁ previous henter =>
      split at h
      · cases h
      · cases h
        have hwarning : ([.warning r.subject (.routeOverwritten previous.target)] :
            List Diagnostic).filter (·.isError) = [] := rfl
        refine ⟨by rw [henter], ?_⟩
        rw [List.filter_append, hwarning, List.append_nil]

/-- Compiling enters the definitions that can be bound, and reports the others as errors. -/
theorem compile_entered (h : compile config classes services = .ok (plan, diagnostics)) :
    ∃ definitions, RouteDefinition.all config classes = .ok definitions ∧
      Entered (routes config classes services definitions) plan ∧
      diagnostics.filter (·.isError) =
        definitions.filterMap (reported? config classes services) := by
  obtain ⟨definitions, hall, hfold⟩ := Result.bind_eq_ok.1 h
  refine ⟨definitions, hall, Result.foldlM_induction
    (fun done b => Entered (routes config classes services done) b.1 ∧
      b.2.filter (·.isError) = done.filterMap (reported? config classes services)) ?_ ?_ hfold⟩
  · exact ⟨Entered.empty, rfl⟩
  · rintro done ⟨plan, diagnostics⟩ ⟨plan', diagnostics'⟩ r hr ⟨hentered, hreported⟩ hadd
    simp only [List.filterMap_append]
    rcases of_add_eq_ok hadd with ⟨finding, hbind, rfl, rfl⟩ | ⟨call, hbind, rfl, hsame⟩
    · refine ⟨routes_concat_error hbind done ▸ hentered, ?_⟩
      rw [List.filter_append, hreported]
      simp [reported?, hbind, Diagnostic.error, Diagnostic.isError]
    · refine ⟨?_, ?_⟩
      · rw [routes_concat_ok hbind]
        exact hentered.enter (RouteDefinition.normalized_of_all hall hr)
          (fun _ _ hmem => RouteDefinition.isSome_pattern_of_all hall hr hmem) call
      · rw [hsame, hreported]
        simp [reported?, hbind]

/-! ## What is found -/

/-- The routes of a plan that has its patterns collected know all of these. -/
theorem Entered.knows {rs : Verb → Routes} {patterns : List (String × Pattern)}
    (h : Entered rs plan) (hcompiled : RouteMatcher.Compiled patterns)
    (hall : ∀ entry ∈ plan.tries, ∀ text ∈ entry.2.patterns,
      (patterns.lookup text).isSome = true) (verb : Verb) :
    Routes.Knows patterns (Routes.captured (rs verb)) := by
  intro r hr text hpat
  have htext : text ∈ ((plan.trie? verb).getD .root).patterns := by
    rw [h.trie]
    exact Routes.mem_patterns_root.2 ⟨r, hr, hpat⟩
  cases htrie : plan.trie? verb with
  | none =>
    rw [htrie] at htext
    cases htext
  | some trie =>
    rw [htrie, Option.getD_some] at htext
    obtain ⟨p, hp⟩ := Option.isSome_iff_exists.1 (hall _ (mem_of_lookup htrie) text htext)
    exact ⟨p, hp, hcompiled text p hp⟩

/-- The patterns of a plan can be collected, and then those of its routes are all there. -/
theorem Entered.matcher {rs : Verb → Routes} (h : Entered rs plan) :
    ∃ patterns, RouteMatcher.ofPlan? plan = some ⟨plan, patterns⟩ ∧
      ∀ verb, Routes.Knows patterns (Routes.captured (rs verb)) := by
  have hvalid : ∀ text ∈ plan.tries.flatMap fun entry => entry.2.patterns,
      (Pattern.ofText? (Route.anchored text)).isSome = true := by
    intro text htext
    obtain ⟨entry, hentry, htext⟩ := List.mem_flatMap.1 htext
    exact h.patterns entry hentry text htext
  have hnil : RouteMatcher.Compiled [] := nofun
  obtain ⟨patterns, hcollect, hcompiled, -, hall⟩ := RouteMatcher.collect?_of_valid hnil hvalid
  refine ⟨patterns, ?_, h.knows hcompiled fun entry hentry text htext =>
    hall text (List.mem_flatMap.2 ⟨entry, hentry, htext⟩)⟩
  rw [RouteMatcher.ofPlan?]
  exact Option.map_eq_some_iff.2 ⟨patterns, hcollect, rfl⟩

/-- What is found in a plan is the route of the path, among the routes it holds. -/
theorem Entered.finds {rs : Verb → Routes} (h : Entered rs plan) :
    ∃ m, RouteMatcher.ofPlan? plan = some m ∧
      ∀ verb path, Routes.Finds (rs verb) (Route.segments path) (m.find? verb path) := by
  obtain ⟨patterns, hplan, hknows⟩ := h.matcher
  refine ⟨⟨plan, patterns⟩, hplan, fun verb path => ?_⟩
  have hstatic : RouteMatcher.static? ⟨plan, patterns⟩ verb (Route.normalize path) =
      Routes.call? (rs verb) ((Route.segments path).map .literal) := h.statics verb path
  rw [RouteMatcher.find?, hstatic]
  split
  · next call hcall => exact .static hcall
  · next hnone =>
    have htrie : (plan.trie? verb >>= RouteMatcher.search patterns (Route.segments path) []) =
        RouteMatcher.search patterns (Route.segments path) []
          (Routes.trie 0 .root (Routes.captured (rs verb))) := by
      rw [← h.trie verb]
      cases plan.trie? verb with
      | none => exact (RouteMatcher.search_root ..).symm
      | some trie => rfl
    rw [htrie]
    exact (Routes.search_best (hknows verb) 0 .root).finds hnone

/-- Compiled routes can be searched, and what is found for a path is its one route among the
definitions that were bound, which are those that no error reports. -/
theorem compile_finds (h : compile config classes services = .ok (plan, diagnostics)) :
    ∃ definitions, RouteDefinition.all config classes = .ok definitions ∧
      diagnostics.filter (·.isError) = definitions.filterMap (reported? config classes services) ∧
      ∃ m, RouteMatcher.ofPlan? plan = some m ∧ ∀ verb path found,
        m.find? verb path = found ↔
          Routes.Finds (routes config classes services definitions verb) (Route.segments path)
            found := by
  obtain ⟨definitions, hall, hentered, hreported⟩ := compile_entered h
  obtain ⟨m, hm, hfinds⟩ := hentered.finds
  refine ⟨definitions, hall, hreported, m, hm, fun verb path found => ⟨?_, fun hfound => ?_⟩⟩
  · rintro rfl
    exact hfinds verb path
  · exact (hfinds verb path).unique hfound

end

/-- Users that are numbered, with a page of one's own. -/
def users : ClassDescriptor where
  name := "app::Users"
  kind := .concrete
  methods := [
    { name := "show", isStatic := true
      annotations := [.route .get "/users/{id}" [("id", "[0-9]+")] none] },
    { name := "me", isStatic := true, annotations := [.route .get "/users/me" [] none] }]

/-- `/users/7` shows the seventh user, `/users/me` is the page of one's own, and `/users/you` is
nobody's. -/
theorem compile_finds_users : ∃ plan diagnostics definitions m shown own,
    compile {} [users] {} = .ok (plan, diagnostics) ∧
      RouteDefinition.all {} [users] = .ok definitions ∧
      diagnostics.filter (·.isError) = definitions.filterMap (reported? {} [users] {}) ∧
      RouteMatcher.ofPlan? plan = some m ∧
      m.find? .get "/users/7" = some shown ∧ m.find? .get "/users/me" = some own ∧
      m.find? .get "/users/you" = none ∧
      shown.call.method = "show" ∧ shown.params = [("id", "7")] ∧ own.call.method = "me" ∧
      Routes.Finds (routes {} [users] {} definitions .get) ["users", "7"] (some shown) ∧
      Routes.Finds (routes {} [users] {} definitions .get) ["users", "me"] (some own) ∧
      Routes.Finds (routes {} [users] {} definitions .get) ["users", "you"] none := by
  have hcheck : ((compile {} [users] {}).toOption.any fun compiled =>
      (RouteMatcher.ofPlan? compiled.1).any fun m =>
        ((m.find? .get "/users/7").any fun found =>
          found.call.method = "show" && found.params = [("id", "7")]) &&
        ((m.find? .get "/users/me").any fun found => found.call.method = "me") &&
        (m.find? .get "/users/you").isNone) = true := by decide +kernel
  obtain ⟨⟨plan, diagnostics⟩, hcompiled, hcheck⟩ := (Option.any_eq_true ..).1 hcheck
  obtain ⟨m, hm, hcheck⟩ := (Option.any_eq_true ..).1 hcheck
  simp only [Bool.and_eq_true, Option.any_eq_true, decide_eq_true_eq] at hcheck
  obtain ⟨⟨⟨shown, hshown, hshow, hparams⟩, own, hown, hme⟩, hnone⟩ := hcheck
  have hcompiled := Result.toOption_eq_some.1 hcompiled
  have hnone := Option.isNone_iff_eq_none.1 hnone
  obtain ⟨definitions, hall, hreported, m', hm', hfinds⟩ := compile_finds hcompiled
  obtain rfl : m' = m := Option.some.inj (hm'.symm.trans hm)
  have hsegments : Route.segments "/users/7" = ["users", "7"] ∧
      Route.segments "/users/me" = ["users", "me"] ∧
      Route.segments "/users/you" = ["users", "you"] := by decide +kernel
  exact ⟨plan, diagnostics, definitions, m', shown, own, hcompiled, hall, hreported, hm,
    hshown, hown, hnone, hshow, hparams, hme, hsegments.1 ▸ (hfinds _ _ _).1 hshown,
    hsegments.2.1 ▸ (hfinds _ _ _).1 hown, hsegments.2.2 ▸ (hfinds _ _ _).1 hnone⟩

end RouteTable

end Wiring
