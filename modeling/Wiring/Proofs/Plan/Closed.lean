import Wiring.Compilation
import Wiring.Proofs.Result
import Wiring.Proofs.Route.Compile
import Wiring.Proofs.ServiceGraph.Acyclic

/-!
# Plans that stand by themselves

The router, the middleware and the listeners name services of the container. `Plans.Closed` says
that each name they need leads to a service of the container plan. Every stage of compiling asks
only whether the container plan has an identifier, be it a service or an alias: a route is bound to
planned services (`RouteTable.bound_of_bind`) and keeps them however the table grows
(`RouteTable.bound_of_compile`), and candidates that are not planned are dropped from the middleware
and the listeners (`MiddlewarePlan.has_of_compile`, `ListenerTable.has_of_compile`). That is enough,
because in a resolved plan every alias leads to a service
(`Compilation.coherent_closed_of_ofClasses`).
-/

namespace Wiring

/-! ## Routes -/

namespace RouteNode

@[simp] theorem mem_callsOf {c : RouteCall} {ns : List RouteNode} :
    c ∈ callsOf ns ↔ ∃ n ∈ ns, c ∈ n.calls := by
  induction ns with
  | nil => simp [callsOf]
  | cons n rest ih => simp [callsOf, ih]

/-- The calls of a node are its own and those of its children. -/
theorem mem_calls {c : RouteCall} {n : RouteNode} : c ∈ n.calls ↔
    n.call? = some c ∨ (∃ m ∈ n.literals, c ∈ m.calls) ∨ ∃ m ∈ n.captures, c ∈ m.calls := by
  cases n
  simp [calls, call?, literals, captures]

@[simp] theorem calls_leaf (segment : Nat) (key : RouteKey) : (leaf segment key).calls = [] := by
  simp [leaf, calls, callsOf]

/-- A trie calls nothing that was not put into it. -/
theorem mem_calls_insert {requirements : List (String × String)} {call c : RouteCall}
    {template : List Route.Segment} {n : RouteNode}
    (h : c ∈ (n.insert requirements call template).1.calls) : c = call ∨ c ∈ n.calls := by
  obtain ⟨before, after, hold, hnew⟩ := n.calls_insert requirements call template
  rw [hnew] at h
  rw [hold]
  simp only [List.mem_append, List.mem_cons] at h ⊢
  tauto

end RouteNode

namespace RouteTable

/-- What a call needs is planned: the object of a method that is not static, and the services among
its arguments. -/
structure Bound (classes : List ClassDescriptor) (services : ContainerPlan) (call : RouteCall) :
    Prop where
  method : ∃ m, (class? classes call.className >>= (·.method? call.method)) = some m ∧
    call.service? = if m.isStatic then none else some call.className
  service : ∀ id, call.service? = some id → services.has id = true
  args : ∀ arg ∈ call.args, ∀ id, arg.source = .service id → services.has id = true

section
variable {config : Config} {classes : List ClassDescriptor} {services : ContainerPlan}

/-- A parameter is only given a service that is planned. -/
theorem has_of_source? {request : String} {captures : List String} {p : Parameter} {id : String}
    (h : source? request services captures p = some (.service id)) : services.has id = true := by
  cases SourceOf.of_source? h with
  | service _ hid => exact hid

/-- The services that arguments refer to are planned. -/
theorem has_of_args {request : String} {captures : List String} {params : List Parameter}
    {as : List RouteArg} (h : args request services captures params = .ok as) :
    ∀ arg ∈ as, ∀ id, arg.source = .service id → services.has id = true := by
  intro arg harg id hid
  obtain ⟨p, -, -, hsource⟩ := Result.exists_of_forall₂ (forall₂_of_args h).flip harg
  exact has_of_source? (hsource.trans (congrArg some hid))

/-- A definition is only bound to what is planned. -/
theorem bound_of_bind {r : RouteDefinition} {call : RouteCall}
    (h : bind config classes services r = .ok call) : Bound classes services call := by
  obtain ⟨m, as, hm, hcallable, has, rfl⟩ := of_bind h
  refine ⟨⟨m, hm, rfl⟩, fun id hid => ?_, has_of_args has⟩
  cases hstatic : m.isStatic with
  | true => simp [hstatic] at hid
  | false =>
    simp only [hstatic, Bool.false_eq_true, if_false, Option.some.injEq] at hid
    rw [← hid]
    exact hcallable.resolve_left (by simp [hstatic])

/-- What is said of all routes without captures is said of them after one more is placed. -/
theorem forall_placeStatic {P : RouteCall → Prop} {verb : Verb} {path : String} {call : RouteCall}
    {statics : List StaticRoute} (hstatics : ∀ r ∈ statics, P r.call) (hcall : P call) :
    ∀ r ∈ (placeStatic verb path call statics).1, P r.call := by
  induction statics with
  | nil => simpa [placeStatic] using hcall
  | cons r rest ih =>
    obtain ⟨hr, hrest⟩ := List.forall_mem_cons.1 hstatics
    rw [placeStatic]
    split
    · exact List.forall_mem_cons.2 ⟨hcall, hrest⟩
    · exact List.forall_mem_cons.2 ⟨hr, ih hrest⟩

/-- What holds of all routes holds of those without captures and of those in the tries. -/
theorem forall_routes {P : RouteCall → Prop} {plan : RouterPlan} :
    (∀ route ∈ plan.routes, P route.2) ↔
    (∀ r ∈ plan.statics, P r.call) ∧ ∀ t ∈ plan.tries, ∀ c ∈ t.2.calls, P c := by
  simp only [RouterPlan.routes, List.mem_append, List.mem_map, List.mem_flatMap]
  constructor
  · intro h
    exact ⟨fun r hr => h _ (.inl ⟨r, hr, rfl⟩),
      fun t ht c hc => h (t.1, c) (.inr ⟨t, ht, c, hc, rfl⟩)⟩
  · rintro ⟨hstatics, htries⟩ route (⟨r, hr, rfl⟩ | ⟨t, ht, c, hc, rfl⟩)
    · exact hstatics r hr
    · exact htries t ht c hc

/-- What is said of all calls of a plan is said of them after one more is entered, if it is said of
that one. -/
theorem forall_routes_enter {P : RouteCall → Prop} {plan : RouterPlan} {r : RouteDefinition}
    {call : RouteCall} (hplan : ∀ route ∈ plan.routes, P route.2) (hcall : P call) :
    ∀ route ∈ (enter plan r call).1.routes, P route.2 := by
  rw [forall_routes] at hplan ⊢
  obtain ⟨hstatics, htries⟩ := hplan
  rw [enter]
  split
  · exact ⟨forall_placeStatic hstatics hcall, htries⟩
  · refine ⟨hstatics, fun t ht c hc => ?_⟩
    rcases mem_placeTrie ht with rfl | ht
    · rcases RouteNode.mem_calls_insert hc with rfl | hc
      · exact hcall
      · cases htrie : plan.trie? r.verb with
        | none =>
          rw [htrie] at hc
          simp [RouteNode.root] at hc
        | some trie =>
          rw [htrie] at hc
          exact htries _ (mem_of_lookup htrie) c hc
    · exact htries t ht c hc

/-- Every route of a compiled table is bound. -/
theorem bound_of_compile {plan : RouterPlan} {ds : List Diagnostic}
    (h : compile config classes services = .ok (plan, ds)) :
    ∀ route ∈ plan.routes, Bound classes services route.2 := by
  obtain ⟨definitions, -, h⟩ := Result.bind_eq_ok.1 h
  refine Result.foldlM_induction
    (fun _ (x : RouterPlan × List Diagnostic) => ∀ route ∈ x.1.routes,
      Bound classes services route.2)
    (fun _ h => by cases h) ?_ h
  rintro _ ⟨plan, ds⟩ ⟨plan', ds'⟩ r _ hplan hadd
  rcases of_add_eq_ok hadd with ⟨_, -, rfl, -⟩ | ⟨call, hbind, rfl, -⟩
  · exact hplan
  · exact forall_routes_enter hplan (bound_of_bind hbind)

end

end RouteTable

/-! ## Middleware and listeners -/

namespace MiddlewarePlan

/-- All middleware of a compiled plan is planned. -/
theorem has_of_compile {config : Config} {classes : List ClassDescriptor} {services : ContainerPlan}
    {e : MiddlewareEntry} (he : e ∈ (compile config classes services).1.entries) :
    services.has e.className = true := by
  simp only [compile, List.partition_eq_filter_filter, List.mem_mergeSort] at he
  exact (List.mem_filter.1 he).2

end MiddlewarePlan

namespace ListenerTable

section
variable {stoppable : String → Bool} {P : ListenerEntry → Prop}

/-- Placing a listener changes no other. -/
theorem forall_listeners_place {e : ListenerEntry} (he : P e) {gs : List ListenerGroup}
    (hgs : ∀ g ∈ gs, ∀ e ∈ g.listeners, P e) :
    ∀ g ∈ place stoppable e gs, ∀ e ∈ g.listeners, P e := by
  induction gs with
  | nil => simpa [place] using he
  | cons g rest ih =>
    obtain ⟨hg, hrest⟩ := List.forall_mem_cons.1 hgs
    rw [place]
    split
    · refine List.forall_mem_cons.2 ⟨fun e' he' => ?_, hrest⟩
      rcases List.mem_append.1 he' with he' | he'
      · exact hg e' he'
      · exact List.mem_singleton.1 he' ▸ he
    · exact List.forall_mem_cons.2 ⟨hg, ih hrest⟩

/-- What holds of all listeners that are placed holds of all in the groups. -/
theorem forall_listeners_foldl_place {es : List ListenerEntry} (hes : ∀ e ∈ es, P e)
    {gs : List ListenerGroup} (hgs : ∀ g ∈ gs, ∀ e ∈ g.listeners, P e) :
    ∀ g ∈ es.foldl (fun gs e => place stoppable e gs) gs, ∀ e ∈ g.listeners, P e := by
  induction es generalizing gs with
  | nil => exact hgs
  | cons e rest ih =>
    obtain ⟨he, hrest⟩ := List.forall_mem_cons.1 hes
    exact ih hrest (forall_listeners_place he hgs)

end

/-- The listeners of a compiled table are static, or planned. -/
theorem has_of_compile {config : Config} {classes : List ClassDescriptor} {services : ContainerPlan}
    {table : ListenerTable} {ds : List Diagnostic}
    (h : compile config classes services = .ok (table, ds)) {g : ListenerGroup}
    (hg : g ∈ table.groups) {e : ListenerEntry} (he : e ∈ g.listeners)
    (hstatic : e.isStatic = false) :
    services.has e.className = true := by
  simp only [compile, List.partition_eq_filter_filter] at h
  obtain ⟨declared, -, h⟩ := Result.bind_eq_ok.1 h
  cases h
  have hcallable : isCallable services e = true :=
    forall_listeners_foldl_place (fun e he => (List.mem_filter.1 he).2) (fun _ h => by cases h) g hg
      e he
  simpa [isCallable, hstatic] using hcallable

end ListenerTable

/-! ## All plans -/

/-- Every name that the other plans need leads to a service of the container plan. A route without
one calls a static method. -/
structure Plans.Closed (classes : List ClassDescriptor) (p : Plans) : Prop where
  static : ∀ route ∈ p.router.routes, route.2.service? = none → ∃ m,
    (RouteTable.class? classes route.2.className >>= (·.method? route.2.method)) = some m ∧
      m.isStatic = true
  target : ∀ route ∈ p.router.routes, ∀ id, route.2.service? = some id →
    (p.container.resolve? id).isSome
  arg : ∀ route ∈ p.router.routes, ∀ arg ∈ route.2.args, ∀ id, arg.source = .service id →
    (p.container.resolve? id).isSome
  middleware : ∀ e ∈ p.middleware.entries, (p.container.resolve? e.className).isSome
  listener : ∀ g ∈ p.listeners.groups, ∀ e ∈ g.listeners, e.isStatic = false →
    (p.container.resolve? e.className).isSome

namespace Compilation

section
variable {known : List (String × Pass)} {config : Config} {classes : List ClassDescriptor}
  {done : Compilation}

/-- What compiling without passes comes to: each plan is that of its stage, over the container plan
of the resolved graph. -/
theorem of_ofClasses_eq_ok (h : ofClasses known config classes = .ok done)
    (hpasses : config.passes = []) : ∃ services registered routed grouped,
      Registrations.build config classes = .ok (services, registered) ∧
      done.plans.container = (ServiceGraph.resolve services).1 ∧
      RouteTable.compile config classes done.plans.container = .ok (done.plans.router, routed) ∧
      done.plans.middleware = (MiddlewarePlan.compile config classes done.plans.container).1 ∧
      ListenerTable.compile config classes done.plans.container =
        .ok (done.plans.listeners, grouped) := by
  obtain ⟨_, -, h⟩ := Result.bind_eq_ok.1 h
  obtain ⟨passes, hfind, h⟩ := Result.bind_eq_ok.1 h
  rw [hpasses] at hfind
  cases hfind
  obtain ⟨⟨services, registered⟩, hbuild, h⟩ := Result.bind_eq_ok.1 h
  obtain ⟨⟨router, routed⟩, hrouter, h⟩ := Result.bind_eq_ok.1 h
  obtain ⟨⟨listeners, grouped⟩, hlisteners, h⟩ := Result.bind_eq_ok.1 h
  cases h
  exact ⟨services, registered, routed, grouped, hbuild, rfl, hrouter, rfl, hlisteners⟩

/-- Compiled plans stand by themselves, over a container plan that can be served. -/
theorem coherent_closed_of_ofClasses (h : ofClasses known config classes = .ok done)
    (hpasses : config.passes = []) :
    done.plans.container.Coherent ∧ done.plans.Closed classes := by
  obtain ⟨services, _, _, _, -, hcontainer, hrouter, hmiddleware, hlisteners⟩ :=
    of_ofClasses_eq_ok h hpasses
  have hcoherent : done.plans.container.Coherent :=
    hcontainer ▸ ServiceGraph.coherent_resolve services
  have hbound := RouteTable.bound_of_compile hrouter
  refine ⟨hcoherent, fun route hr hnone => ?_, fun route hr id hid => ?_,
    fun route hr arg harg id hid => ?_, fun e he => ?_, fun g hg e he hstatic => ?_⟩
  · obtain ⟨m, hm, hservice⟩ := (hbound route hr).method
    refine ⟨m, hm, ?_⟩
    by_contra hstatic
    rw [hnone, if_neg hstatic] at hservice
    cases hservice
  · exact hcoherent.resolves id ((hbound route hr).service id hid)
  · exact hcoherent.resolves id ((hbound route hr).args arg harg id hid)
  · rw [hmiddleware] at he
    exact hcoherent.resolves _ (MiddlewarePlan.has_of_compile he)
  · exact hcoherent.resolves _ (ListenerTable.has_of_compile hlisteners hg he hstatic)

end

end Compilation

end Wiring
