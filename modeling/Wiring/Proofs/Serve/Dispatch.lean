import Wiring.Proofs.Plan.Closed
import Wiring.Proofs.Serve.Get
import Wiring.Serve.Kernel

/-!
# Serving plans that stand by themselves

A request is dispatched to a call of the router plan (`RouteMatcher.mem_routes_of_find?`), and
whatever services that call, the middleware and the listeners need are planned. Getting them fails
only by the application, so a service that is not found is the application's error as well
(`Serving.Blamed`): one of its functions was called and raised it. This holds of dispatching
requests (`Router.dispatch_blamed`), of resolving the middleware (`Pipeline.resolve_blamed`) and of
dispatching events (`ListenerTable.dispatch_blamed`), and so of every project that was compiled
(`Compilation.closed_ofClasses`).

The router and the pipeline share the container, so its handle to itself leads to it.
-/

namespace Wiring

/-! ## The application's own errors -/

/-- The route of a request is found and its arguments are evaluated; its handler is called with
them, and raises the error. -/
def Router.HandlerRaised {τ : Type} (r : Router τ) (request : Request) (e : ServeError)
    (w : World τ) : Prop :=
  ∃ found f args object? v v₁ v₂, r.find? request.method request.uri.path = some found ∧
    r.container.registry.handlers.lookup found.call.target = some f ∧
    r.arguments found.params found.call.args v = (.ok args, v₁) ∧
    r.on? found v₁ = (.ok object?, v₂) ∧ Serving.act (f object? request ⟨args⟩) v₂ = (.error e, w)

/-- A listener of the type of an event is called, and raises the error. -/
def ListenerTable.ListenerRaised {τ : Type} (t : ListenerTable) (c : Container τ) (type : String)
    (e : ServeError) (w : World τ) : Prop :=
  ∃ g entry f object? v v₁ event event', t.group? type = some g ∧ entry ∈ g.listeners ∧
    c.registry.listeners.lookup entry.target = some f ∧ on? c entry v = (.ok object?, v₁) ∧
    Hearing.act (f object?) event v₁ = ((.error e, event'), w)

/-- If the error is that a service was not found, it came up in one of some ways. -/
def Serving.Blamed {τ : Type} (P : ServeError → World τ → Prop) (e : ServeError) (w : World τ) :
    Prop :=
  ∀ id, e = .serviceNotFound id → P e w

section
variable {τ : Type} {P P' : ServeError → World τ → Prop} {e : ServeError} {w : World τ}

open Serving

/-- Other errors do not matter. -/
theorem Serving.Blamed.of_ne (h : ∀ id, e ≠ .serviceNotFound id) : Blamed P e w :=
  fun id he => absurd he (h id)

/-- Who is to blame may be said less exactly. -/
theorem Serving.Blamed.mono (hP : ∀ e w, P e w → P' e w) (e : ServeError) (w : World τ)
    (h : Blamed P e w) : Blamed P' e w :=
  fun id he => hP e w (h id he)

/-- What is missing in a registry is not a service. -/
theorem entry_blamed {γ : Type} {missing : String → ServeError} {entries : List (String × γ)}
    {name : String} (hmissing : ∀ id, missing name ≠ .serviceNotFound id)
    (h : Registry.entry missing entries name = .error e) : Blamed P e w := by
  obtain ⟨-, rfl⟩ := Container.entry_raises h
  exact .of_ne hmissing

end

section
variable {p : ContainerPlan} {id : String}

/-- Where a chain of aliases leads to a service, its start is planned. -/
theorem ContainerPlan.has_of_isSome_resolve? (h : (p.resolve? id).isSome) : p.has id = true := by
  obtain ⟨c, hc⟩ := Option.isSome_iff_exists.1 h
  obtain ⟨_, hl⟩ := ContainerPlan.resolve?_eq_some_iff.1 hc
  cases hl with
  | service hs => simp [ContainerPlan.has, hs]
  | «alias» _ ht _ => simp [ContainerPlan.has, ht]

end

/-- Getting a service that the plan leads to fails only by the application. -/
theorem Container.get_blamed {τ : Type} {c : Container τ} (hp : c.plan.Coherent)
    (hshared : c.isShared = true) {id : String} (hid : (c.plan.resolve? id).isSome) :
    Serving.Raises (Serving.Blamed c.Raised) (c.get id) := by
  refine (get_raises hp (ContainerPlan.has_of_isSome_resolve? hid)).mono fun e w h => ?_
  rcases h with h | ⟨hunshared, -⟩
  · cases h with
    | raised h => exact fun _ _ => h
    | missingConstructor | missingFactory | missingClosure | missingConstant | missingEnv =>
      exact .of_ne nofun
  · rw [hshared] at hunshared
    cases hunshared

/-! ## Requests -/

namespace RouteMatcher

/-- A search that goes on at children finds a call below one of them. -/
theorem mem_calls_of_search {patterns : List (String × Pattern)} {segments : List String}
    {params : List (String × String)} {n : RouteNode} {found : RouteMatch}
    (h : search patterns segments params n = some found) : found.call ∈ n.calls := by
  induction segments generalizing params n with
  | nil =>
    rw [search] at h
    split at h
    · next call hcall =>
      split at h
      · cases h
        exact RouteNode.mem_calls.2 (.inl hcall)
      · cases h
    · cases h
  | cons segment rest ih =>
    rw [search] at h
    split at h
    · next found' hfound =>
      cases h
      obtain ⟨child, hchild, hgo⟩ := List.exists_of_findSome?_eq_some hfound
      rw [throughLiteral?] at hgo
      split at hgo
      · split at hgo
        · exact RouteNode.mem_calls.2 (.inr (.inl ⟨child, hchild, ih hgo⟩))
        · cases hgo
      · cases hgo
    · obtain ⟨child, hchild, hgo⟩ := List.exists_of_findSome?_eq_some h
      rw [throughCapture?] at hgo
      split at hgo
      · split at hgo
        · exact RouteNode.mem_calls.2 (.inr (.inr ⟨child, hchild, ih hgo⟩))
        · cases hgo
      · cases hgo

/-- What is found is one of the routes of the plan. -/
theorem mem_routes_of_find? {m : RouteMatcher} {verb : Verb} {path : String} {found : RouteMatch}
    (h : m.find? verb path = some found) : ∃ route ∈ m.plan.routes, route.2 = found.call := by
  rw [find?] at h
  split at h
  · next call hstatic =>
    cases h
    obtain ⟨r, hr, rfl⟩ := Option.map_eq_some_iff.1 hstatic
    have hmem := List.mem_reverse.1 (List.mem_of_find?_eq_some hr)
    exact ⟨(r.verb, r.call), List.mem_append_left _ (List.mem_map_of_mem hmem), rfl⟩
  · obtain ⟨trie, htrie, hsearch⟩ := Option.bind_eq_some_iff.1 h
    refine ⟨(verb, found.call), List.mem_append_right _ ?_, rfl⟩
    exact List.mem_flatMap.2 ⟨_, mem_of_lookup htrie,
      List.mem_map_of_mem (mem_calls_of_search hsearch)⟩

/-- A matcher keeps the plan that it was made of. -/
theorem plan_of_ofPlan? {plan : RouterPlan} {m : RouteMatcher} (h : ofPlan? plan = some m) :
    m.plan = plan := by
  obtain ⟨_, -, rfl⟩ := Option.map_eq_some_iff.1 h
  rfl

end RouteMatcher

section
variable {τ : Type} {p : Plans} {classes : List ClassDescriptor} {c : Container τ}

open Serving (Raises Blamed)

namespace Router

/-- A segment that cannot be converted is no service. -/
theorem convert_blamed {P : ServeError → World τ → Prop} {w : World τ} {name raw : String}
    {kind? : Option Primitive} {e : ServeError} (h : Primitive.convert name raw kind? = .error e) :
    Blamed P e w := by
  have he : ∃ expected, e = .argumentType name expected := by
    unfold Primitive.convert at h
    split at h
    · split at h <;> cases h
      exact ⟨_, rfl⟩
    · split at h <;> cases h
      exact ⟨_, rfl⟩
    · split at h
      · cases h
      · split at h <;> cases h
        exact ⟨_, rfl⟩
    all_goals cases h
  obtain ⟨_, rfl⟩ := he
  exact .of_ne nofun

section
variable {r : Router τ} (hp : r.container.plan.Coherent) (hshared : r.container.isShared = true)
include hp hshared

/-- The values of a call's arguments are got from captured segments, constants and planned services.
-/
theorem argument_blamed (params : List (String × String)) {arg : RouteArg}
    (harg : ∀ id, arg.source = .service id → (r.container.plan.resolve? id).isSome) :
    Raises (Blamed r.container.Raised) (r.argument? params arg) := by
  rw [argument?]
  split
  · split
    · exact (Serving.raises_lift fun e he w => convert_blamed he).bind fun _ =>
        Serving.raises_pure _
    · exact Serving.raises_throw fun _ => .of_ne nofun
  · exact Serving.raises_pure _
  · exact Serving.raises_pure _
  · refine (Serving.raises_lift fun e he w => ?_).bind fun _ => Serving.raises_pure _
    exact entry_blamed (by nofun) he
  · next id hid =>
    exact (Container.get_blamed hp hshared (harg id hid)).bind fun _ => Serving.raises_pure _

/-- Binding arguments whose services are planned fails to find one only if the application does. -/
theorem arguments_blamed (params : List (String × String)) {args : List RouteArg}
    (hargs : ∀ arg ∈ args, ∀ id, arg.source = .service id →
      (r.container.plan.resolve? id).isSome) :
    Raises (Blamed r.container.Raised) (r.arguments params args) := by
  induction args with
  | nil => exact Serving.raises_pure _
  | cons arg rest ih =>
    have hrest := ih fun arg harg => hargs arg (.tail _ harg)
    rw [arguments]
    refine (argument_blamed hp hshared params (hargs arg (.head _))).bind fun v => ?_
    cases v with
    | none => exact hrest
    | some v => exact hrest.bind fun _ => Serving.raises_pure _

/-- The object that a handler is called on is a planned service. -/
theorem on?_blamed {found : RouteMatch}
    (hservice : ∀ id, found.call.service? = some id → (r.container.plan.resolve? id).isSome) :
    Raises (Blamed r.container.Raised) (r.on? found) := by
  rw [on?]
  split
  · next id hid =>
    exact (Container.get_blamed hp hshared (hservice id hid)).bind fun _ => Serving.raises_pure _
  · exact Serving.raises_pure _

/-- Calling a handler whose services are planned fails only by the application. -/
theorem call_blamed {found : RouteMatch} {request : Request}
    (hfound : r.find? request.method request.uri.path = some found)
    (hservice : ∀ id, found.call.service? = some id → (r.container.plan.resolve? id).isSome)
    (hargs : ∀ arg ∈ found.call.args, ∀ id, arg.source = .service id →
      (r.container.plan.resolve? id).isSome) :
    Raises (Blamed fun e w => r.container.Raised e w ∨ r.HandlerRaised request e w)
      (r.call found request) := by
  intro w e w' h id hid
  rw [call] at h
  rcases Serving.of_bind_eq_error h with h | ⟨args, v₁, hv₁, h⟩
  · exact .inl (arguments_blamed hp hshared found.params hargs w e w' h id hid)
  rcases Serving.of_lift_bind_eq_error h with h | ⟨f, hf, h⟩
  · exact .inl (entry_blamed (by nofun) h id hid)
  rcases Serving.of_bind_eq_error h with h | ⟨object?, v₂, hv₂, h⟩
  · exact .inl (on?_blamed hp hshared hservice v₁ e w' h id hid)
  · exact .inr ⟨found, f, args, object?, w, v₁, v₂, hfound, Container.entry_found hf, hv₁, hv₂, h⟩

end

/-- Dispatching a request fails with a service that is not found only by the application. -/
theorem dispatch_blamed {m : RouteMatcher} (hp : c.plan.Coherent) (hshared : c.isShared = true)
    (hclosed : p.Closed classes) (hc : c.plan = p.container)
    (hm : RouteMatcher.ofPlan? p.router = some m) (request : Request) :
    Raises (Blamed fun e w => c.Raised e w ∨ Router.HandlerRaised ⟨m, c⟩ request e w)
      (Router.dispatch ⟨m, c⟩ request) := by
  rw [dispatch]
  split
  · next found hfind =>
    obtain ⟨verb, -, hfound⟩ := Option.bind_eq_some_iff.1 hfind
    obtain ⟨route, hroute, hcall⟩ := RouteMatcher.mem_routes_of_find? hfound
    have hroute : route ∈ p.router.routes := RouteMatcher.plan_of_ofPlan? hm ▸ hroute
    refine call_blamed (r := ⟨m, c⟩) hp hshared hfind (fun id hid => ?_) fun arg harg id hid => ?_
    · rw [hc]
      exact hclosed.target route hroute id (hcall ▸ hid)
    · rw [hc]
      exact hclosed.arg route hroute arg (hcall ▸ harg) id hid
  · exact Serving.raises_pure _

end Router

/-! ## Middleware -/

namespace Pipeline

/-- Getting the middleware of a chain fails to find one only if the application does. -/
theorem resolveLinks_blamed (hp : c.plan.Coherent) (hshared : c.isShared = true)
    {es : List MiddlewareEntry} (hes : ∀ e ∈ es, (c.plan.resolve? e.className).isSome) :
    Raises (Blamed c.Raised) (resolveLinks c es) := by
  induction es with
  | nil => exact Serving.raises_pure _
  | cons e rest ih =>
    have hrest := ih fun e he => hes e (.tail _ he)
    rw [resolveLinks]
    refine (Container.get_blamed hp hshared (hes e (.head _))).bind fun on => ?_
    refine (Serving.raises_lift fun e he w => entry_blamed (by nofun) he).bind fun run => ?_
    exact hrest.bind fun _ => Serving.raises_pure _

/-- Resolving the middleware fails with a service that is not found only by the application. -/
theorem resolve_blamed (hp : c.plan.Coherent) (hshared : c.isShared = true)
    (hclosed : p.Closed classes) (hc : c.plan = p.container) :
    Raises (Blamed c.Raised) (resolve c p.middleware) := by
  rw [resolve]
  refine (resolveLinks_blamed hp hshared fun e he => ?_).bind fun _ => Serving.raises_pure _
  exact hc ▸ hclosed.middleware e he

end Pipeline

/-! ## Events -/

/-- The errors of a computation that hears an event are among those of `E`, each with the state that
it leaves. -/
def Hearing.Raises {α : Type} (E : ServeError → World τ → Prop) (x : Hearing τ α) : Prop :=
  ∀ event w e event' w', x event w = ((.error e, event'), w') → E e w'

section
variable {α β : Type} {E E' : ServeError → World τ → Prop}

/-- What follows on a computation starts with the event and the state that it leaves, unless it
fails. -/
theorem hearing_bind (x : Hearing τ α) (f : α → Hearing τ β) (event : Event) (w : World τ) :
    (x >>= f) event w = match x event w with
      | ((.ok a, event'), w') => f a event' w'
      | ((.error e, event'), w') => ((.error e, event'), w') := by
  simp only [Bind.bind, ExceptT.bind, ExceptT.mk, StateT.bind]
  rcases x event w with ⟨⟨e | a, event'⟩, w'⟩ <;> rfl

/-- A result is no error. -/
theorem Hearing.raises_pure (a : α) : Hearing.Raises E (pure a : Hearing τ α) :=
  fun _ _ _ _ _ h => by cases h

/-- Of two computations, one after the other, each raises errors of the kind. -/
theorem Hearing.Raises.bind {x : Hearing τ α} {f : α → Hearing τ β} (hx : Hearing.Raises E x)
    (hf : ∀ a, Hearing.Raises E (f a)) : Hearing.Raises E (x >>= f) := by
  intro event w e event' w' h
  rw [hearing_bind] at h
  rcases hrun : x event w with ⟨⟨result, event₁⟩, w₁⟩
  rw [hrun] at h
  cases result with
  | ok a => exact hf a event₁ w₁ e event' w' h
  | error e' =>
    cases h
    exact hx event w e event' w' hrun

/-- What is done before a listener hears the event fails, or the listener does. -/
theorem Hearing.of_serve_bind_eq_error {x : Serving τ α} {f : α → Hearing τ β}
    {event event' : Event} {w w' : World τ} {e : ServeError}
    (h : (Hearing.serve x >>= f) event w = ((.error e, event'), w')) :
    x w = (.error e, w') ∨ ∃ a w₁, x w = (.ok a, w₁) ∧ f a event w₁ = ((.error e, event'), w') := by
  rw [hearing_bind, serve] at h
  rcases hx : x w with ⟨e' | a, w₁⟩
  · rw [hx] at h
    cases h
    exact .inl rfl
  · rw [hx] at h
    exact .inr ⟨a, w₁, rfl, h⟩

end

namespace ListenerTable

/-- The object of a listener is planned, so it is not found only if the application fails to. -/
theorem on?_blamed (hp : c.plan.Coherent) (hshared : c.isShared = true) {e : ListenerEntry}
    (he : e.isStatic = false → (c.plan.resolve? e.className).isSome) :
    Raises (Blamed c.Raised) (on? c e) := by
  rw [on?]
  split
  · exact Serving.raises_pure _
  · next hstatic =>
    have hget := Container.get_blamed hp hshared (he (by simpa using hstatic))
    exact hget.bind fun _ => Serving.raises_pure _

section
variable {t : ListenerTable} {type : String} {g : ListenerGroup} (hp : c.plan.Coherent)
  (hshared : c.isShared = true) (hg : t.group? type = some g)
include hp hshared hg

/-- A listener fails to find a service only if the application does. -/
theorem hear_blamed {entry : ListenerEntry} (hentry : entry ∈ g.listeners)
    (hstatic : entry.isStatic = false → (c.plan.resolve? entry.className).isSome) :
    Hearing.Raises (Blamed fun e w => c.Raised e w ∨ t.ListenerRaised c type e w)
      (hear c entry) := by
  intro event w e event' w' h id hid
  rw [hear] at h
  cases hf : c.registry.listener entry.target with
  | error e' =>
    rw [hf] at h
    cases h
    exact .inl (entry_blamed (by nofun) hf id hid)
  | ok f =>
    rw [hf] at h
    rcases Hearing.of_serve_bind_eq_error h with h | ⟨object?, v₁, hv₁, h⟩
    · exact .inl (on?_blamed hp hshared hstatic w e w' h id hid)
    · exact .inr ⟨g, entry, f, object?, w, v₁, event, event', hg, hentry,
        Container.entry_found hf, hv₁, h⟩

/-- Listeners fail to find a service only if the application does. -/
theorem hearAll_blamed (stoppable : Bool) (heard : Nat) {es : List ListenerEntry}
    (hsub : ∀ e ∈ es, e ∈ g.listeners)
    (hes : ∀ e ∈ es, e.isStatic = false → (c.plan.resolve? e.className).isSome) :
    Hearing.Raises (Blamed fun e w => c.Raised e w ∨ t.ListenerRaised c type e w)
      (hearAll c stoppable heard es) := by
  induction es generalizing heard with
  | nil => exact Hearing.raises_pure _
  | cons e rest ih =>
    have hrest := ih (heard + 1) (fun e he => hsub e (.tail _ he)) fun e he => hes e (.tail _ he)
    have hfirst := (hear_blamed hp hshared hg (hsub e (.head _)) (hes e (.head _))).bind
      fun _ => hrest
    rw [hearAll]
    refine Hearing.Raises.bind (x := getThe Event) (fun _ _ _ _ _ h => by cases h) fun event => ?_
    split
    · exact Hearing.raises_pure _
    · exact hfirst

end

/-- Dispatching an event fails with a service that is not found only by the application. -/
theorem dispatch_blamed (hp : c.plan.Coherent) (hshared : c.isShared = true)
    (hclosed : p.Closed classes) (hc : c.plan = p.container) (type : String) :
    Hearing.Raises (Blamed fun e w => c.Raised e w ∨ p.listeners.ListenerRaised c type e w)
      (dispatch p.listeners c type) := by
  rw [dispatch]
  split
  · next g hg =>
    have hmem := List.mem_of_find?_eq_some hg
    exact hearAll_blamed hp hshared hg g.stoppable 0 (fun _ he => he)
      fun e he hstatic => hc ▸ hclosed.listener g hmem e he hstatic
  · exact Hearing.raises_pure _

end ListenerTable

end

/-! ## Compiled projects -/

/-- The plans of a project that is compiled without passes stand by themselves: the object of every
route that is not static, every service among a route's arguments, and the classes of middleware and
of listeners that are not static lead to services of the container plan. Dispatching requests,
resolving the middleware and dispatching events therefore fail with a service that is not found only
where a function of the application that was called raises that error: a constructor or a factory,
the handler of the route, or a listener of the event. -/
theorem Compilation.closed_ofClasses {known : List (String × Pass)} {config : Config}
    {classes : List ClassDescriptor} {done : Compilation}
    (h : ofClasses known config classes = .ok done) (hpasses : config.passes = []) :
    done.plans.Closed classes ∧ ∀ (τ : Type) (r : Registry τ),
      let c : Container τ := { plan := done.plans.container, registry := r }
      (∀ m, RouteMatcher.ofPlan? done.plans.router = some m → ∀ request w id w',
        Router.dispatch ⟨m, c⟩ request w = (.error (.serviceNotFound id), w') →
          c.Raised (.serviceNotFound id) w' ∨
            Router.HandlerRaised ⟨m, c⟩ request (.serviceNotFound id) w') ∧
      (∀ w id w', Pipeline.resolve c done.plans.middleware w = (.error (.serviceNotFound id), w') →
        c.Raised (.serviceNotFound id) w') ∧
      ∀ type event w id event' w', ListenerTable.dispatch done.plans.listeners c type event w =
        ((.error (.serviceNotFound id), event'), w') →
          c.Raised (.serviceNotFound id) w' ∨
            done.plans.listeners.ListenerRaised c type (.serviceNotFound id) w' := by
  obtain ⟨hp, hclosed⟩ := coherent_closed_of_ofClasses h hpasses
  refine ⟨hclosed, fun τ r => ⟨fun m hm request w id w' hrun => ?_, fun w id w' hrun => ?_,
    fun type event w id event' w' hrun => ?_⟩⟩
  · exact Router.dispatch_blamed hp rfl hclosed rfl hm request w _ w' hrun id rfl
  · exact Pipeline.resolve_blamed hp rfl hclosed rfl w _ w' hrun id rfl
  · exact ListenerTable.dispatch_blamed hp rfl hclosed rfl type event w _ event' w' hrun id rfl

/-- A clock that shows the time to those who are let in, and keeps a log. -/
def clock : List ClassDescriptor := [
  { name := "Clock", kind := .concrete
    constructor := [{ name := "zone", type := .named "Zone", nullable := true }]
    methods := [
      { name := "show", params := [{ name := "log", type := .named "Log" }]
        annotations := [.route .get "/time" [] none] },
      { name := "tick", annotations := [.listener "Second"] }] },
  { name := "Log", kind := .concrete },
  { name := "Gate", kind := .concrete, annotations := [.middleware 0] }]

/-- Functions for the clock. Letting someone in, showing the time and ticking all lack something. -/
def clockFunctions : Registry Unit where
  constructors := [
    ("Clock", fun _ _ own => (.ok ⟨"Clock", ""⟩, own)),
    ("Log", fun _ _ own => (.ok ⟨"Log", ""⟩, own)),
    ("Gate", fun _ _ own => (.error (.serviceNotFound "Key"), own))]
  handlers := [("Clock::show", fun _ _ _ own => (.error (.serviceNotFound "Zone"), own))]
  listeners := [("Clock::tick", fun _ event own =>
    ((.error (.serviceNotFound "Bell"), event), own))]

/-- The service that was not found. -/
def notFound? {α : Type} : Except ServeError α → Option String
  | .error (.serviceNotFound id) => some id
  | _ => none

/-- The service that was not found is in the error. -/
theorem eq_of_notFound? {α β : Type} {x : Except ServeError α × β} {id : String}
    (h : notFound? x.1 = some id) : x = (.error (.serviceNotFound id), x.2) := by
  refine Prod.ext ?_ rfl
  unfold notFound? at h
  split at h
  · next heq => rw [heq, Option.some.inj h]
  · cases h

/-- A request for the time, a gate and a tick fail with what their functions lack, and each time it
is one of these that raised the error. -/
theorem Compilation.closed_ofClasses_clock : ∃ done m,
    ofClasses [] {} clock = .ok done ∧ ({} : Config).passes = [] ∧ done.plans.Closed clock ∧
      RouteMatcher.ofPlan? done.plans.router = some m ∧
      let c : Container Unit := { plan := done.plans.container, registry := clockFunctions }
      let w : World Unit := { own := () }
      let request : Request := .ofText "GET" "/time"
      (∃ w', Router.dispatch ⟨m, c⟩ request w = (.error (.serviceNotFound "Zone"), w') ∧
        (c.Raised (.serviceNotFound "Zone") w' ∨
          Router.HandlerRaised ⟨m, c⟩ request (.serviceNotFound "Zone") w')) ∧
      (∃ w', Pipeline.resolve c done.plans.middleware w = (.error (.serviceNotFound "Key"), w') ∧
        c.Raised (.serviceNotFound "Key") w') ∧
      ∃ event' w', ListenerTable.dispatch done.plans.listeners c "Second" .plain w =
        ((.error (.serviceNotFound "Bell"), event'), w') ∧
          (c.Raised (.serviceNotFound "Bell") w' ∨
            done.plans.listeners.ListenerRaised c "Second" (.serviceNotFound "Bell") w') := by
  let container (done : Compilation) : Container Unit :=
    { plan := done.plans.container, registry := clockFunctions }
  let w : World Unit := { own := () }
  let request : Request := .ofText "GET" "/time"
  have hcheck : ((ofClasses [] {} clock).toOption.any fun done =>
      (RouteMatcher.ofPlan? done.plans.router).any fun m =>
        notFound? (Router.dispatch ⟨m, container done⟩ request w).1 = some "Zone" &&
        notFound? (Pipeline.resolve (container done) done.plans.middleware w).1 = some "Key" &&
        notFound?
            (ListenerTable.dispatch done.plans.listeners (container done) "Second" .plain w).1.1 =
          some "Bell") = true := by decide +kernel
  obtain ⟨done, hdone, hmatcher⟩ := (Option.any_eq_true ..).1 hcheck
  obtain ⟨m, hm, hfails⟩ := (Option.any_eq_true ..).1 hmatcher
  simp only [Bool.and_eq_true, decide_eq_true_eq] at hfails
  obtain ⟨⟨hrequest, hpipeline⟩, hevent⟩ := hfails
  have hdone := Result.toOption_eq_some.1 hdone
  obtain ⟨hclosed, hserved⟩ := closed_ofClasses hdone rfl
  obtain ⟨hdispatch, hresolve, hhear⟩ := hserved Unit clockFunctions
  have hrequest := eq_of_notFound? hrequest
  have hpipeline := eq_of_notFound? hpipeline
  have hevent : ListenerTable.dispatch done.plans.listeners (container done) "Second" .plain w =
      ((.error (.serviceNotFound "Bell"), _), _) := Prod.ext (eq_of_notFound? hevent) rfl
  exact ⟨done, m, hdone, rfl, hclosed, hm, ⟨_, hrequest, hdispatch m hm _ _ _ _ hrequest⟩,
    ⟨_, hpipeline, hresolve _ _ _ hpipeline⟩, _, _, hevent, hhear _ _ _ _ _ _ hevent⟩

end Wiring
