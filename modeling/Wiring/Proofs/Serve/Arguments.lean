import Wiring.Proofs.Serve.Dispatch

/-!
# Captured arguments

The parameters of a route's target that are called like captures get the segments that stand in
these places. The route is only found when all of them can be read as what the parameters are
declared as (`RouteTable.captured_of_finds`), so binding the arguments of a route that was found
never fails on a captured one: what it fails with is a constant that is not registered, or the error
with which the container failed to get a service (`Router.compile_arguments`).
-/

namespace Wiring

open Result (bind_eq_ok)

/-! ## Segments in the places of captures -/

namespace Route

/-- The segments that stand in the places of the captures of a template, with the names of these. -/
def inPlaces (template : List Segment) (segments : List String) : List (String × String) :=
  (template.zip segments).filterMap fun (t, s) => t.name?.map (·, s)

/-- What keys capture are the segments in the places of the template that they are made from. -/
theorem eq_of_fits {requirements : List (String × String)} {template : List Segment}
    {segments : List String} {params : List (String × String)}
    (h : Routes.Fits (template.map (RouteKey.ofSegment requirements)) segments params) :
    params = inPlaces template segments ∧ params.map (·.1) = template.filterMap Segment.name? := by
  induction template generalizing segments params with
  | nil =>
    cases h
    exact ⟨rfl, rfl⟩
  | cons t rest ih =>
    cases t with
    | literal text =>
      cases h with
      | literal h => exact ih h
    | capture name =>
      cases h with
      | capture _ h =>
        obtain ⟨hparams, hnames⟩ := ih h
        exact ⟨congrArg _ hparams, congrArg _ hnames⟩

end Route

namespace RouteDefinition

/-- The captures of a definition have different names. -/
theorem nodup_captures_of_check {r : RouteDefinition} (h : check r = .ok ()) :
    (Route.captures r.path).Nodup := by
  rw [check] at h
  split at h
  · cases h
  · next hnone =>
    cases hrepeated : firstRepeated? [] (Route.captures r.path) with
    | none => exact (firstRepeated?_eq_none_iff.1 hrepeated).1
    | some name => exact absurd hrepeated (hnone name)

end RouteDefinition

/-! ## What a segment is read as -/

/-- What a segment is for a parameter that is declared with a type: a number or a truth value if it
is declared as one, and else its text. -/
inductive ParamType.Reads : ParamType → String → Value → Prop
  | int {raw : String} {n : Int64} (h : Decimal.int64? raw = some n) :
    Reads (.primitive .int) raw (.int n)
  | float {raw : String} {x : Float} (h : Decimal.float? raw = some x) :
    Reads (.primitive .float) raw (.float x)
  | yes {raw : String} (h : raw = "true" ∨ raw = "1") : Reads (.primitive .bool) raw (.bool true)
  | no {raw : String} (h : raw = "false" ∨ raw = "0") : Reads (.primitive .bool) raw (.bool false)
  | text {type : ParamType} {raw : String}
    (h : ∀ k, type = .primitive k → k = .string ∨ k = .array) : Reads type raw (.str raw)

namespace Primitive

/-- A segment that a kind accepts is converted. -/
theorem exists_convert {k : Primitive} {raw : String} (h : k.accepts raw = true) (name : String) :
    ∃ v, convert name raw (some k) = .ok v := by
  cases k with
  | int =>
    obtain ⟨n, hn⟩ := Option.isSome_iff_exists.1 h
    exact ⟨.int n, by rw [convert, hn]⟩
  | float =>
    obtain ⟨x, hx⟩ := Option.isSome_iff_exists.1 h
    exact ⟨.float x, by rw [convert, hx]⟩
  | bool =>
    rw [convert]
    split
    · exact ⟨_, rfl⟩
    · next hyes =>
      split
      · exact ⟨_, rfl⟩
      · next hno => simp [accepts] at h; tauto
  | string | array => exact ⟨_, rfl⟩

/-- A segment is converted to what it is for a parameter of the type. -/
theorem reads_of_convert {type : ParamType} {name raw : String} {v : Value}
    (h : convert name raw (RouteTable.coercion? type) = .ok v) : type.Reads raw v := by
  cases type with
  | untyped | named id =>
    cases h
    exact .text nofun
  | primitive k =>
    cases k with
    | int =>
      rw [show RouteTable.coercion? (.primitive .int) = some .int from rfl, convert] at h
      split at h <;> cases h
      exact .int ‹_›
    | float =>
      rw [show RouteTable.coercion? (.primitive .float) = some .float from rfl, convert] at h
      split at h <;> cases h
      exact .float ‹_›
    | bool =>
      rw [show RouteTable.coercion? (.primitive .bool) = some .bool from rfl, convert] at h
      split at h
      · cases h
        exact .yes ‹_›
      · split at h <;> cases h
        exact .no ‹_›
    | string =>
      cases h
      exact .text fun k hk => .inl (ParamType.primitive.inj hk).symm
    | array =>
      cases h
      exact .text fun k hk => .inr (ParamType.primitive.inj hk).symm

end Primitive

/-! ## What a route is bound to -/

namespace RouteTable

section
variable {config : Config} {classes : List ClassDescriptor} {services : ContainerPlan}
  {request : String} {captures : List String}

/-- A parameter that is called like a capture gets what is captured, and no other does. -/
theorem source?_eq_captured_iff {p : Parameter} {coerce? : Option Primitive} :
    source? request services captures p = some (.captured coerce?) ↔
      p.name ∈ captures ∧ coerce? = coercion? p.type := by
  constructor
  · intro h
    cases SourceOf.of_source? h with
    | captured hmem => exact ⟨hmem, rfl⟩
  · rintro ⟨hmem, rfl⟩
    rw [source?, if_pos (List.contains_iff_mem.2 hmem)]

variable {definitions : List RouteDefinition} {verb : Verb} {path : String} {found : RouteMatch}

/-- The route of a path is bound to a definition that fits the path, and captured values are what
its call wants. -/
theorem exists_definition_of_finds
    (h : Routes.Finds (routes config classes services definitions verb) (Route.segments path)
      (some found)) : ∃ r ∈ definitions, bind config classes services r = .ok found.call ∧
        Routes.Fits r.keys (Route.segments path) found.params ∧
          (found.params = [] ∨ found.call.Wants found.params) := by
  have hbound {keys : List RouteKey} {call : RouteCall}
      (hcall : Routes.call? (routes config classes services definitions verb) keys = some call) :
      ∃ r ∈ definitions, bind config classes services r = .ok call ∧ r.keys = keys := by
    obtain ⟨r, hr, hroute⟩ := List.mem_filterMap.1 (Routes.mem_of_call? hcall)
    rw [route?] at hroute
    split at hroute
    · obtain ⟨call', hcall', heq⟩ := Option.map_eq_some_iff.1 hroute
      cases heq
      exact ⟨r, hr, Result.toOption_eq_some.1 hcall', rfl⟩
    · cases hroute
  cases h with
  | static hcall =>
    obtain ⟨r, hr, hbind, hkeys⟩ := hbound hcall
    exact ⟨r, hr, hbind, hkeys ▸ Routes.fits_map_literal _, .inl rfl⟩
  | captured _ hcandidate _ =>
    obtain ⟨r, hr, hbind, hkeys⟩ := hbound hcandidate.registered
    obtain ⟨params, hfits, hparams⟩ := hcandidate.fits
    rw [List.nil_append] at hparams
    exact ⟨r, hr, hbind, hkeys ▸ hparams ▸ hfits, .inr hcandidate.wants⟩

/-- How a route that was found fits its target: each parameter of the target is an argument, which
is a captured one exactly if the parameter is called like a capture; and the captured segments are
those in the places of the captures, which have different names. -/
structure Fills (classes : List ClassDescriptor) (path : String) (found : RouteMatch) (m : Method) :
    Prop where
  target : (class? classes found.call.className >>= (·.method? found.call.method)) = some m
  params : found.params = Route.inPlaces (Route.template found.call.path) (Route.segments path)
  names : found.params.map (·.1) = Route.captures found.call.path
  nodup : (Route.captures found.call.path).Nodup
  args : List.Forall₂ (fun p arg => arg.name = p.name ∧ ∀ coerce?,
    arg.source = .captured coerce? ↔ p.name ∈ Route.captures found.call.path ∧
      coerce? = coercion? p.type) m.params found.call.args
  wants : found.params = [] ∨ found.call.Wants found.params

/-- A route that was found fits its target. -/
theorem exists_fills_of_finds (hall : RouteDefinition.all config classes = .ok definitions)
    (h : Routes.Finds (routes config classes services definitions verb) (Route.segments path)
      (some found)) : ∃ m, Fills classes path found m := by
  obtain ⟨r, hr, hbind, hfits, hwants⟩ := exists_definition_of_finds h
  obtain ⟨m, as, hm, -, has, hcall⟩ := of_bind hbind
  have htarget :
      (class? classes found.call.className >>= (·.method? found.call.method)) = some m := by
    rw [hcall, ← hm]
  have hpath : found.call.path = r.path := by rw [hcall]
  have hargs : args config.capabilities.request services (Route.captures r.path) m.params =
      .ok found.call.args := by
    rw [hcall, has]
  obtain ⟨_, _, -, -, -, hcheck⟩ := RouteDefinition.of_all hall
  obtain ⟨hparams, hnames⟩ := Route.eq_of_fits hfits
  rw [← hpath] at hparams hargs
  refine ⟨m, htarget, hparams, hnames.trans (by rw [hpath]; rfl), ?_, ?_, hwants⟩
  · rw [hpath]
    exact RouteDefinition.nodup_captures_of_check (hcheck r hr)
  · refine (forall₂_of_args hargs).imp fun p arg h => ⟨h.1, fun coerce? => ?_⟩
    rw [← source?_eq_captured_iff, h.2, Option.some.injEq]

namespace Fills

variable {m : Method} (h : Fills classes path found m)
include h

/-- Every argument that is to be captured is, and its value can be converted. -/
theorem exists_convert {arg : RouteArg} (harg : arg ∈ found.call.args) {coerce? : Option Primitive}
    (hsource : arg.source = .captured coerce?) : ∃ raw v, found.params.lookup arg.name = some raw ∧
      Primitive.convert arg.name raw coerce? = .ok v := by
  obtain ⟨p, -, hname, hcaptured⟩ := Result.exists_of_forall₂ h.args.flip harg
  have hmem : arg.name ∈ found.params.map (·.1) := by
    rw [h.names, hname]
    exact ((hcaptured coerce?).1 hsource).1
  obtain ⟨raw, hraw⟩ : ∃ raw, found.params.lookup arg.name = some raw := by
    obtain ⟨pair, hpair, heq⟩ := List.mem_map.1 hmem
    exact Option.isSome_iff_exists.1 (List.lookup_isSome_iff.2 ⟨pair, hpair, by simp [heq]⟩)
  cases coerce? with
  | none => exact ⟨raw, .str raw, hraw, rfl⟩
  | some k =>
    have haccepts : k.accepts raw = true := by
      rcases h.wants with hnil | hwants
      · rw [hnil] at hmem
        cases hmem
      · obtain ⟨text, htext, hvalue⟩ := hwants arg harg k hsource
        obtain rfl : raw = text := Option.some.inj (hraw.symm.trans htext)
        exact Primitive.accepts_iff.2 hvalue
    obtain ⟨v, hv⟩ := Primitive.exists_convert haccepts arg.name
    exact ⟨raw, v, hraw, hv⟩

/-- Every parameter that is called like a capture is an argument that is captured: the segment in
its place, read as it is declared. -/
theorem exists_reads {p : Parameter} (hp : p ∈ m.params)
    (hname : p.name ∈ Route.captures found.call.path) : ∃ arg ∈ found.call.args, ∃ raw v,
      arg.name = p.name ∧ arg.source = .captured (coercion? p.type) ∧
        found.params.lookup arg.name = some raw ∧
          Primitive.convert arg.name raw (coercion? p.type) = .ok v ∧ p.type.Reads raw v := by
  obtain ⟨arg, harg, heq, hcaptured⟩ := Result.exists_of_forall₂ h.args hp
  have hsource := (hcaptured (coercion? p.type)).2 ⟨hname, rfl⟩
  obtain ⟨raw, v, hraw, hv⟩ := h.exists_convert harg hsource
  exact ⟨arg, harg, raw, v, heq, hsource, hraw, hv, Primitive.reads_of_convert hv⟩

end Fills

end

end RouteTable

/-! ## Binding arguments -/

namespace Router

section
variable {τ : Type} {r : Router τ} {params : List (String × String)} {args : List RouteArg}

/-- An argument fails where nothing that was captured is to blame: it is a constant that is not
registered, or a service that the container fails to get. -/
def ArgumentFails (r : Router τ) (arg : RouteArg) (w : World τ) (e : ServeError) : Prop :=
  (∃ reference, arg.source = .default (.constant reference) ∧
    r.container.registry.constants.lookup reference = none ∧ e = .missingConstant reference) ∨
  ∃ id w', arg.source = .service id ∧ r.container.get id w = (.error e, w')

/-- Binding arguments fails where nothing that was captured is to blame, at one of the arguments
once those before it are bound. -/
def FailsOutside (r : Router τ) (params : List (String × String)) (args : List RouteArg)
    (w : World τ) (e : ServeError) : Prop :=
  ∃ before arg rest bound w₁, args = before ++ arg :: rest ∧
    r.arguments params before w = (.ok bound, w₁) ∧ r.ArgumentFails arg w₁ e

/-- What is captured can be converted. -/
def Converts (params : List (String × String)) (args : List RouteArg) : Prop :=
  ∀ arg ∈ args, ∀ coerce?, arg.source = .captured coerce? →
    ∃ raw v, params.lookup arg.name = some raw ∧ Primitive.convert arg.name raw coerce? = .ok v

/-- An argument fails outside only, if what is captured for it can be converted. -/
theorem argument_fails {w w' : World τ} {arg : RouteArg} {e : ServeError}
    (hcaptured : ∀ coerce?, arg.source = .captured coerce? →
      ∃ raw v, params.lookup arg.name = some raw ∧ Primitive.convert arg.name raw coerce? = .ok v)
    (h : r.argument? params arg w = (.error e, w')) : r.ArgumentFails arg w e := by
  obtain ⟨name, source⟩ := arg
  rw [argument?] at h
  cases source with
  | captured coerce? =>
    obtain ⟨raw, v, hraw, hv⟩ := hcaptured coerce? rfl
    simp only [hraw, hv] at h
    cases h
  | request => cases h
  | default value =>
    cases value with
    | literal l => cases h
    | constant reference =>
      cases hentry : r.container.registry.constant reference with
      | ok v =>
        simp only [hentry] at h
        cases h
      | error e' =>
        simp only [hentry] at h
        cases h
        exact .inl ⟨reference, rfl, Container.entry_raises hentry⟩
  | service id =>
    simp only [serving_bind] at h
    split at h
    · cases h
    · next hget =>
      cases h
      exact .inr ⟨id, w', rfl, hget⟩

/-- Binding arguments fails outside only, if what is captured can be converted. -/
theorem arguments_fails {w w' : World τ} {e : ServeError} (hcaptured : Converts params args)
    (h : r.arguments params args w = (.error e, w')) : FailsOutside r params args w e := by
  induction args generalizing w with
  | nil => cases h
  | cons first rest ih =>
    obtain ⟨hfirst, hrest⟩ := List.forall_mem_cons.1 hcaptured
    rw [arguments, serving_bind] at h
    split at h
    · next value? w₁ hvalue =>
      have hlater : r.arguments params rest w₁ = (.error e, w') := by
        cases value? with
        | none => exact h
        | some v =>
          simp only [serving_bind] at h
          split at h <;> cases h
          assumption
      obtain ⟨before, arg, after, bound, w₂, hsplit, hbefore, houtside⟩ := ih hrest hlater
      obtain ⟨bound', hbound⟩ :
        ∃ bound', r.arguments params (first :: before) w = (.ok bound', w₂) := by
        rw [arguments, serving_bind, hvalue]
        cases value? with
        | none => exact ⟨bound, hbefore⟩
        | some v => exact ⟨(first.name, v) :: bound, by simp only [serving_bind, hbefore]; rfl⟩
      exact ⟨first :: before, arg, after, bound', w₂, congrArg _ hsplit, hbound, houtside⟩
    · next hvalue =>
      cases h
      exact ⟨[], first, rest, [], w, rfl, rfl, argument_fails hfirst hvalue⟩

/-- When arguments were bound, a captured one is among them with the value it is converted to. -/
theorem mem_of_arguments {w w' : World τ} {values : List (String × Value)}
    (h : r.arguments params args w = (.ok values, w')) {arg : RouteArg} (harg : arg ∈ args)
    {coerce? : Option Primitive} (hsource : arg.source = .captured coerce?) {raw : String}
    (hraw : params.lookup arg.name = some raw) {v : Value}
    (hv : Primitive.convert arg.name raw coerce? = .ok v) : (arg.name, v) ∈ values := by
  induction args generalizing w values with
  | nil => cases harg
  | cons first rest ih =>
    rw [arguments, serving_bind] at h
    rcases hfirst : r.argument? params first w with ⟨e | value?, w₁⟩
    · rw [hfirst] at h
      cases h
    rw [hfirst] at h
    rcases List.mem_cons.1 harg with rfl | harg
    · have hvalue : value? = some v := by
        rw [argument?, hsource] at hfirst
        simp only [hraw, hv] at hfirst
        cases hfirst
        rfl
      subst hvalue
      simp only [serving_bind] at h
      split at h <;> cases h
      exact .head _
    · cases value? with
      | none => exact ih h harg
      | some value =>
        simp only [serving_bind] at h
        split at h
        · next hrest =>
          cases h
          exact .tail _ (ih hrest harg)
        · cases h

/-- How the arguments of a route that was found come about: what was captured are the segments of
the path in the places of the captures, and every parameter of the target that is called like a
capture can be read from its segment. Binding the arguments gives it that value, or it fails
outside. -/
structure BindsCaptures (r : Router τ) (target : Method) (path : String) (found : RouteMatch) :
    Prop where
  params : found.params = Route.inPlaces (Route.template found.call.path) (Route.segments path)
  nodup : (Route.captures found.call.path).Nodup
  readable : ∀ p ∈ target.params, p.name ∈ Route.captures found.call.path →
    ∃ raw v, found.params.lookup p.name = some raw ∧ p.type.Reads raw v
  bound : ∀ w values w', r.arguments found.params found.call.args w = (.ok values, w') →
    ∀ p ∈ target.params, p.name ∈ Route.captures found.call.path →
      ∃ raw v, found.params.lookup p.name = some raw ∧ p.type.Reads raw v ∧ (p.name, v) ∈ values
  fails : ∀ w e w', r.arguments found.params found.call.args w = (.error e, w') →
    FailsOutside r found.params found.call.args w e

end

section
variable {config : Config} {classes : List ClassDescriptor} {services : ContainerPlan}
  {plan : RouterPlan} {diagnostics : List Diagnostic}

/-- Whatever route of a compiled plan is found for a request, its arguments come about as its
captures want. -/
theorem compile_arguments
    (h : RouteTable.compile config classes services = .ok (plan, diagnostics)) :
    ∃ m, RouteMatcher.ofPlan? plan = some m ∧
      ∀ (τ : Type) (c : Container τ) (method path : String) (found : RouteMatch),
        (Router.mk m c).find? method path = some found →
          ∃ target, (RouteTable.class? classes found.call.className >>=
              (·.method? found.call.method)) = some target ∧
            BindsCaptures ⟨m, c⟩ target path found := by
  obtain ⟨definitions, hall, -, m, hm, hfinds⟩ := RouteTable.compile_finds h
  refine ⟨m, hm, fun τ c method path found hfound => ?_⟩
  obtain ⟨verb, -, hfound⟩ := Option.bind_eq_some_iff.1 hfound
  obtain ⟨target, hfills⟩ := RouteTable.exists_fills_of_finds hall ((hfinds _ _ _).1 hfound)
  have hconverts : Converts found.params found.call.args :=
    fun arg harg coerce? hsource => hfills.exists_convert harg hsource
  exact ⟨target, hfills.target, {
    params := hfills.params
    nodup := hfills.nodup
    readable := by
      intro p hp hname
      obtain ⟨arg, -, raw, v, heq, -, hraw, -, hreads⟩ := hfills.exists_reads hp hname
      exact ⟨raw, v, heq ▸ hraw, hreads⟩
    bound := by
      intro w values w' hvalues p hp hname
      obtain ⟨arg, harg, raw, v, heq, hsource, hraw, hv, hreads⟩ := hfills.exists_reads hp hname
      exact ⟨raw, v, heq ▸ hraw, hreads, heq ▸ mem_of_arguments hvalues harg hsource hraw hv⟩
    fails := fun w e w' he => arguments_fails hconverts he }⟩

end

/-- Orders that are numbered, shown with the store that has them. -/
def orders : ClassDescriptor where
  name := "app::Orders"
  kind := .concrete
  methods := [
    { name := "show", isStatic := true
      params := [{ name := "id", type := .primitive .int },
        { name := "store", type := .named "app::Store" }]
      annotations := [.route .get "/orders/{id}" [] none] }]

/-- The plan of the store. -/
def storePlan : ContainerPlan where
  services := [{ id := "app::Store", className := "app::Store", singleton := true
                 origin := .discovered }]

/-- A store that is there. -/
def openStore : Container Unit where
  plan := storePlan
  registry := { constructors := [("app::Store", fun _ _ => return ⟨"app::Store", "store"⟩)] }

/-- The seventh order is shown with the number that its path says; no order is called `seven`. -/
theorem compile_arguments_orders : ∃ plan diagnostics m found values w',
    RouteTable.compile {} [orders] storePlan = .ok (plan, diagnostics) ∧
      RouteMatcher.ofPlan? plan = some m ∧
        (Router.mk m openStore).find? "GET" "/orders/seven" = none ∧
          (Router.mk m openStore).find? "GET" "/orders/7" = some found ∧
            (Router.mk m openStore).arguments found.params found.call.args { own := () } =
                (.ok values, w') ∧
              values.map (Prod.map id Value.inspect) =
                [("id", "Int(7)"), ("store", "Service(..)")] ∧
                ∃ target, (RouteTable.class? [orders] found.call.className >>=
                    (·.method? found.call.method)) = some target ∧
                  BindsCaptures ⟨m, openStore⟩ target "/orders/7" found := by
  have hcheck : ((RouteTable.compile {} [orders] storePlan).toOption.any fun compiled =>
      (RouteMatcher.ofPlan? compiled.1).any fun m =>
        ((Router.mk m openStore).find? "GET" "/orders/seven").isNone &&
        ((Router.mk m openStore).find? "GET" "/orders/7").any fun found =>
          ((Router.mk m openStore).arguments found.params found.call.args
            { own := () }).1.toOption.any fun values =>
              values.map (Prod.map id Value.inspect) =
                [("id", "Int(7)"), ("store", "Service(..)")]) =
      true := by decide +kernel
  obtain ⟨⟨plan, diagnostics⟩, hcompiled, hcheck⟩ := (Option.any_eq_true ..).1 hcheck
  obtain ⟨m, hm, hcheck⟩ := (Option.any_eq_true ..).1 hcheck
  obtain ⟨hseven, hcheck⟩ := Bool.and_eq_true_iff.1 hcheck
  obtain ⟨found, hfound, hcheck⟩ := (Option.any_eq_true ..).1 hcheck
  obtain ⟨values, hvalues, hshown⟩ := (Option.any_eq_true ..).1 hcheck
  have hcompiled := Result.toOption_eq_some.1 hcompiled
  obtain ⟨m', hm', hbinds⟩ := compile_arguments hcompiled
  obtain rfl : m' = m := Option.some.inj (hm'.symm.trans hm)
  exact ⟨plan, diagnostics, m', found, values, _, hcompiled, hm, Option.isNone_iff_eq_none.1 hseven,
    hfound, Prod.ext (Result.toOption_eq_some.1 hvalues) rfl, of_decide_eq_true hshown,
    hbinds _ _ _ _ _ hfound⟩

/-- A store whose constructor asks for an argument that the plan does not have. -/
def store : Container Unit where
  plan := storePlan
  registry := { constructors := [("app::Store", fun _ args => do
    let _ ← args.int "size"
    return ⟨"app::Store", "store"⟩)] }

/-- The error of a service is passed on although it is one that captures never cause. -/
theorem exists_missingArgument_orders : ∃ plan diagnostics m found w',
    RouteTable.compile {} [orders] storePlan = .ok (plan, diagnostics) ∧
      RouteMatcher.ofPlan? plan = some m ∧
        (Router.mk m store).find? "GET" "/orders/7" = some found ∧
          (Router.mk m store).arguments found.params found.call.args { own := () } =
            (.error (.missingArgument "size"), w') := by
  have hrun : ((RouteTable.compile {} [orders] storePlan).toOption.bind fun compiled =>
      (RouteMatcher.ofPlan? compiled.1).bind fun m =>
        ((Router.mk m store).find? "GET" "/orders/7").bind fun found =>
          match ((Router.mk m store).arguments found.params found.call.args { own := () }).1 with
          | .ok _ => none
          | .error e => some e) = some (.missingArgument "size") := by
    decide +kernel
  obtain ⟨⟨plan, diagnostics⟩, hcompiled, hrun⟩ := Option.bind_eq_some_iff.1 hrun
  obtain ⟨m, hm, hrun⟩ := Option.bind_eq_some_iff.1 hrun
  obtain ⟨found, hfound, hrun⟩ := Option.bind_eq_some_iff.1 hrun
  rcases hargs : (Router.mk m store).arguments found.params found.call.args { own := () } with
    ⟨e | values, w'⟩
  · rw [hargs] at hrun
    cases hrun
    exact ⟨plan, diagnostics, m, found, w', Result.toOption_eq_some.1 hcompiled, hm, hfound, hargs⟩
  · rw [hargs] at hrun
    cases hrun

end Router

end Wiring
