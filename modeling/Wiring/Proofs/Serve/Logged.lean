import Wiring.Proofs.Serve.Get

/-!
# What happens while services are got

Getting a service may build it and others that its arguments name, or answer from what is
remembered. `getLogged` gets services in the same way and writes down what happens: each call of a
constructor or a factory that succeeded, and each request that was answered, be it one of the caller
or one for an argument. The log stands beside the application's own state, where no function of the
application sees it (`Registry.logging`), so leaving it out gives the container back
(`erases_getLogged`).
-/

namespace Wiring

/-! ## Computations on related states -/

/-- Two computations come to the same result on related states, and leave related states. -/
def Mirrors {τ σ α : Type} (R : World τ → World σ → Prop) (x : Serving τ α) (y : Serving σ α) :
    Prop :=
  ∀ w v, R w v → (x w).1 = (y v).1 ∧ R (x w).2 (y v).2

namespace Mirrors

section
variable {τ σ α β : Type} {R : World τ → World σ → Prop}

/-- A result is the same on all states. -/
theorem pure (a : α) : Mirrors R (Pure.pure a) (Pure.pure a) :=
  fun _ _ h => ⟨rfl, h⟩

/-- An error is the same on all states. -/
theorem throw (e : ServeError) : Mirrors R (throw e : Serving τ α) (throw e) :=
  fun _ _ h => ⟨rfl, h⟩

/-- Of two computations, one after the other, each mirrors its counterpart. -/
theorem bind {x : Serving τ α} {y : Serving σ α} {f : α → Serving τ β} {g : α → Serving σ β}
    (h : Mirrors R x y) (hf : ∀ a, Mirrors R (f a) (g a)) : Mirrors R (x >>= f) (y >>= g) := by
  intro w v hR
  obtain ⟨hresult, hR'⟩ := h w v hR
  rw [serving_bind, serving_bind]
  cases hx : x w with
  | mk result w' =>
    cases hy : y v with
    | mk result' v' =>
      rw [hx, hy] at hresult hR'
      obtain rfl : result = result' := hresult
      cases result with
      | ok a => exact hf a w' v' hR'
      | error e => exact ⟨rfl, hR'⟩

/-- Mirroring is kept from one computation to the next. -/
theorem congruence : Congruence fun α => @Mirrors τ σ α R :=
  ⟨pure, bind⟩

/-- What is looked up is the same on all states. -/
theorem lift (x : Except ServeError α) : Mirrors R (liftM x : Serving τ α) (liftM x) := by
  cases x with
  | ok a => exact pure a
  | error e => exact throw e

/-- A variable has the same value in related states, or is set in neither. -/
theorem envOr (hR : ∀ w v, R w v → w.env = v.env) (key : String) {x : Serving τ Value}
    {y : Serving σ Value} (h : Mirrors R x y) :
    Mirrors R (Serving.envOr key x) (Serving.envOr key y) := by
  have hvalue : Mirrors R (Serving.envValue? key) (Serving.envValue? key) :=
    fun w v h => ⟨congrArg (fun env : Variables => Except.ok (env.get? key)) (hR w v h), h⟩
  refine hvalue.bind fun v? => ?_
  cases v? with
  | some s => exact pure _
  | none => exact h

end

end Mirrors

/-- Two registries have the same constants, and closures by the same names. -/
structure Registry.SameNames {τ σ : Type} (r : Registry τ) (r' : Registry σ) : Prop where
  constants : r.constants = r'.constants
  closures : ∀ source, (r.closures.lookup source).isSome = (r'.closures.lookup source).isSome

namespace Container

section
variable {τ σ : Type} {R : World τ → World σ → Prop} {r : Registry τ} {r' : Registry σ}
  {get : String → Serving τ Instance} {get' : String → Serving σ Instance}

/-- A closure is registered in both applications or in neither. -/
theorem related_closure (hr : r.SameNames r') (source : String) {α : Type} {x : Serving τ α}
    {y : Serving σ α} (h : Mirrors R x y) :
    Mirrors R (liftM (r.closure source) >>= fun _ => x)
      (liftM (r'.closure source) >>= fun _ => y) := by
  have hnames := hr.closures source
  simp only [Registry.closure, Registry.entry]
  cases hl : r.closures.lookup source with
  | none =>
    rw [hl, Option.isSome_none, eq_comm, Option.isSome_eq_false_iff,
      Option.isNone_iff_eq_none] at hnames
    rw [hnames]
    exact .throw _
  | some f =>
    rw [hl, Option.isSome_some, eq_comm, Option.isSome_iff_exists] at hnames
    obtain ⟨f', hf'⟩ := hnames
    rw [hf']
    exact h

/-- With the same names and the same environment everything that is looked up is the same. -/
theorem related_looksUp (hr : r.SameNames r') (hR : ∀ w v, R w v → w.env = v.env) :
    Congruence.LooksUp (fun α => @Mirrors τ σ α R) r r' where
  constant name := by
    rw [Registry.constant, Registry.constant, hr.constants]
    exact .lift _
  envOr key _ _ h := .envOr hR key h
  unset key := .envOr hR key (.throw _)
  closure source _ _ _ h := related_closure hr source h

/-- Evaluating arguments keeps states related if getting what they refer to does. -/
theorem related_argValues (hr : r.SameNames r') (hR : ∀ w v, R w v → w.env = v.env)
    {args : List (String × Argument)}
    (h : ∀ arg ∈ args, ∀ z, arg.2.Refers z → Mirrors R (get z) (get' z)) :
    Mirrors R (argValues r get args) (argValues r' get' args) :=
  argValues_related Mirrors.congruence fun arg harg =>
    value_related Mirrors.congruence (related_looksUp hr hR) (h arg harg)

end

/-- What is not built in is built from its arguments. -/
theorem construct_eq_assemble {τ : Type} {c : Container τ} {get : String → Serving τ Instance}
    {s : Construction} (h : ∀ b, s.origin ≠ .builtin b) :
    c.construct get s = argValues c.registry get s.args >>= assemble c.registry s := by
  cases horigin : s.origin with
  | builtin b => exact absurd horigin (h b)
  | discovered | manual => simp only [construct, horigin]

end Container

/-! ## The log -/

/-- Something that happens while services are got. -/
inductive Happening where
  /-- A constructor or a factory was called for a service, and it succeeded. -/
  | built (id : String) (i : Instance)
  /-- A request was answered, with an instance of the service that it resolves to. -/
  | answered (id : String) (i : Instance)
  deriving DecidableEq, Repr

/-- What happened, in order. -/
abbrev Log := List Happening

namespace Log

/-- The instances that were built for a service. -/
def builtAs (id : String) (log : Log) : List Instance :=
  log.filterMap fun
    | .built id' i => if id' = id then some i else none
    | .answered _ _ => none

/-- The instances that requests for a service were answered with. -/
def answersOf (id : String) (log : Log) : List Instance :=
  log.filterMap fun
    | .answered id' i => if id' = id then some i else none
    | .built _ _ => none

/-- All instances that were built. -/
def allBuilt (log : Log) : List Instance :=
  log.filterMap fun
    | .built _ i => some i
    | .answered _ _ => none

end Log

/-- A function of the application leaves the log alone. -/
def Acting.aside {τ α : Type} (f : Acting τ α) : Acting (τ × Log) α :=
  fun (own, log) =>
    let (result, own) := f own
    (result, own, log)

/-- A constructor leaves the log alone. -/
def Constructor.aside {τ : Type} (f : Constructor τ) : Constructor (τ × Log) :=
  fun serial args => (f serial args).aside

/-- The functions that getting services calls, beside a log that they do not see. -/
def Registry.logging {τ : Type} (r : Registry τ) : Registry (τ × Log) where
  constructors := r.constructors.map (Prod.map id Constructor.aside)
  factories := r.factories.map (Prod.map id Constructor.aside)
  constants := r.constants
  closures := r.closures.map (Prod.map id fun body args => (body args).aside)

/-- The container with functions that run beside a log. -/
def Container.logging {τ : Type} (c : Container τ) : Container (τ × Log) where
  plan := c.plan
  registry := c.registry.logging
  isShared := c.isShared

namespace World

section
variable {τ : Type}

/-- The state with a log beside it. -/
def withLog (w : World τ) (log : Log) : World (τ × Log) :=
  { w with own := (w.own, log) }

/-- The state without the log. -/
def forget (v : World (τ × Log)) : World τ :=
  { v with own := v.own.1 }

/-- What happened so far. -/
def log (v : World (τ × Log)) : Log :=
  v.own.2

/-- The state once something more has happened. -/
def note (v : World (τ × Log)) (h : Happening) : World (τ × Log) :=
  { v with own := (v.own.1, v.log ++ [h]) }

@[simp] theorem forget_withLog (w : World τ) (log : Log) : (w.withLog log).forget = w := rfl
@[simp] theorem log_withLog (w : World τ) (log : Log) : (w.withLog log).log = log := rfl
@[simp] theorem withLog_forget (v : World (τ × Log)) : v.forget.withLog v.log = v := rfl
@[simp] theorem forget_note (v : World (τ × Log)) (h : Happening) :
    (v.note h).forget = v.forget := rfl
@[simp] theorem log_note (v : World (τ × Log)) (h : Happening) :
    (v.note h).log = v.log ++ [h] := rfl

end

end World

namespace Container

/-- Does something and writes down what came of it, unless it failed. -/
def noting {τ : Type} (happening : Instance → Happening) (x : Serving (τ × Log) Instance) :
    Serving (τ × Log) Instance :=
  fun v =>
    match x v with
    | (.ok i, v') => (.ok i, v'.note (happening i))
    | (.error e, v') => (.error e, v')

section
variable {τ : Type} {happening : Instance → Happening} {x : Serving (τ × Log) Instance}
  {v : World (τ × Log)}

@[simp] theorem fst_noting : (noting happening x v).1 = (x v).1 := by
  rw [noting]
  rcases x v with ⟨e | i, v'⟩ <;> rfl

/-- What came of something is written down, unless it failed. -/
theorem snd_noting : (noting happening x v).2 = match (x v).1 with
    | .ok i => (x v).2.note (happening i)
    | .error _ => (x v).2 := by
  rw [noting]
  rcases x v with ⟨e | i, v'⟩ <;> rfl

end

/-- Builds a service and writes that down. What is built in is there already. -/
def constructLogged {τ : Type} (c : Container τ) (get : String → Serving (τ × Log) Instance)
    (s : Construction) : Serving (τ × Log) Instance :=
  match s.origin with
  | .builtin _ => c.logging.construct get s
  | .discovered | .manual => noting (.built s.id) (c.logging.construct get s)

/-- Answers a request for a service: a singleton that is remembered is not built again. -/
def answerLogged {τ : Type} (c : Container τ) (get : String → Serving (τ × Log) Instance)
    (s : Construction) : Serving (τ × Log) Instance :=
  if s.origin = .builtin .container then c.constructLogged get s
  else if s.singleton then do
    match ← Serving.singleton? s.id with
    | some i => return i
    | none => Serving.remember s.id (← c.constructLogged get s)
  else c.constructLogged get s

/-- Gets a service as `getWithin` does, and writes down what happens. -/
def getLogged {τ : Type} (c : Container τ) : (steps : Nat) → String → Serving (τ × Log) Instance
  | 0, id => throw (.endless id)
  | steps + 1, id =>
    match c.plan.resolve? id with
    | none => throw (.serviceNotFound id)
    | some s => noting (.answered s.id) (c.answerLogged (c.getLogged steps) s)

/-- What has happened once a service was asked for. -/
def logAfter {τ : Type} (c : Container τ) (id : String) (w : World τ) (log : Log) : Log :=
  (c.getLogged c.depth id (w.withLog log)).2.log

/-! ## Leaving the log out -/

/-- A state is what remains of one with a log. -/
def Erases {τ : Type} (w : World τ) (v : World (τ × Log)) : Prop :=
  v.forget = w

/-- A state with a log that stays as it is. -/
def Beside {τ : Type} (log : Log) (w : World τ) (v : World (τ × Log)) : Prop :=
  v = w.withLog log

section
variable {τ : Type}

/-- What leaves every log alone can be done without one. -/
theorem erases_of_beside {α : Type} {x : Serving τ α} {y : Serving (τ × Log) α}
    (h : ∀ log, Mirrors (Beside log) x y) : Mirrors Erases x y := by
  rintro _ v rfl
  obtain ⟨hresult, hstate⟩ := h v.log v.forget v rfl
  exact ⟨hresult, hstate ▸ rfl⟩

/-- The functions beside a log have the names that they have without. -/
theorem sameNames_logging (r : Registry τ) : r.SameNames r.logging :=
  ⟨rfl, fun source => by simp only [Registry.logging, lookup_map_snd, Option.isSome_map]⟩

/-- Calling a constructor leaves the log alone. -/
theorem beside_call (log : Log) (f : Constructor τ) (args : Args) :
    Mirrors (Beside log) (call f args) (call f.aside args) := by
  rintro w _ rfl
  simp only [call, Serving.act, Constructor.aside, Acting.aside, Beside, World.withLog]
  rcases f (w.built + 1) args w.own with ⟨e | p, own⟩
  · exact ⟨rfl, rfl⟩
  · exact ⟨rfl, rfl⟩

/-- Looking a constructor up and calling it leaves the log alone. -/
theorem beside_entry (log : Log) {missing : String → ServeError}
    (fs : List (String × Constructor τ)) (name : String) (args : Args) :
    Mirrors (Beside log) (liftM (Registry.entry missing fs name) >>= fun f => call f args)
      (liftM (Registry.entry missing (fs.map (Prod.map id Constructor.aside)) name) >>=
        fun f => call f args) := by
  simp only [Registry.entry, lookup_map_snd]
  cases fs.lookup name with
  | none => exact .throw _
  | some f => exact beside_call log f args

/-- Calling the function that builds a service leaves the log alone. -/
theorem beside_assemble (log : Log) (r : Registry τ) (s : Construction)
    (args : List (String × Value)) :
    Mirrors (Beside log) (assemble r s args) (assemble r.logging s args) := by
  simp only [assemble, Registry.builder]
  cases s.factory? with
  | some f => exact beside_entry log r.factories _ _
  | none => exact beside_entry log r.constructors _ _

/-- What is written down is left out again. -/
theorem erases_noting {happening : Instance → Happening} {x : Serving τ Instance}
    {y : Serving (τ × Log) Instance} (h : Mirrors Erases x y) :
    Mirrors Erases x (noting happening y) := by
  intro w v hv
  obtain ⟨hresult, hstate⟩ := h w v hv
  refine ⟨by rw [fst_noting, hresult], ?_⟩
  rw [snd_noting]
  split
  · exact hstate
  · exact hstate

/-- The environment is the same without the log. -/
theorem env_of_erases {w : World τ} {v : World (τ × Log)} (h : Erases w v) : w.env = v.env :=
  h ▸ rfl

/-- Without the log a service is built as ever. -/
theorem erases_constructLogged (c : Container τ) {get : String → Serving τ Instance}
    {get' : String → Serving (τ × Log) Instance} (h : ∀ z, Mirrors Erases (get z) (get' z))
    (s : Construction) : Mirrors Erases (c.construct get s) (c.constructLogged get' s) := by
  have hargs : Mirrors Erases (argValues c.registry get s.args)
      (argValues c.registry.logging get' s.args) :=
    related_argValues (sameNames_logging c.registry) (fun _ _ => env_of_erases) fun _ _ z _ => h z
  rw [constructLogged]
  split
  · next b horigin =>
    cases b with
    | config =>
      simp only [construct, horigin]
      exact .pure _
    | container =>
      cases hshared : c.isShared with
      | true =>
        simp only [construct, horigin, logging, hshared]
        exact .pure _
      | false =>
        simp only [construct, horigin, logging, hshared]
        exact .throw _
  all_goals
    next horigin =>
      refine erases_noting ?_
      have hnot : ∀ b, s.origin ≠ .builtin b := by simp [horigin]
      rw [construct_eq_assemble hnot, construct_eq_assemble hnot]
      exact hargs.bind fun args => erases_of_beside fun log => beside_assemble log c.registry s args

/-- Without the log, services are got as ever. -/
theorem erases_getLogged (c : Container τ) (steps : Nat) (id : String) :
    Mirrors Erases (c.getWithin steps id) (c.getLogged steps id) := by
  induction steps generalizing id with
  | zero => exact .throw _
  | succ steps ih =>
    rw [getWithin, getLogged]
    cases c.plan.resolve? id with
    | none => exact .throw _
    | some s =>
      have hbuild := erases_constructLogged c ih s
      refine erases_noting ?_
      simp only [answer, answerLogged]
      split
      · exact hbuild
      split
      · refine Mirrors.bind (by rintro _ v rfl; exact ⟨rfl, rfl⟩) fun found => ?_
        cases found with
        | some i => exact .pure _
        | none =>
          refine hbuild.bind fun i => ?_
          rintro _ v rfl
          simp only [Serving.remember, World.forget, Erases]
          cases v.singletons.lookup s.id with
          | some first | none => exact ⟨rfl, rfl⟩
      · exact hbuild

/-- Getting a service with a log beside the state comes to the same result, and leaves the same
state beside the log. -/
theorem getLogged_eq (c : Container τ) (id : String) (w : World τ) (log : Log) :
    c.getLogged c.depth id (w.withLog log) =
      ((c.get id w).1, (c.get id w).2.withLog (c.logAfter id w log)) := by
  obtain ⟨hresult, hstate⟩ := erases_getLogged c c.depth id w (w.withLog log) rfl
  refine Prod.ext hresult.symm ?_
  rw [get, ← hstate, logAfter, World.withLog_forget]

end

end Container

end Wiring
