import Wiring.Proofs.Plan.References
import Wiring.Serve.Container

/-!
# Getting services of a coherent plan

Evaluating an argument asks for constants, variables, closures and the services it refers to, and
for nothing else. So whatever relates the answers in two applications, or in two ways to get
services, relates the evaluations (`value_related`).

Getting a service goes down along the references of the plan. On a coherent plan no way down passes
a service twice, so it is over before the bound of `getWithin` is reached: more steps change nothing
(`getWithin_eq`), and a service is got by getting those that its arguments name (`get_eq_answer`).
What can fail is a function of the application that is missing or raises an error of its own, or a
variable that is not set (`OfApplication`); and if the container is shared no longer, a request that
comes to the container itself (`Lost`). No other error comes up (`get_raises`).
-/

namespace Wiring

/-! ## Errors of computations -/

/-- The errors of a computation are among those of `E`, each with the state that it leaves. -/
def Serving.Raises {τ α : Type} (E : ServeError → World τ → Prop) (x : Serving τ α) : Prop :=
  ∀ w e w', x w = (.error e, w') → E e w'

section
variable {τ α β : Type} {E E' : ServeError → World τ → Prop} {w w' : World τ} {e : ServeError}

/-- What follows on a computation starts in the state that it leaves, unless it fails. -/
theorem serving_bind (x : Serving τ α) (f : α → Serving τ β) (w : World τ) :
    (x >>= f) w = match x w with
      | (.ok a, w') => f a w'
      | (.error e, w') => (.error e, w') := by
  simp only [bind, ExceptT.bind, ExceptT.mk, StateT.bind]
  rcases x w with ⟨e | a, w'⟩ <;> rfl

namespace Serving

/-- A result is no error. -/
theorem raises_pure (a : α) : Raises E (pure a : Serving τ α) :=
  fun _ _ _ h => by cases h

/-- Reading the state raises no error. -/
theorem raises_of_ok {x : Serving τ α} {f : World τ → α} {g : World τ → World τ}
    (h : ∀ w, x w = (.ok (f w), g w)) : Raises E x :=
  fun w _ _ hw => by rw [h] at hw; cases hw

/-- An error is raised in the state that it finds. -/
theorem raises_throw {e : ServeError} (h : ∀ w, E e w) : Raises E (throw e : Serving τ α) :=
  fun w _ _ hw => by cases hw; exact h w

/-- The errors of a computation are among more errors. -/
theorem Raises.mono {x : Serving τ α} (h : Raises E x) (hE : ∀ e w, E e w → E' e w) :
    Raises E' x :=
  fun w e w' hw => hE e w' (h w e w' hw)

/-- Of two computations, one after the other, the first one fails, or the second one in the state
that the first one left. -/
theorem of_bind_eq_error {x : Serving τ α} {f : α → Serving τ β}
    (h : (x >>= f) w = (.error e, w')) :
    x w = (.error e, w') ∨ ∃ a w₁, x w = (.ok a, w₁) ∧ f a w₁ = (.error e, w') := by
  rw [serving_bind] at h
  rcases hx : x w with ⟨e' | a, w₁⟩
  · rw [hx] at h
    cases h
    exact .inl rfl
  · rw [hx] at h
    exact .inr ⟨a, w₁, rfl, h⟩

/-- Looking something up fails, or what follows on what was found. -/
theorem of_lift_bind_eq_error {x : Except ServeError α} {f : α → Serving τ β}
    (h : (liftM x >>= f) w = (.error e, w')) : x = .error e ∨
      ∃ a, x = .ok a ∧ f a w = (.error e, w') := by
  cases x with
  | ok a => exact .inr ⟨a, rfl, h⟩
  | error e' =>
    cases h
    exact .inl rfl

/-- Of two computations, one after the other, each raises errors of the kind. -/
theorem Raises.bind {x : Serving τ α} {f : α → Serving τ β} (h : Raises E x)
    (hf : ∀ a, Raises E (f a)) : Raises E (x >>= f) := by
  intro w e w' hw
  rcases of_bind_eq_error hw with hw | ⟨a, w₁, -, hw⟩
  · exact h w e w' hw
  · exact hf a w₁ e w' hw

/-- Something that is looked up. -/
theorem raises_lift {x : Except ServeError α} (h : ∀ e, x = .error e → ∀ w, E e w) :
    Raises E (liftM x : Serving τ α) := by
  cases x with
  | ok a => exact raises_pure a
  | error e => exact raises_throw (h e rfl)

end Serving

end

/-! ## Arguments -/

/-- A relation between computations that every result has to itself, and that is kept by doing one
computation after another. -/
structure Congruence {τ σ : Type} (Rel : (α : Type) → Serving τ α → Serving σ α → Prop) : Prop where
  pure : ∀ {α : Type} (a : α), Rel α (Pure.pure a) (Pure.pure a)
  bind : ∀ {α β : Type} {x : Serving τ α} {y : Serving σ α} {f : α → Serving τ β}
    {g : α → Serving σ β}, Rel α x y → (∀ a, Rel β (f a) (g a)) → Rel β (x >>= f) (y >>= g)

/-- The value of a variable, or of something else if it is not set. -/
def Serving.envOr {τ : Type} (key : String) (fallback : Serving τ Value) : Serving τ Value := do
  match ← Serving.envValue? key with
  | some s => return .str s
  | none => fallback

/-- What evaluating arguments asks for, other than services, is related. -/
structure Congruence.LooksUp {τ σ : Type} (Rel : (α : Type) → Serving τ α → Serving σ α → Prop)
    (r : Registry τ) (r' : Registry σ) : Prop where
  constant : ∀ name, Rel Value (liftM (r.constant name)) (liftM (r'.constant name))
  envOr : ∀ (key : String) {x : Serving τ Value} {y : Serving σ Value}, Rel Value x y →
    Rel Value (Serving.envOr key x) (Serving.envOr key y)
  unset : ∀ key, Rel Value (Serving.envOr key (throw (.missingEnv key)))
    (Serving.envOr key (throw (.missingEnv key)))
  closure : ∀ (source : String) {α : Type} {x : Serving τ α} {y : Serving σ α}, Rel α x y →
    Rel α (liftM (r.closure source) >>= fun _ => x) (liftM (r'.closure source) >>= fun _ => y)

namespace Container

section
variable {τ σ : Type} {Rel : (α : Type) → Serving τ α → Serving σ α → Prop} {r : Registry τ}
  {r' : Registry σ} {get : String → Serving τ Instance} {get' : String → Serving σ Instance}

/-- The values of items are related if the items are. -/
theorem itemValues_related (hRel : Congruence Rel) {es : List (Option ArrayKey × Argument)}
    (h : ∀ e ∈ es, Rel _ (value r get e.2) (value r' get' e.2)) :
    Rel _ (itemValues r get es) (itemValues r' get' es) := by
  induction es with
  | nil => simp only [itemValues]; exact hRel.pure _
  | cons e rest ih =>
    simp only [itemValues]
    exact hRel.bind (h e (.head _)) fun _ =>
      hRel.bind (ih fun e he => h e (.tail _ he)) fun _ => hRel.pure _

/-- The values of entries are related if the entries are. -/
theorem entryValues_related (hRel : Congruence Rel) {es : List (Option ArrayKey × Argument)}
    (position : Nat) (h : ∀ e ∈ es, Rel _ (value r get e.2) (value r' get' e.2)) :
    Rel _ (entryValues r get position es) (entryValues r' get' position es) := by
  induction es generalizing position with
  | nil => simp only [entryValues]; exact hRel.pure _
  | cons e rest ih =>
    simp only [entryValues]
    exact hRel.bind (h e (.head _)) fun _ =>
      hRel.bind (ih (position + 1) fun e he => h e (.tail _ he)) fun _ => hRel.pure _

/-- The values of named arguments are related if the arguments are. -/
theorem argValues_related (hRel : Congruence Rel) {args : List (String × Argument)}
    (h : ∀ p ∈ args, Rel _ (value r get p.2) (value r' get' p.2)) :
    Rel _ (argValues r get args) (argValues r' get' args) := by
  induction args with
  | nil => simp only [argValues]; exact hRel.pure _
  | cons p rest ih =>
    simp only [argValues]
    exact hRel.bind (h p (.head _)) fun _ =>
      hRel.bind (ih fun p hp => h p (.tail _ hp)) fun _ => hRel.pure _

/-- Evaluating an argument gets nothing but what it refers to. -/
theorem value_related (hRel : Congruence Rel) (hr : Congruence.LooksUp Rel r r') {a : Argument}
    (h : ∀ z, a.Refers z → Rel _ (get z) (get' z)) : Rel _ (value r get a) (value r' get' a) := by
  induction a using Argument.recData with
  | literal v => simp only [value]; exact hRel.pure _
  | constant name => simp only [value]; exact hr.constant name
  | env key f ih =>
    simp only [value]
    cases f with
    | none => simp only [fallbackValue]; exact hr.unset key
    | some a =>
      simp only [fallbackValue]
      exact hr.envOr key (ih a rfl fun z hz => h z (.env hz))
  | service id => simp only [value]; exact hRel.bind (h id .service) fun _ => hRel.pure _
  | array es ih =>
    have hes := fun e he => ih e he fun z hz => h z (.entry he hz)
    simp only [value]
    split
    · exact hRel.bind (itemValues_related hRel hes) fun _ => hRel.pure _
    · exact hRel.bind (entryValues_related hRel 0 hes) fun _ => hRel.pure _
  | closure source args ih =>
    have hargs := fun p hp => ih p hp fun z hz => h z (.arg hp hz)
    simp only [value]
    exact hr.closure source (hRel.bind (argValues_related hRel hargs) fun _ => hRel.pure _)

end

end Container

/-! ## Going down -/

open Relation (TransGen)

namespace ContainerPlan

/-- The services passed on the way down to an identifier. -/
structure Passed (p : ContainerPlan) (seen : List String) (id : String) : Prop where
  nodup : seen.Nodup
  services : seen ⊆ p.services.map (·.id)
  reaches : ∀ u ∈ seen, TransGen p.Refers u id

namespace Passed

variable {p : ContainerPlan} {seen trail : List String} {id z : String} {s : Construction}
  {arg : String × Argument}

/-- At the start no service was passed. -/
theorem nil : Passed p [] id :=
  ⟨.nil, List.nil_subset _, List.forall_mem_nil _⟩

/-- The way down to what an argument of the next service refers to. -/
theorem push (hp : p.Coherent) (h : Passed p seen id) (hl : p.Leads id trail s)
    (harg : arg ∈ s.args) (hz : arg.2.Refers z) : Passed p (s.id :: seen) z := by
  have hreach : ∀ u ∈ seen, TransGen p.Refers u s.id :=
    fun u hu => (h.reaches u hu).trans_left hl.reaches
  have hstep : p.Refers s.id z := .service hl.service_mem harg hz
  refine ⟨List.nodup_cons.2 ⟨fun hmem => hp.acyclic _ (hreach _ hmem), h.nodup⟩,
    List.cons_subset.2 ⟨List.mem_map_of_mem hl.service_mem, h.services⟩, fun u hu => ?_⟩
  rcases List.mem_cons.1 hu with rfl | hu
  · exact .single hstep
  · exact (hreach u hu).tail hstep

/-- No more services can have been passed than there are. -/
theorem length_le (h : Passed p seen id) : seen.length ≤ p.services.length := by
  have hlen := (h.nodup.subperm h.services).length_le
  rwa [List.length_map] at hlen

end Passed

/-- What holds of an identifier if it holds of all that the arguments of its service refer to holds
of all planned identifiers. -/
theorem Coherent.induct {p : ContainerPlan} (hp : p.Coherent)
    {P : String → Prop}
    (h : ∀ id s, p.resolve? id = some s → (∀ arg ∈ s.args, ∀ z, arg.2.Refers z → P z) → P id)
    {id : String} (hid : p.has id = true) : P id := by
  suffices hroom : ∀ room seen id, p.has id = true → Passed p seen id →
      p.services.length < room + seen.length → P id from
    hroom (p.services.length + 1) [] id hid .nil (by simp)
  intro room
  induction room with
  | zero =>
    intro seen id _ hseen hroom
    have hlen := hseen.length_le
    omega
  | succ room ih =>
    intro seen id hid hseen hroom
    obtain ⟨s, hs⟩ := Option.isSome_iff_exists.1 (hp.resolves id hid)
    obtain ⟨trail, hl⟩ := ContainerPlan.resolve?_eq_some_iff.1 hs
    refine h id s hs fun arg harg z hz => ?_
    refine ih _ z (hp.closed _ _ (.service hl.service_mem harg hz)) (hseen.push hp hl harg hz) ?_
    rw [List.length_cons]
    omega

end ContainerPlan

namespace Container

/-! ## The number of steps -/

section
variable {τ : Type} {c : Container τ} {get get' : String → Serving τ Instance} {s : Construction}
  {seen : List String} {id : String}

/-- Building a service gets nothing but what its arguments refer to. -/
theorem construct_congr (h : ∀ arg ∈ s.args, ∀ z, arg.2.Refers z → get z = get' z) :
    c.construct get s = c.construct get' s := by
  have heq : Congruence fun α => @Eq (Serving τ α) :=
    ⟨fun _ => rfl, fun h hf => by rw [h, funext hf]⟩
  have hlooksUp : Congruence.LooksUp (fun α => @Eq (Serving τ α)) c.registry c.registry :=
    ⟨fun _ => rfl, fun _ _ _ h => by rw [h], fun _ => rfl, fun _ _ _ _ h => by rw [h]⟩
  have hargs : argValues c.registry get s.args = argValues c.registry get' s.args :=
    argValues_related heq fun arg harg => value_related heq hlooksUp (h arg harg)
  simp only [construct, hargs]

/-- Answering a request gets nothing but what the arguments refer to. -/
theorem answer_congr (h : ∀ arg ∈ s.args, ∀ z, arg.2.Refers z → get z = get' z) :
    c.answer get s = c.answer get' s := by
  simp only [answer, construct_congr h]

/-- As many steps as there are services that were not passed are enough: more change nothing. -/
theorem getWithin_eq (hp : c.plan.Coherent) {steps steps' : Nat} (hid : c.plan.has id = true)
    (hseen : c.plan.Passed seen id) (hroom : c.plan.services.length < steps + seen.length)
    (hroom' : c.plan.services.length < steps' + seen.length) :
    c.getWithin steps id = c.getWithin steps' id := by
  have hlen := hseen.length_le
  induction steps generalizing steps' seen id with
  | zero => omega
  | succ steps ih =>
    obtain ⟨steps', rfl⟩ : ∃ k, steps' = k + 1 := ⟨steps' - 1, by omega⟩
    obtain ⟨s, hs⟩ := Option.isSome_iff_exists.1 (hp.resolves id hid)
    obtain ⟨trail, hl⟩ := ContainerPlan.resolve?_eq_some_iff.1 hs
    simp only [getWithin, hs]
    refine answer_congr fun arg harg z hz => ?_
    have hpushed := hseen.push hp hl harg hz
    refine ih (hp.closed _ _ (.service hl.service_mem harg hz)) hpushed ?_ ?_ hpushed.length_le
    all_goals
      rw [List.length_cons]
      omega

/-- A service is got by getting those that its arguments name. -/
theorem get_eq_answer (hp : c.plan.Coherent) (hs : c.plan.resolve? id = some s) :
    c.get id = c.answer c.get s := by
  obtain ⟨trail, hl⟩ := ContainerPlan.resolve?_eq_some_iff.1 hs
  have hroom : c.plan.services.length < c.depth := Nat.lt_succ_self _
  simp only [get, depth, getWithin, hs]
  refine answer_congr fun arg harg z hz => ?_
  have hz' := hp.closed _ _ (.service hl.service_mem harg hz)
  refine getWithin_eq hp hz' (.push hp .nil hl harg hz) ?_ ?_
  all_goals
    rw [List.length_singleton]
    omega

end

/-! ## What fails -/

/-- A service of the plan was being built: its arguments were evaluated, and the constructor or
factory that was called with their values raised the error. -/
def Raised {τ : Type} (c : Container τ) (e : ServeError) (w : World τ) : Prop :=
  ∃ s ∈ c.plan.services, ∃ f args v v', c.registry.builder s = .ok f ∧
    argValues c.registry c.get s.args v = (.ok args, v') ∧ call f ⟨args⟩ v' = (.error e, w)

/-- The errors that the application is to blame for, with the states they leave: a constructor or a
factory of a planned service, a constant or a closure that is not registered; a variable that is not
set; or an error that a constructor or a factory raised. -/
inductive OfApplication {τ : Type} (c : Container τ) : ServeError → World τ → Prop
  | missingConstructor {s : Construction} {w : World τ} : s ∈ c.plan.services → s.factory? = none →
      c.registry.constructors.lookup s.className = none →
      OfApplication c (.missingConstructor s.className) w
  | missingFactory {s : Construction} {f : Factory} {w : World τ} : s ∈ c.plan.services →
      s.factory? = some f → c.registry.factories.lookup (f.owner ++ "::" ++ f.method) = none →
      OfApplication c (.missingCallable (f.owner ++ "::" ++ f.method)) w
  | missingClosure {name : String} {w : World τ} : c.registry.closures.lookup name = none →
      OfApplication c (.missingCallable name) w
  | missingConstant {name : String} {w : World τ} : c.registry.constants.lookup name = none →
      OfApplication c (.missingConstant name) w
  | missingEnv {key : String} {w : World τ} : w.env.get? key = none →
      OfApplication c (.missingEnv key) w
  | raised {e : ServeError} {w : World τ} : c.Raised e w → OfApplication c e w

/-- The handle of a container to itself leads nowhere, and a service that is the container was asked
for. -/
def Lost {τ : Type} (c : Container τ) (e : ServeError) : Prop :=
  c.isShared = false ∧ ∃ s ∈ c.plan.services, s.origin = .builtin .container ∧
    e = .serviceNotFound s.id

/-- The errors of getting a planned service, with the states they leave. -/
def Fails {τ : Type} (c : Container τ) (e : ServeError) (w : World τ) : Prop :=
  c.OfApplication e w ∨ c.Lost e

section
variable {τ : Type} {c : Container τ} {s : Construction} {id : String} {e : ServeError}
  {w : World τ}

/-- What is looked up in the registry and is not there is not registered. -/
theorem entry_raises {α : Type} {missing : String → ServeError} {entries : List (String × α)}
    {name : String} {e : ServeError} (h : Registry.entry missing entries name = .error e) :
    entries.lookup name = none ∧ e = missing name := by
  rw [Registry.entry] at h
  split at h
  · cases h
  · next hl => cases h; exact ⟨hl, rfl⟩

/-- What is found in the registry is registered. -/
theorem entry_found {α : Type} {missing : String → ServeError} {entries : List (String × α)}
    {name : String} {a : α} (h : Registry.entry missing entries name = .ok a) :
    entries.lookup name = some a := by
  rw [Registry.entry] at h
  split at h
  · next hl => cases h; exact hl
  · cases h

/-- The function that builds a planned service is there, or the application did not register it. -/
theorem OfApplication.of_builder (hs : s ∈ c.plan.services) (h : c.registry.builder s = .error e) :
    c.OfApplication e w := by
  rw [Registry.builder] at h
  split at h
  · next f hf =>
    obtain ⟨hl, rfl⟩ := entry_raises h
    exact .missingFactory hs hf hl
  · next hf =>
    obtain ⟨hl, rfl⟩ := entry_raises h
    exact .missingConstructor hs hf hl

/-- That errors are of a kind is kept from one computation to the next. -/
theorem raises_congruence {E : ServeError → World τ → Prop} :
    Congruence fun _ x (_ : Serving τ _) => Serving.Raises E x :=
  ⟨Serving.raises_pure, Serving.Raises.bind⟩

/-- Only the application is to blame for what is not there. -/
theorem raises_looksUp (c : Container τ) :
    Congruence.LooksUp (fun _ x (_ : Serving τ _) => Serving.Raises c.Fails x) c.registry
      c.registry where
  constant name := by
    refine Serving.raises_lift fun e he w => ?_
    obtain ⟨hl, rfl⟩ := entry_raises he
    exact .inl (.missingConstant hl)
  envOr key x _ hx := by
    refine (Serving.raises_of_ok fun _ => rfl).bind fun v? => ?_
    cases v? with
    | some s => exact Serving.raises_pure _
    | none => exact hx
  unset key := by
    intro w e w' h
    rw [Serving.envOr, serving_bind] at h
    cases hv : w.env.get? key with
    | some s =>
      simp only [Serving.envValue?, hv] at h
      cases h
    | none =>
      simp only [Serving.envValue?, hv] at h
      cases h
      exact .inl (.missingEnv hv)
  closure source _ _ _ hx := by
    refine (Serving.raises_lift fun e he w => ?_).bind fun _ => hx
    obtain ⟨hl, rfl⟩ := entry_raises he
    exact .inl (.missingClosure hl)

/-- Building a planned service fails where getting what its arguments refer to does, or where the
function that builds it is missing or fails, or where the container itself is not there. -/
theorem construct_raises (hs : s ∈ c.plan.services)
    (h : ∀ arg ∈ s.args, ∀ z, arg.2.Refers z → Serving.Raises c.Fails (c.get z)) :
    Serving.Raises c.Fails (c.construct c.get s) := by
  have hargs : Serving.Raises c.Fails (argValues c.registry c.get s.args) := by
    refine @argValues_related _ _ _ c.registry c.registry c.get c.get raises_congruence _
      fun arg harg => ?_
    exact @value_related _ _ _ c.registry c.registry c.get c.get raises_congruence
      (raises_looksUp c) _ (h arg harg)
  have hbuilt : Serving.Raises c.Fails
      (argValues c.registry c.get s.args >>= assemble c.registry s) := by
    intro v e w hw
    rcases Serving.of_bind_eq_error hw with hw | ⟨args, v', hv, hw⟩
    · exact hargs v e w hw
    · rcases Serving.of_lift_bind_eq_error hw with hf | ⟨f, hf, hw⟩
      · exact .inl (.of_builder hs hf)
      · exact .inl (.raised ⟨s, hs, f, args, v, v', hf, hv, hw⟩)
  rw [construct]
  split
  · next horigin =>
    split
    · exact Serving.raises_pure _
    · next hshared =>
      exact Serving.raises_throw fun _ => .inr ⟨by simpa using hshared, s, hs, horigin, rfl⟩
  · exact Serving.raises_pure _
  · exact hbuilt
  · exact hbuilt

/-- Answering a request for a planned service fails only where building it does. -/
theorem answer_raises (hs : s ∈ c.plan.services)
    (h : ∀ arg ∈ s.args, ∀ z, arg.2.Refers z → Serving.Raises c.Fails (c.get z)) :
    Serving.Raises c.Fails (c.answer c.get s) := by
  have hbuild := construct_raises hs h
  rw [answer]
  split
  · exact hbuild
  split
  · refine (Serving.raises_of_ok fun _ => rfl).bind fun found => ?_
    cases found with
    | some i => exact Serving.raises_pure i
    | none =>
      refine hbuild.bind fun i w _ _ h => ?_
      simp only [Serving.remember] at h
      split at h <;> cases h
  · exact hbuild

/-- Getting a planned service fails by the application, or for want of the container itself. -/
theorem get_raises (hp : c.plan.Coherent) (hid : c.plan.has id = true) :
    Serving.Raises c.Fails (c.get id) := by
  refine hp.induct (P := fun id => Serving.Raises c.Fails (c.get id)) (fun id s hs ih => ?_) hid
  obtain ⟨trail, hl⟩ := ContainerPlan.resolve?_eq_some_iff.1 hs
  rw [get_eq_answer hp hs]
  exact answer_raises hl.service_mem ih

end

end Container

end Wiring
