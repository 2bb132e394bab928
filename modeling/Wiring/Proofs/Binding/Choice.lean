import Wiring.Binding.Choice
import Wiring.Proofs.ServiceGraph.Resolve

/-!
# The bindings that are chosen

The bindings that a parameter's own traits give are of few kinds: a value, a lookup with a value
behind it, or links for services with or without a skip at the end (`Binding.Links`). In all of them
a skip follows a service, so they pass the check of declared bindings.

A parameter with a default, a hint for the environment or the null value among its values gets a
binding that is satisfied even if nothing can be built (`BindingChoice.satisfiable_choose?`). Such a
binding is lowered to a value by every walk (`ServiceGraph.lower_of_satisfiable`), and whether its
service is planned depends on the other parameters only (`ServiceGraph.mem_planned_iff`).
-/

namespace Wiring

/-! ## Links for services -/

namespace Binding

/-- One or more service links, at whose end the parameter may be left out. -/
inductive Links : Binding → Prop
  | last {id : String} : Links (.service id none)
  | skip {id : String} : Links (.service id (some .skip))
  | next {id : String} {b : Binding} : Links b → Links (.service id (some b))

section
variable {b : Binding}

/-- A chain that is made link by link is legal. -/
theorem Links.check (h : b.Links) : b.check = .ok () := by
  induction h with
  | last | skip => rfl
  | next hb ih => cases hb <;> exact ih

/-- A skip goes to the end, unless there is one. -/
theorem Links.or_skip (h : b.Links) : (b.or .skip).Links := by
  induction h with
  | last | skip => exact .skip
  | next _ ih => exact .next ih

/-- With a skip at the end nothing has to be built. -/
theorem Links.satisfiable_or_skip (h : b.Links) (C : Set String) : (b.or .skip).Satisfiable C := by
  induction h with
  | last | skip => exact .fallback rfl .skip
  | next _ ih => exact .fallback rfl ih

end

end Binding

/-! ## The choice -/

namespace BindingChoice

section
variable {c : BindingChoice} {overrides : List (String × Binding)} {p : Parameter} {b : Binding}

/-- The links that hints and types give are a chain. -/
theorem links_of_links? (h : c.links? p = some b) : b.Links := by
  rw [links?] at h
  split at h
  · split at h <;> cases h
    · exact .next .last
    · exact .last
  · split at h <;> cases h
    exact .last

/-- The links that a type gives are a chain. -/
theorem links_of_typeChain? (h : c.typeChain? p = some b) : b.Links := by
  obtain ⟨links, hlinks, rfl⟩ := Option.map_eq_some_iff.1 h
  split
  · exact (links_of_links? hlinks).or_skip
  · exact links_of_links? hlinks

/-- The links that an injection gives are a chain. -/
theorem links_injected (c : BindingChoice) (p : Parameter) (id : String) :
    (c.injected p id).Links := by
  rw [injected]
  split
  · next hchain => exact .next (links_of_typeChain? hchain)
  · split
    · exact .skip
    · exact .last

/-- The ways to choose a binding, each where the ones before it do not apply. -/
inductive Chooses (c : BindingChoice) (overrides : List (String × Binding)) (p : Parameter) :
    Option Binding → Prop
  | override {b : Binding} : overrides.lookup p.name = some b → Chooses c overrides p (some b)
  | env {key : String} : p.envHint? = some key → Chooses c overrides p
      (some (.env key ((p.default?.map DefaultValue.binding).or (nullBinding? p))))
  | default {v : DefaultValue} : p.default? = some v → Chooses c overrides p (some v.binding)
  | injected {id : String} : p.envHint? = none → p.default? = none →
      Chooses c overrides p (some (c.injected p id))
  | byType : p.envHint? = none → p.default? = none →
      Chooses c overrides p ((c.typeChain? p).or (nullBinding? p))

/-- The choice follows its rules one by one. -/
theorem choose?_chooses (c : BindingChoice) (overrides : List (String × Binding)) (p : Parameter) :
    Chooses c overrides p (c.choose? overrides p) := by
  rw [choose?]
  cases hlookup : overrides.lookup p.name with
  | some b => exact .override hlookup
  | none =>
    cases henv : p.envHint? with
    | some key => exact .env henv
    | none =>
      cases hdefault : p.default? with
      | some v => exact .default hdefault
      | none =>
        cases hinject : p.injectHint? with
        | some id => exact .injected henv hdefault
        | none => exact .byType henv hdefault

/-- The binding of a default is legal. -/
theorem check_default (v : DefaultValue) : v.binding.check = .ok () := by
  cases v <;> rfl

/-- The binding for a parameter that may be null is the literal null. -/
theorem nullBinding?_eq_some (h : nullBinding? p = some b) : b = .literal .null := by
  rw [nullBinding?] at h
  split at h
  · exact (Option.some.inj h).symm
  · cases h

/-- Behind a lookup there is the default, or the null value. -/
theorem check_env (key : String) : (Binding.env key
    ((p.default?.map DefaultValue.binding).or (nullBinding? p))).check = .ok () := by
  cases p.default? with
  | some v => cases v <;> rfl
  | none =>
    rw [nullBinding?]
    split <;> rfl

/-- A chosen binding is legal if the declared ones are. -/
theorem check_choose? (hoverrides : ∀ o ∈ overrides, o.2.check = .ok ())
    (h : c.choose? overrides p = some b) : b.check = .ok () := by
  have hchooses := choose?_chooses c overrides p
  rw [h] at hchooses
  generalize hb : some b = chosen at hchooses
  cases hchooses with
  | override hlookup =>
    cases hb
    exact hoverrides _ (mem_of_lookup hlookup)
  | env _ => cases hb; exact check_env _
  | default _ => cases hb; exact check_default _
  | injected _ _ => cases hb; exact (links_injected ..).check
  | byType _ _ =>
    rcases Option.or_eq_some_iff.1 hb.symm with hchain | ⟨-, hnull⟩
    · exact (links_of_typeChain? hchain).check
    · rw [nullBinding?_eq_some hnull]
      rfl

/-- The links that the type of a parameter gives are always satisfied if it may be null. -/
theorem satisfiable_typeChain? (hp : p.nullable = true) (h : c.typeChain? p = some b)
    (C : Set String) : b.Satisfiable C := by
  obtain ⟨links, hlinks, rfl⟩ := Option.map_eq_some_iff.1 h
  rw [if_pos hp]
  exact (links_of_links? hlinks).satisfiable_or_skip C

/-- A parameter that is not declared gets a binding that does not need anything to be built, if it
may be null, has a default or is read from the environment. -/
theorem satisfiable_choose? (hlookup : overrides.lookup p.name = none)
    (hp : p.nullable = true ∨ p.default?.isSome ∨ p.envHint?.isSome) :
    ∃ b, c.choose? overrides p = some b ∧ ∀ C, b.Satisfiable C := by
  have hchooses := choose?_chooses c overrides p
  generalize c.choose? overrides p = chosen at hchooses
  cases hchooses with
  | override h => rw [hlookup] at h; cases h
  | env _ => exact ⟨_, rfl, fun _ => .env⟩
  | @default v _ =>
    refine ⟨_, rfl, fun _ => ?_⟩
    cases v with
    | literal => exact .literal
    | constant => exact .constant
  | @injected id henv hdefault =>
    have hnull : p.nullable = true := by simpa [henv, hdefault] using hp
    refine ⟨_, rfl, fun C => ?_⟩
    rw [injected]
    split
    · next hchain => exact .fallback rfl (satisfiable_typeChain? hnull hchain C)
    · rw [if_pos hnull]
      exact .fallback rfl .skip
  | byType henv hdefault =>
    have hnull : p.nullable = true := by simpa [henv, hdefault] using hp
    cases hchain : c.typeChain? p with
    | some b => exact ⟨b, rfl, satisfiable_typeChain? hnull hchain⟩
    | none => exact ⟨.literal .null, by simp [nullBinding?, hnull], fun _ => .literal⟩

end

end BindingChoice

/-! ## What needs nothing to be built -/

namespace ServiceGraph

section
variable {visit : String → WalkM Visit}

/-- A list is lowered to values if each member is, whatever was walked before. -/
theorem lowerEach_of_forall {κ ε : Type} (wrap : κ → Blame → ε) {es : List (κ × Binding)}
    (h : ∀ e ∈ es, ∀ w, ∃ a, (lower visit e.2 w).1.1 = .ok a) (o : Option Nat) (w : Walk) :
    ∃ values, (lowerEach visit wrap o es w).1.1 = .ok values := by
  induction es generalizing o w with
  | nil => exact ⟨[], rfl⟩
  | cons e rest ih =>
    obtain ⟨k, b⟩ := e
    obtain ⟨a, ha⟩ := h _ (.head _) w
    simp only [lowerEach, bind_apply]
    generalize lower visit b w = x at ha
    obtain ⟨⟨r, o'⟩, w'⟩ := x
    cases ha
    obtain ⟨values, hvalues⟩ := ih (fun e he => h e (.tail _ he)) (lowest o o') w'
    exact ⟨keep k a values, by simp only [bind_apply, pure_apply, hvalues]; rfl⟩

/-- A link that fails makes no difference if its fallback is lowered to a value. -/
theorem fallThrough_of_forall {b : Binding} (h : ∀ w, ∃ a, (lower visit b w).1.1 = .ok a)
    (blame : Blame) (o : Option Nat) (w : Walk) :
    ∃ a, (fallThrough (lowerFallback visit (some b)) blame o w).1.1 = .ok a := by
  obtain ⟨a, ha⟩ := h w
  simp only [lowerFallback, fallThrough, bind_apply]
  generalize lower visit b w = x at ha
  obtain ⟨⟨r, o'⟩, w'⟩ := x
  cases ha
  exact ⟨a, rfl⟩

/-- A lookup is lowered to a value whatever its fallback comes to. -/
theorem lower_env (key : String) (f : Option Binding) (w : Walk) :
    ∃ a, (lower visit (.env key f) w).1.1 = .ok a := by
  cases f with
  | none => exact ⟨_, by simp only [lower, lowerFallback]; rfl⟩
  | some b =>
    simp only [lower, lowerFallback, bind_apply]
    obtain ⟨⟨r, o⟩, w'⟩ := lower visit b w
    cases r <;> exact ⟨_, rfl⟩

/-- A chain is lowered to a value if the chain behind its head is. -/
theorem lower_of_fallback {b b' : Binding} (hf : b.fallback? = some b')
    (h : ∀ w, ∃ a, (lower visit b' w).1.1 = .ok a) (w : Walk) :
    ∃ a, (lower visit b w).1.1 = .ok a := by
  cases b with
  | literal | constant | skip => cases hf
  | env key f => exact lower_env key f w
  | service id f =>
    cases hf
    simp only [lower, bind_apply]
    cases (visit id w).1.failure? with
    | none => exact ⟨_, rfl⟩
    | some cause => exact fallThrough_of_forall h _ _ _
  | array es f =>
    cases hf
    simp only [lower, bind_apply]
    obtain ⟨⟨r, o⟩, w'⟩ := lowerEntries visit none es w
    cases r with
    | ok values => exact ⟨_, rfl⟩
    | error blame => exact fallThrough_of_forall h _ _ _
  | closure s ps f =>
    cases hf
    simp only [lower, bind_apply]
    obtain ⟨⟨r, o⟩, w'⟩ := lowerParams visit none ps w
    cases r with
    | ok values => exact ⟨_, rfl⟩
    | error blame => exact fallThrough_of_forall h _ _ _

/-- A binding that needs nothing to be built is lowered to a value, or its parameter left out, by
every walk and however identifiers are visited. -/
theorem lower_of_satisfiable {b : Binding} (h : b.Satisfiable ∅) (w : Walk) :
    ∃ a, (lower visit b w).1.1 = .ok a := by
  induction h generalizing w with
  | literal | constant | skip => exact ⟨_, by simp only [lower]; rfl⟩
  | service hid => cases hid
  | env => exact lower_env _ _ w
  | @array es _ _ ih =>
    obtain ⟨values, hvalues⟩ := lowerEach_of_forall (fun _ blame => blame) ih none w
    simp only [lower, bind_apply, lowerEntries_eq]
    generalize lowerEach visit (fun _ blame => blame) none es w = x at hvalues
    obtain ⟨⟨r, o⟩, w'⟩ := x
    cases hvalues
    exact ⟨_, rfl⟩
  | @closure s ps _ _ ih =>
    obtain ⟨values, hvalues⟩ := lowerEach_of_forall (fun _ blame => blame) ih none w
    simp only [lower, bind_apply, lowerParams_eq]
    generalize lowerEach visit (fun _ blame => blame) none ps w = x at hvalues
    obtain ⟨⟨r, o⟩, w'⟩ := x
    cases hvalues
    exact ⟨_, rfl⟩
  | fallback hf _ ih => exact lower_of_fallback hf ih w

end

section
variable {services : ServiceMap} {id : String} {s : ServiceDescriptor}

/-- A service is planned if the plan satisfies all its parameters. -/
theorem mem_planned_iff (he : services.get? id = some (.service s)) :
    id ∈ planned services ↔ ∀ p ∈ s.params, p.2.Satisfiable (planned services) := by
  rw [planned_eq, ← mem_rule_service he, rule_constructible]

/-- A parameter that is satisfied anyway has no part in whether its service is planned. -/
theorem mem_planned_iff_of_satisfiable {before after : List (String × Binding)}
    {p : String × Binding} (he : services.get? id = some (.service s))
    (hparams : s.params = before ++ p :: after) (hp : p.2.Satisfiable (planned services)) :
    id ∈ planned services ↔ ∀ q ∈ before ++ after, q.2.Satisfiable (planned services) := by
  rw [mem_planned_iff he, hparams]
  simp only [List.forall_mem_append, List.forall_mem_cons, hp, true_and]

end

end ServiceGraph

/-! ## Parameters that never keep a service from being planned -/

namespace BindingChoice

/-- A chosen binding is legal if the declared ones are. A parameter that is not declared, and that
may be null, has a default or is read from the environment, does get a binding. By every walk
through any map, under any stack, it is lowered to a value or its parameter left out, and so the
other parameters alone decide whether the service is planned. -/
theorem choose?_certain (c : BindingChoice) (overrides : List (String × Binding)) (p : Parameter)
    (hoverrides : ∀ o ∈ overrides, o.2.check = .ok ()) :
    (∀ b, c.choose? overrides p = some b → b.check = .ok ()) ∧
      (overrides.lookup p.name = none →
        (p.nullable = true ∨ p.default?.isSome ∨ p.envHint?.isSome) →
        ∃ b, c.choose? overrides p = some b ∧
          (∀ services room stack w, ∃ a,
            (ServiceGraph.lower (ServiceGraph.visit services room stack) b w).1.1 = .ok a) ∧
          ∀ services id s before after, services.get? id = some (.service s) →
            s.params = before ++ (p.name, b) :: after →
            (id ∈ ServiceGraph.planned services ↔
              ∀ q ∈ before ++ after, q.2.Satisfiable (ServiceGraph.planned services))) := by
  refine ⟨fun b => check_choose? hoverrides, fun hlookup hp => ?_⟩
  obtain ⟨b, hb, hsat⟩ := satisfiable_choose? hlookup hp
  refine ⟨b, hb, fun services room stack w => ServiceGraph.lower_of_satisfiable (hsat ∅) w, ?_⟩
  intro services id s before after he hparams
  exact ServiceGraph.mem_planned_iff_of_satisfiable he hparams (hsat _)

/-- A page that is cached if it can be: by a fast cache, or by a cache that needs the page. -/
def cachedPage : ServiceMap where
  entries := [
    ("Page", .service { className := "Page", params := [
      ("cache", .service "FastCache" <| some <| .service "cache" <| some <|
        .service "Cache" (some .skip)),
      ("clock", .service "Clock" none)] }),
    ("Cache", .service { className := "Cache", params := [("page", .service "Page" none)] }),
    ("Clock", .service { className := "Clock" })]
  nodup := by decide

/-- The cache of the page gets the binding that the map has for it, which is always satisfied:
whether the page is planned depends on the clock alone. -/
theorem choose?_certain_cachedPage :
    let choice : BindingChoice := ⟨cachedPage, ["cache"]⟩
    let overrides := [("dsn", Binding.env "DSN" (some (.literal .null)))]
    let p : Parameter :=
      { name := "cache", type := .named "Cache", nullable := true, hints := [.inject "FastCache"] }
    (∀ o ∈ overrides, o.2.check = .ok ()) ∧ overrides.lookup p.name = none ∧ p.nullable = true ∧
      ∃ b s, choice.choose? overrides p = some b ∧ b.check = .ok () ∧
        (∃ a, (ServiceGraph.lower (ServiceGraph.visit cachedPage 3 ["Page"]) b {}).1.1 = .ok a) ∧
        cachedPage.get? "Page" = some (.service s) ∧
        s.params = [("cache", b), ("clock", .service "Clock" none)] ∧
        ("Page" ∈ ServiceGraph.planned cachedPage ↔
          (Binding.service "Clock" none).Satisfiable (ServiceGraph.planned cachedPage)) := by
  intro choice overrides p
  have hoverrides : ∀ o ∈ overrides, o.2.check = .ok () := by
    intro o ho
    rw [List.mem_singleton.1 ho]
    rfl
  have hlookup : overrides.lookup p.name = none := by decide
  obtain ⟨hcheck, hcertain⟩ := choose?_certain choice overrides p hoverrides
  obtain ⟨b, hb, hlower, hplanned⟩ := hcertain hlookup (.inl rfl)
  refine ⟨hoverrides, hlookup, rfl, b, _, hb, hcheck b hb, hlower .., rfl, by cases hb; rfl, ?_⟩
  cases hb
  rw [hplanned cachedPage "Page" _ [] _ rfl rfl]
  exact List.forall_mem_singleton

end BindingChoice

end Wiring
