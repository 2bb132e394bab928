import Wiring.Proofs.Serve.Dispatch

/-!
# Who hears an event

Placing one listener after the other keeps what is said of the groups (`ListenerTable.Grouped`):
there is one for each event that was met, in the order in which events were first met, and it holds
the listeners of its event in their order. Dispatching calls the listeners of a group one after the
other (`ListenerTable.Ran`) until none is left, the event is stopped or a call fails
(`ListenerTable.Ends`), which is what `ListenerTable.runs_hearAll` says of every list of listeners.
Together they say who hears an event of a compiled table (`ListenerTable.dispatch_compile`).
-/

namespace Wiring.ListenerTable

/-! ## Groups -/

section
variable {config : Config} {classes : List ClassDescriptor} {services : ContainerPlan}
  {stoppable : String → Bool} {es : List ListenerEntry} {e : ListenerEntry}
  {gs : List ListenerGroup} {g : ListenerGroup} {table : ListenerTable} {reports : List Diagnostic}

/-- The groups of some listeners: one for each of their events, in the order in which these come
first, with the listeners of its event in their order. -/
structure Grouped (stoppable : String → Bool) (es : List ListenerEntry) (gs : List ListenerGroup) :
    Prop where
  events : gs.map (·.event) = (es.map (·.event)).eraseDups
  stoppable : ∀ g ∈ gs, g.stoppable = stoppable g.event
  listeners : ∀ g ∈ gs, g.listeners = es.filter (·.event = g.event)

/-- No event has two groups. -/
theorem Grouped.nodup (h : Grouped stoppable es gs) : (gs.map (·.event)).Nodup := by
  rw [h.events]
  exact nodup_eraseDups _

/-- A listener is added to the group of its event, or to a new one. -/
theorem place_eq (stoppable : String → Bool) (e : ListenerEntry) (gs : List ListenerGroup) :
    place stoppable e gs = changeOrAdd (·.event) e.event
      (fun g => { g with listeners := g.listeners ++ [e] })
        ⟨e.event, stoppable e.event, [e]⟩ gs := by
  induction gs with
  | nil => rfl
  | cons g gs ih => rw [place, changeOrAdd, ih]

/-- The events of the groups stay, and a new one comes last. -/
theorem map_event_place (stoppable : String → Bool) (e : ListenerEntry) (gs : List ListenerGroup) :
    (place stoppable e gs).map (·.event) =
      if e.event ∈ gs.map (·.event) then gs.map (·.event) else gs.map (·.event) ++ [e.event] := by
  rw [place_eq, map_key_changeOrAdd]
  · exact fun _ => rfl
  · rfl

/-- A listener is placed at the end of the group of its event or in a new group, and changes no
other. -/
theorem of_mem_place (hnodup : (gs.map (·.event)).Nodup) (hg : g ∈ place stoppable e gs) :
    (∃ g₀ ∈ gs, g₀.event = e.event ∧ g = { g₀ with listeners := g₀.listeners ++ [e] }) ∨
    (e.event ∉ gs.map (·.event) ∧ g = ⟨e.event, stoppable e.event, [e]⟩) ∨
    g.event ≠ e.event ∧ g ∈ gs := by
  rw [place_eq] at hg
  exact of_mem_changeOrAdd hnodup hg

/-- One more listener leaves the listeners grouped. -/
theorem Grouped.place (h : Grouped stoppable es gs) (e : ListenerEntry) :
    Grouped stoppable (es ++ [e]) (place stoppable e gs) := by
  refine ⟨?_, fun g hg => ?_, fun g hg => ?_⟩
  · rw [map_event_place, h.events, List.map_append, List.map_singleton, eraseDups_concat]
    simp only [List.mem_eraseDups]
  · rcases of_mem_place h.nodup hg with ⟨g₀, hg₀, -, rfl⟩ | ⟨-, rfl⟩ | ⟨-, hg⟩
    · exact h.stoppable g₀ hg₀
    · rfl
    · exact h.stoppable g hg
  · rw [List.filter_append]
    rcases of_mem_place h.nodup hg with ⟨g₀, hg₀, hevent, rfl⟩ | ⟨hnew, rfl⟩ | ⟨hne, hg⟩
    · rw [h.listeners g₀ hg₀, List.filter_cons_of_pos (by simpa using hevent.symm),
        List.filter_nil]
    · have hnone : es.filter (·.event = e.event) = [] := by
        rw [h.events, List.mem_eraseDups] at hnew
        refine List.filter_eq_nil_iff.2 fun e' he' h' => hnew ?_
        exact of_decide_eq_true h' ▸ List.mem_map_of_mem he'
      rw [hnone, List.filter_cons_of_pos (by simp), List.filter_nil]
      rfl
    · rw [List.filter_cons_of_neg (by simpa using Ne.symm hne), List.filter_nil, List.append_nil]
      exact h.listeners g hg

/-- Listeners that are placed one after the other are grouped. -/
theorem grouped_foldl (stoppable : String → Bool) (es : List ListenerEntry) :
    Grouped stoppable es (es.foldl (fun gs e => ListenerTable.place stoppable e gs) []) := by
  induction es using List.reverseRecOn with
  | nil => exact ⟨rfl, nofun, nofun⟩
  | append_singleton es e ih =>
    rw [List.foldl_append]
    exact ih.place e

/-- The group of an event has the listeners of the event; if there are none, there is no group. -/
theorem Grouped.group? (h : Grouped stoppable es table.groups) (type : String) :
    table.group? type = some ⟨type, stoppable type, es.filter (·.event = type)⟩ ∨
    table.group? type = none ∧ es.filter (·.event = type) = [] := by
  cases hgroup : table.group? type with
  | some g =>
    obtain ⟨hg, rfl⟩ := (find?_key_eq_some_iff h.nodup).1 hgroup
    rw [← h.stoppable g hg, ← h.listeners g hg]
    exact .inl rfl
  | none =>
    refine .inr ⟨rfl, List.filter_eq_nil_iff.2 fun e he htype => ?_⟩
    have hevent : type ∈ table.groups.map (·.event) := by
      rw [h.events, List.mem_eraseDups, ← of_decide_eq_true htype]
      exact List.mem_map_of_mem he
    obtain ⟨g, hg, hname⟩ := List.mem_map.1 hevent
    exact List.find?_eq_none.1 hgroup g hg (beq_iff_eq.2 hname)

/-! ## Listeners of a project -/

/-- The listener that a declaration stands for: the declaration names its class and method, and the
method says whether it is static. Of a method that is not known the declaration says it. -/
structure Declares (classes : List ClassDescriptor) (d : ListenerDeclaration) (e : ListenerEntry) :
    Prop where
  event : e.event = d.event
  target : splitTarget d.target = some (e.className, e.method)
  known : ∀ c ∈ classes, c.name = e.className → ∀ m, c.method? e.method = some m →
    e.isStatic = m.isStatic
  unknown : (∀ c ∈ classes, c.name = e.className → c.method? e.method = none) →
    e.isStatic = d.isStatic

/-- Where classes have different names, a class is found by its name. -/
theorem class?_eq_some_iff {c : ClassDescriptor} {name : String}
    (hnames : (classes.map (·.name)).Nodup) :
    class? classes name = some c ↔ c ∈ classes ∧ c.name = name := by
  have hreverse : (classes.reverse.map (·.name)).Nodup := by
    rw [List.map_reverse]
    exact List.nodup_reverse.2 hnames
  rw [class?, find?_key_eq_some_iff hreverse, List.mem_reverse]

/-- The listener of a declaration is the one that it stands for. -/
theorem declares_of_declared {d : ListenerDeclaration} (hnames : (classes.map (·.name)).Nodup)
    (h : declared classes d = .ok e) : Declares classes d e := by
  rw [declared] at h
  split at h
  · cases h
  · next className method htarget =>
    cases h
    refine ⟨rfl, htarget, fun c hc hname m hm => ?_, fun hnone => ?_⟩
    · have hknown : (class? classes className >>= (·.method? method)) = some m := by
        rw [(class?_eq_some_iff hnames).2 ⟨hc, hname⟩]
        exact hm
      rw [hknown]
      rfl
    · have hunknown : (class? classes className >>= (·.method? method)) = none := by
        cases hc : class? classes className with
        | none => rfl
        | some c =>
          obtain ⟨hmem, hname⟩ := (class?_eq_some_iff hnames).1 hc
          exact hnone c hmem hname
      rw [hunknown]
      rfl

/-- The event of a class can be stopped just if the class has the capability. -/
theorem isStoppable_iff (hnames : (classes.map (·.name)).Nodup) (type : String) :
    isStoppable config classes type = true ↔ ∃ c ∈ classes, c.name = type ∧
      c.implements config.capabilities.stoppableEvent = true := by
  rw [isStoppable]
  cases hc : class? classes type with
  | none =>
    refine ⟨nofun, fun ⟨c, hmem, hname, _⟩ => ?_⟩
    rw [(class?_eq_some_iff hnames).2 ⟨hmem, hname⟩] at hc
    cases hc
  | some c =>
    obtain ⟨hmem, hname⟩ := (class?_eq_some_iff hnames).1 hc
    refine ⟨fun h => ⟨c, hmem, hname, h⟩, fun ⟨c', hmem', hname', h⟩ => ?_⟩
    rw [(class?_eq_some_iff hnames).2 ⟨hmem', hname'⟩] at hc
    cases hc
    exact h

/-- What a table is compiled to: the listeners of annotations and declarations that can be called,
grouped. -/
theorem grouped_of_compile (hnames : (classes.map (·.name)).Nodup)
    (h : compile config classes services = .ok (table, reports)) :
    ∃ declared, List.Forall₂ (Declares classes) config.listeners declared ∧
      Grouped (isStoppable config classes)
        ((classes.flatMap annotated ++ declared).filter (isCallable services)) table.groups := by
  simp only [compile, List.partition_eq_filter_filter] at h
  obtain ⟨declared, hdeclared, h⟩ := Result.bind_eq_ok.1 h
  cases h
  refine ⟨declared, ?_, grouped_foldl _ _⟩
  exact (Result.forall₂_of_mapM_eq_ok hdeclared).imp fun _ _ => declares_of_declared hnames

end

/-! ## Calls -/

section
variable {τ : Type} {c : Container τ} {stops : Prop} {e : ListenerEntry} {es : List ListenerEntry}
  {event : Event} {w : World τ}

/-- What calling a listener comes to. Its function has to be registered; a static one is called
without an object, any other on the service of its class, which has to be built. -/
inductive Calls (c : Container τ) (e : ListenerEntry) (event : Event) (w : World τ) :
    (Except ServeError Unit × Event) × World τ → Prop
  | unknown : c.registry.listeners.lookup e.target = none →
      Calls c e event w ((.error (.missingCallable e.target), event), w)
  | static {f : Listener τ} : c.registry.listeners.lookup e.target = some f → e.isStatic = true →
      Calls c e event w ((f none event w.own).1, { w with own := (f none event w.own).2 })
  | unbuilt {f : Listener τ} {error : ServeError} {w' : World τ} :
      c.registry.listeners.lookup e.target = some f → e.isStatic = false →
      c.get e.className w = (.error error, w') → Calls c e event w ((.error error, event), w')
  | onObject {f : Listener τ} {on : Instance} {w' : World τ} :
      c.registry.listeners.lookup e.target = some f → e.isStatic = false →
      c.get e.className w = (.ok on, w') →
      Calls c e event w ((f (some on) event w'.own).1,
        { w' with own := (f (some on) event w'.own).2 })

/-- Looking something up leaves the event and the state as they are. -/
theorem hearing_lift {α : Type} (x : Except ServeError α) (event : Event) (w : World τ) :
    (liftM x : Hearing τ α) event w = ((x, event), w) := by
  cases x <;> rfl

/-- Letting a listener hear an event is calling it. -/
theorem calls_hear (c : Container τ) (e : ListenerEntry) (event : Event) (w : World τ) :
    Calls c e event w (hear c e event w) := by
  rw [hear, hearing_bind, hearing_lift, Registry.listener, Registry.entry]
  cases hf : c.registry.listeners.lookup e.target with
  | none => exact .unknown hf
  | some f =>
    dsimp only
    rw [hearing_bind, Hearing.serve, on?]
    by_cases hstatic : e.isStatic = true
    · rw [if_pos hstatic]
      exact .static hf hstatic
    · rw [if_neg hstatic, serving_bind]
      rw [Bool.not_eq_true] at hstatic
      rcases hget : c.get e.className w with ⟨error | on, w'⟩
      · exact .unbuilt hf hstatic hget
      · exact .onObject hf hstatic hget

/-- Some listeners were called one after the other and none of them failed. If the event `stops`, it
was not stopped before any of them. -/
inductive Ran (c : Container τ) (stops : Prop) :
    List ListenerEntry → Event → World τ → Event → World τ → Prop
  | nil {event : Event} {w : World τ} : Ran c stops [] event w event w
  | cons {e : ListenerEntry} {es : List ListenerEntry} {event event₁ event₂ : Event}
      {w w₁ w₂ : World τ} : ¬ (stops ∧ event.isStopped = true) →
      Calls c e event w ((.ok (), event₁), w₁) → Ran c stops es event₁ w₁ event₂ w₂ →
      Ran c stops (e :: es) event w event₂ w₂

/-- How dispatching ends after some listeners ran: none is left, or the event is stopped, or the
next call fails. -/
inductive Ends (c : Container τ) (stops : Prop) (ran : Nat) (event : Event) (w : World τ) :
    List ListenerEntry → (Except ServeError Nat × Event) × World τ → Prop
  | done : Ends c stops ran event w [] ((.ok ran, event), w)
  | stopped {e : ListenerEntry} {es : List ListenerEntry} : stops → event.isStopped = true →
      Ends c stops ran event w (e :: es) ((.ok ran, event), w)
  | failed {e : ListenerEntry} {es : List ListenerEntry} {error : ServeError} {event' : Event}
      {w' : World τ} : ¬ (stops ∧ event.isStopped = true) →
      Calls c e event w ((.error error, event'), w') →
      Ends c stops ran event w (e :: es) ((.error error, event'), w')

/-- Listeners are called in order until none is left, the event is stopped or a call fails. -/
theorem runs_hearAll {stoppable : Bool} (hstops : stoppable = true ↔ stops) (heard : Nat)
    (es : List ListenerEntry) (event : Event) (w : World τ) :
    ∃ ran rest event₁ w₁, es = ran ++ rest ∧ Ran c stops ran event w event₁ w₁ ∧
      Ends c stops (heard + ran.length) event₁ w₁ rest (hearAll c stoppable heard es event w) := by
  induction es generalizing heard event w with
  | nil => exact ⟨[], [], event, w, rfl, .nil, .done⟩
  | cons e es ih =>
    have hasked : hearAll c stoppable heard (e :: es) event w =
        (if stoppable && event.isStopped then (pure heard : Hearing τ Nat)
          else hear c e >>= fun _ => hearAll c stoppable (heard + 1) es) event w := by
      rw [hearAll]
      rfl
    rw [hasked]
    split
    · next hstopped =>
      rw [Bool.and_eq_true, hstops] at hstopped
      exact ⟨[], e :: es, event, w, rfl, .nil, .stopped hstopped.1 hstopped.2⟩
    · next hgoes =>
      rw [Bool.and_eq_true, hstops] at hgoes
      have hcalls := calls_hear c e event w
      rw [hearing_bind]
      rcases hrun : hear c e event w with ⟨⟨error | _, event₁⟩, w₁⟩
      · rw [hrun] at hcalls
        exact ⟨[], e :: es, event, w, rfl, .nil, .failed hgoes hcalls⟩
      · rw [hrun] at hcalls
        obtain ⟨ran, rest, event₂, w₂, hes, hran, hends⟩ := ih (heard + 1) event₁ w₁
        refine ⟨e :: ran, rest, event₂, w₂, by rw [hes]; rfl, .cons hgoes hcalls hran, ?_⟩
        rwa [List.length_cons, Nat.add_comm ran.length, ← Nat.add_assoc]

end

/-! ## Compiled tables -/

/-- Dispatching an event goes through the listeners of the event. -/
theorem Grouped.runs_dispatch {stoppable : String → Bool} {es : List ListenerEntry}
    {table : ListenerTable} {type : String} {stops : Prop} {τ : Type}
    (h : Grouped stoppable es table.groups) (hstops : stoppable type = true ↔ stops)
    (c : Container τ) (event : Event) (w : World τ) :
    ∃ ran rest event₁ w₁, es.filter (·.event = type) = ran ++ rest ∧
      Ran c stops ran event w event₁ w₁ ∧
      Ends c stops ran.length event₁ w₁ rest (table.dispatch c type event w) := by
  have hdispatch : table.dispatch c type =
      hearAll c (stoppable type) 0 (es.filter (·.event = type)) := by
    rw [dispatch]
    rcases h.group? type with hgroup | ⟨hgroup, hnone⟩
    · rw [hgroup]
    · rw [hgroup, hnone]
      rfl
  rw [hdispatch]
  simpa only [Nat.zero_add] using runs_hearAll hstops 0 _ event w

/-- A compiled table has exactly one group for each event of the listeners that can be called, in
the order in which these events come first, with the listeners of its event in their order: those of
annotations in the order of classes, methods and annotations, then those that are declared.
Dispatching an event calls its listeners in this order and gives how many ran. If the class of the
event has the capability of events that can be stopped, none is called once the event is stopped,
and otherwise that makes no difference. If a call fails, its error is the result and no other
listener is called. -/
theorem dispatch_compile {config : Config} {classes : List ClassDescriptor}
    {services : ContainerPlan} {table : ListenerTable} {reports : List Diagnostic}
    (hnames : (classes.map (·.name)).Nodup)
    (h : compile config classes services = .ok (table, reports)) :
    ∃ declared, List.Forall₂ (Declares classes) config.listeners declared ∧
      let listeners := (classes.flatMap annotated ++ declared).filter fun e =>
        e.isStatic || services.has e.className
      table.groups.map (·.event) = (listeners.map (·.event)).eraseDups ∧
      (∀ g ∈ table.groups, g.listeners = listeners.filter (·.event = g.event)) ∧
      ∀ (τ : Type) (c : Container τ) (type : String) (event : Event) (w : World τ),
        let stops := ∃ owner ∈ classes, owner.name = type ∧
          owner.implements config.capabilities.stoppableEvent = true
        ∃ ran rest event₁ w₁, listeners.filter (·.event = type) = ran ++ rest ∧
          Ran c stops ran event w event₁ w₁ ∧
          Ends c stops ran.length event₁ w₁ rest (table.dispatch c type event w) := by
  obtain ⟨declared, hdeclared, hgrouped⟩ := grouped_of_compile hnames h
  refine ⟨declared, hdeclared, hgrouped.events, hgrouped.listeners, fun τ c type event w => ?_⟩
  exact hgrouped.runs_dispatch (isStoppable_iff hnames type) c event w

/-- A shop with an event that can be stopped and listeners to it, static or not. -/
def shop : List ClassDescriptor := [
  { name := "OrderPlaced", kind := .concrete, capabilities := ["StoppableEvent"] },
  { name := "Audit", kind := .concrete
    methods := [{ name := "record", annotations := [.listener "OrderPlaced"] }] },
  { name := "Fraud", kind := .concrete
    methods := [{ name := "check", isStatic := true
                  annotations := [.listener "Refunded", .listener "OrderPlaced"] }] }]

/-- A listener declared by hand, to a class that is not known. -/
def shopDeclarations : Config where
  listeners := [⟨"OrderPlaced", "Mail::send", true⟩]

/-- The listeners of a shop are grouped by event, and none hears an event that was stopped before.
-/
theorem dispatch_compile_shop : ∃ table reports,
    compile shopDeclarations shop {} = .ok (table, reports) ∧ (shop.map (·.name)).Nodup ∧
    table.groups.map (·.event) = ["Refunded", "OrderPlaced"] ∧
    (∀ g ∈ table.groups, g.event = "OrderPlaced" →
      g.listeners.map (·.target) = ["Fraud::check", "Mail::send"]) ∧
    ∀ (τ : Type) (c : Container τ) (w : World τ),
      table.dispatch c "OrderPlaced" (.stoppable true) w = ((.ok 0, .stoppable true), w) := by
  have hok : (compile shopDeclarations shop {}).isOk = true := by decide
  obtain ⟨⟨table, reports⟩, h⟩ := Result.isOk_iff.1 hok
  have hnames : (shop.map (·.name)).Nodup := by decide
  obtain ⟨declared, hdeclared, hevents, hlisteners, hruns⟩ := dispatch_compile hnames h
  obtain ⟨e, he, rfl⟩ : ∃ e, Declares shop ⟨"OrderPlaced", "Mail::send", true⟩ e ∧
      declared = [e] := by
    cases hdeclared with
    | cons he hrest =>
      cases hrest
      exact ⟨_, he, rfl⟩
  obtain ⟨event, className, method, isStatic⟩ := e
  obtain ⟨rfl, htarget, -, hstatic⟩ := he
  obtain ⟨rfl, rfl⟩ : "Mail" = className ∧ "send" = method :=
    Prod.mk.inj (Option.some.inj ((by decide : some ("Mail", "send") = _).trans htarget))
  have hunknown : ∀ c ∈ shop, c.name = "Mail" → c.method? "send" = none := by decide
  obtain rfl : isStatic = true := hstatic hunknown
  refine ⟨table, reports, h, hnames, hevents.trans (by decide), fun g hg hevent => ?_,
    fun τ c w => ?_⟩
  · rw [hlisteners g hg, hevent]
    decide
  · have hstops : ∃ owner ∈ shop, owner.name = "OrderPlaced" ∧
        owner.implements shopDeclarations.capabilities.stoppableEvent = true := by decide
    obtain ⟨ran, rest, event₁, w₁, -, hran, hends⟩ :=
      hruns τ c "OrderPlaced" (.stoppable true) w
    generalize table.dispatch c "OrderPlaced" (.stoppable true) w = out at hends ⊢
    cases hran with
    | nil =>
      cases hends with
      | done | stopped => rfl
      | failed hgoes _ => exact absurd ⟨hstops, rfl⟩ hgoes
    | cons hgoes _ _ => exact absurd ⟨hstops, rfl⟩ hgoes

end Wiring.ListenerTable
