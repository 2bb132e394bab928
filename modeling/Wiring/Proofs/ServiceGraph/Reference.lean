import Wiring.Proofs.ServiceGraph.Report

/-!
# Resolving without a walk

When no identifier depends on itself there is a plainer way to resolve a map: evaluate each entry by
itself, and ask again for every identifier that a link names (`canBuild`). Nothing is remembered and
there is no stack. `evaluate` says what a binding comes to and `evaluateEntry` what an entry does;
`reference` collects the plan and the diagnostics.

The walk gives the same (`resolve_reference`). With no cycle no link leads back to the stack, so
every visit is settled where it happens (`extends_evaluated`), with the result of `evaluateEntry`.
-/

namespace Wiring.ServiceGraph

open Binding (Satisfiable)
open Relation (TransGen)

/-! ## The reference -/

/-- The values of a list without those left out, or what `wrap` says of the first that has none and
of the identifier to blame. -/
def collect {κ ε : Type} (wrap : κ → String → ε) :
    List (κ × Except String (Option Argument)) → Except ε (List (κ × Argument))
  | [] => .ok []
  | (k, .error blamed) :: _ => .error (wrap k blamed)
  | (k, .ok a) :: rest => (collect wrap rest).map (keep k a)

/-- A chain behind a link that failed: the blame stays with the link when the rest fails too. -/
def fallBack (blamed : String) :
    Option (Except String (Option Argument)) → Except String (Option Argument)
  | some (.ok a) => .ok a
  | some (.error _) | none => .error blamed

/-- The value made of all members of a list, else what the fallback comes to. -/
def allOr {κ : Type} (make : List (κ × Argument) → Argument)
    (members : List (κ × Except String (Option Argument)))
    (fallback : Option (Except String (Option Argument))) : Except String (Option Argument) :=
  match collect (fun _ blamed => blamed) members with
  | .ok values => .ok (some (make values))
  | .error blamed => fallBack blamed fallback

/-- The fallback of a lookup, if it has one with a value. -/
def envFallback : Option (Except String (Option Argument)) → Option Argument
  | some (.ok a) => a
  | some (.error _) | none => none

mutual

/-- What a chain comes to when it is known which identifiers can be built: an argument, nothing if
the parameter is left out, or the identifier to blame. -/
def evaluate (builds : String → Bool) : Binding → Except String (Option Argument)
  | .literal v => .ok (some (.literal v))
  | .constant r => .ok (some (.constant r))
  | .skip => .ok none
  | .env key fallback => .ok (some (.env key (envFallback (evaluateFallback builds fallback))))
  | .service id fallback =>
    if builds id then .ok (some (.service id)) else fallBack id (evaluateFallback builds fallback)
  | .array entries fallback =>
    allOr .array (evaluateEntries builds entries) (evaluateFallback builds fallback)
  | .closure source params fallback =>
    allOr (.closure source) (evaluateParams builds params) (evaluateFallback builds fallback)

/-- What a fallback comes to, if there is one. -/
def evaluateFallback (builds : String → Bool) :
    Option Binding → Option (Except String (Option Argument))
  | none => none
  | some b => some (evaluate builds b)

/-- What each entry of an array comes to. -/
def evaluateEntries (builds : String → Bool) : List (Option ArrayKey × Binding) →
    List (Option ArrayKey × Except String (Option Argument))
  | [] => []
  | (key, b) :: rest => (key, evaluate builds b) :: evaluateEntries builds rest

/-- What each parameter comes to. -/
def evaluateParams (builds : String → Bool) : List (String × Binding) →
    List (String × Except String (Option Argument))
  | [] => []
  | (name, b) :: rest => (name, evaluate builds b) :: evaluateParams builds rest

end

/-- What an entry comes to: the arguments of a service, or why it cannot be built. -/
def evaluateEntry (builds : String → Bool) :
    ServiceEntry → Except Failure (List (String × Argument))
  | .service s => collect .dependency (evaluateParams builds s.params)
  | .alias target => if builds target then .ok [] else .error (.aliasTarget target)
  | .ambiguous _ => .error .ambiguous

/-- Whether an identifier can be built, where what it needs is followed down to a depth. -/
def buildsWithin (services : ServiceMap) : (depth : Nat) → String → Bool
  | 0, _ => false
  | depth + 1, id =>
    (services.get? id).any fun entry => (evaluateEntry (buildsWithin services depth) entry).isOk

/-- Whether an identifier can be built. Without a cycle nothing is deeper than there are entries. -/
def canBuild (services : ServiceMap) : String → Bool :=
  buildsWithin services services.size

/-- The construction of a service that can be built. -/
def referenceService? (services : ServiceMap) : String × ServiceEntry → Option Construction
  | (id, .service s) => (evaluateEntry (canBuild services) (.service s)).toOption.map (built id s)
  | _ => none

/-- An alias of something that can be built. -/
def referenceAlias? (services : ServiceMap) : String × ServiceEntry → Option (String × String)
  | (id, .alias target) => if canBuild services target then some (id, target) else none
  | _ => none

/-- The diagnostic for a service or an alias that cannot be built. That of a service names the first
parameter that has no value and the identifier to blame for it, that of an alias its target. -/
def referenceReport? (services : ServiceMap) : String × ServiceEntry → Option Diagnostic
  | (id, .service s) =>
    match collect Prod.mk (evaluateParams (canBuild services) s.params) with
    | .ok _ => none
    | .error (param, needed) => some (.error id (.missingDependency param needed))
  | (id, .alias target) =>
    if canBuild services target then none else some (.error id (.missingTarget target))
  | (_, .ambiguous _) => none

/-- The plan and the diagnostics, from each entry by itself. -/
def reference (services : ServiceMap) : ContainerPlan × List Diagnostic :=
  ({ services := services.entries.filterMap (referenceService? services)
     aliases := services.entries.filterMap (referenceAlias? services) },
    services.entries.filterMap (referenceReport? services))

/-! ## What can be evaluated -/

section
variable {builds : String → Bool}

/-- The first member without a value is the same, whatever is said of it. -/
theorem collect_eq_mapError {κ ε : Type} (wrap : κ → String → ε)
    (members : List (κ × Except String (Option Argument))) :
    collect wrap members = (collect Prod.mk members).mapError fun blame =>
      wrap blame.1 blame.2 := by
  induction members with
  | nil => rfl
  | cons m rest ih =>
    obtain ⟨k, blamed | a⟩ := m
    · rfl
    · rw [collect, collect, ih]
      cases collect Prod.mk rest <;> rfl

/-- A fallback is evaluated if there is one. -/
theorem evaluateFallback_eq (builds : String → Bool) (f : Option Binding) :
    evaluateFallback builds f = f.map (evaluate builds) := by
  cases f <;> rfl

/-- Entries are evaluated one by one. -/
theorem evaluateEntries_eq (builds : String → Bool) (es : List (Option ArrayKey × Binding)) :
    evaluateEntries builds es = es.map fun e => (e.1, evaluate builds e.2) := by
  induction es with
  | nil => rfl
  | cons e rest ih => rw [evaluateEntries, ih, List.map_cons]

/-- Parameters are evaluated one by one. -/
theorem evaluateParams_eq (builds : String → Bool) (ps : List (String × Binding)) :
    evaluateParams builds ps = ps.map fun p => (p.1, evaluate builds p.2) := by
  induction ps with
  | nil => rfl
  | cons p rest ih => rw [evaluateParams, ih, List.map_cons]

@[simp] theorem isOk_fallBack (blamed : String) (x : Option (Except String (Option Argument))) :
    (fallBack blamed x).isOk = x.any Except.isOk := by
  rcases x with _ | (_ | _) <;> rfl

/-- A list has its values if each of its members has one or is left out. -/
theorem isOk_collect {κ ε : Type} (wrap : κ → String → ε)
    (l : List (κ × Except String (Option Argument))) :
    (collect wrap l).isOk = l.all (·.2.isOk) := by
  induction l with
  | nil => rfl
  | cons e rest ih =>
    obtain ⟨k, _ | a⟩ := e
    · rfl
    · rw [List.all_cons, ← ih, collect]
      cases collect wrap rest <;> rfl

/-- A list without values fails as one of its members does. -/
theorem of_collect_eq_error {κ ε : Type} {wrap : κ → String → ε}
    {l : List (κ × Except String (Option Argument))} {err : ε} (h : collect wrap l = .error err) :
    ∃ k blamed, err = wrap k blamed := by
  induction l with
  | nil => cases h
  | cons e rest ih =>
    obtain ⟨k, blamed | a⟩ := e
    · cases h
      exact ⟨k, blamed, rfl⟩
    · rw [collect] at h
      cases hrest : collect wrap rest with
      | ok values => rw [hrest] at h; cases h
      | error err' => rw [hrest] at h; cases h; exact ih hrest

/-- The members decide, else the fallback does. -/
theorem isOk_allOr {κ : Type} (make : List (κ × Argument) → Argument)
    (members : List (κ × Except String (Option Argument)))
    (fallback : Option (Except String (Option Argument))) :
    (allOr make members fallback).isOk = (members.all (·.2.isOk) || fallback.any Except.isOk) := by
  rw [allOr, ← isOk_collect fun _ blamed => blamed]
  cases collect _ members with
  | ok values => rfl
  | error blamed => exact isOk_fallBack blamed fallback

/-- A service has a value if it can be built, or if its fallback has one. -/
theorem isOk_evaluate_service (id : String) (f : Option Binding) :
    (evaluate builds (.service id f)).isOk =
      (builds id || f.any fun b => (evaluate builds b).isOk) := by
  rw [evaluate, evaluateFallback_eq]
  cases builds id with
  | true => rfl
  | false => simp [Option.any_map]

/-- An array has a value if all its entries have, or if its fallback has one. -/
theorem isOk_evaluate_array (es : List (Option ArrayKey × Binding)) (f : Option Binding) :
    (evaluate builds (.array es f)).isOk =
      ((es.all fun e => (evaluate builds e.2).isOk) || f.any fun b =>
        (evaluate builds b).isOk) := by
  rw [evaluate, isOk_allOr, evaluateEntries_eq, evaluateFallback_eq, List.all_map, Option.any_map]
  rfl

/-- A closure has a value if all its parameters have, or if its fallback has one. -/
theorem isOk_evaluate_closure (s : String) (ps : List (String × Binding)) (f : Option Binding) :
    (evaluate builds (.closure s ps f)).isOk =
      ((ps.all fun p => (evaluate builds p.2).isOk) || f.any fun b =>
        (evaluate builds b).isOk) := by
  rw [evaluate, isOk_allOr, evaluateParams_eq, evaluateFallback_eq, List.all_map, Option.any_map]
  rfl

/-- A binding that is evaluated to something can be satisfied, and the other way round. -/
theorem isOk_evaluate {b : Binding} :
    (evaluate builds b).isOk = true ↔ Satisfiable {z | builds z} b := by
  have hfallback : ∀ {b : Binding} {f : Option Binding}, b.fallback? = f →
      (∀ b', f = some b' → (evaluate builds b').isOk = true → Satisfiable {z | builds z} b') →
      f.any (fun b' => (evaluate builds b').isOk) = true → Satisfiable {z | builds z} b := by
    intro b f hf ih h
    obtain ⟨b', hb, hok⟩ := (Option.any_eq_true _ _).1 h
    exact .fallback (hf.trans hb) (ih b' hb hok)
  -- down the binding one way, and along the ways to satisfy it the other
  constructor
  · intro h
    induction b using Binding.recData with
    | literal v => exact .literal
    | constant r => exact .constant
    | skip => exact .skip
    | env key f _ => exact .env
    | service id f ih =>
      rw [isOk_evaluate_service, Bool.or_eq_true] at h
      exact h.elim (fun h => .service h) (hfallback rfl ih)
    | array es f ihe ihf =>
      rw [isOk_evaluate_array, Bool.or_eq_true, List.all_eq_true] at h
      exact h.elim (fun h => .array fun e he => ihe e he (h e he)) (hfallback rfl ihf)
    | closure s ps f ihp ihf =>
      rw [isOk_evaluate_closure, Bool.or_eq_true, List.all_eq_true] at h
      exact h.elim (fun h => .closure fun p hp => ihp p hp (h p hp)) (hfallback rfl ihf)
  · intro h
    induction h with
    | literal | constant | skip | env => rfl
    | service hid =>
      rw [isOk_evaluate_service, Bool.or_eq_true]
      exact .inl hid
    | array _ ih =>
      rw [isOk_evaluate_array, Bool.or_eq_true, List.all_eq_true]
      exact .inl ih
    | closure _ ih =>
      rw [isOk_evaluate_closure, Bool.or_eq_true, List.all_eq_true]
      exact .inl ih
    | @fallback b b' hf _ ih =>
      have hany : b.fallback?.any (fun b' => (evaluate builds b').isOk) = true :=
        (Option.any_eq_true _ _).2 ⟨b', hf, ih⟩
      cases b with
      | literal | constant | skip => cases hf
      | env => rfl
      | service id f => rw [isOk_evaluate_service, Bool.or_eq_true]; exact .inr hany
      | array es f => rw [isOk_evaluate_array, Bool.or_eq_true]; exact .inr hany
      | closure s ps f => rw [isOk_evaluate_closure, Bool.or_eq_true]; exact .inr hany

/-- An entry is evaluated to arguments if the rules of the map build its identifier. -/
theorem isOk_evaluateEntry {services : ServiceMap} {id : String} {entry : ServiceEntry}
    (he : services.get? id = some entry) :
    (evaluateEntry builds entry).isOk = true ↔ id ∈ rule services {z | builds z} := by
  cases entry with
  | service s =>
    rw [mem_rule_service he, evaluateEntry, isOk_collect, evaluateParams_eq, List.all_map,
      List.all_eq_true]
    exact forall₂_congr fun _ _ => isOk_evaluate
  | ambiguous candidates => exact iff_of_false nofun (not_mem_rule_ambiguous he)
  | «alias» target =>
    rw [mem_rule_alias he, evaluateEntry]
    cases h : builds target <;> simp [h, Except.isOk, Except.toBool]

/-- No entry fails by a cycle when evaluated. -/
theorem evaluateEntry_ne_cycle (builds : String → Bool) (entry : ServiceEntry)
    (path : List String) : evaluateEntry builds entry ≠ .error (.cycle path) := by
  cases entry with
  | service s =>
    intro h
    obtain ⟨_, _, heq⟩ := of_collect_eq_error h
    cases heq
  | ambiguous candidates => nofun
  | «alias» target =>
    rw [evaluateEntry]
    split <;> nofun

end

/-! ## What can be built -/

section
variable {services : ServiceMap} {room : Nat} {stack : List String} {id : String}

/-- Nothing depends on itself. -/
def Acyclic (services : ServiceMap) : Prop :=
  ∀ id, ¬ TransGen (DependsOn services) id id

/-- One level deeper all can be built that can be built out of what can be built within the depth.
-/
theorem buildsWithin_succ (services : ServiceMap) (depth : Nat) (id : String) :
    buildsWithin services (depth + 1) id = true ↔
      id ∈ rule services {z | buildsWithin services depth z} := by
  rw [buildsWithin]
  cases he : services.get? id with
  | none => exact iff_of_false nofun (not_mem_rule_none he)
  | some entry => exact isOk_evaluateEntry he

/-- Followed down to as many entries as are not on the stack, exactly what can be built is. -/
theorem buildsWithin_iff (hacyclic : Acyclic services) (hstack : OnStack services room stack)
    (hreach : ∀ u ∈ stack, TransGen (DependsOn services) u id) :
    buildsWithin services room id = true ↔ id ∈ constructible services := by
  have hn : id ∉ stack := fun hmem => hacyclic id (hreach id hmem)
  induction room generalizing stack id with
  | zero =>
    refine iff_of_false nofun fun hid => hn (hstack.mem_of_full ?_)
    exact ServiceMap.mem_ids_iff.1 (mem_ids_of_mem_constructible hid)
  | succ room ih =>
    rw [buildsWithin_succ]
    by_cases hid : (services.get? id).isSome
    · have hbelow : ∀ z, DependsOn services id z →
          (buildsWithin services room z = true ↔ z ∈ constructible services) := by
        intro z hz
        have hreach' : ∀ u ∈ stack ++ [id], TransGen (DependsOn services) u z := by
          intro u hu
          rcases List.mem_append.1 hu with hu | hu
          · exact (hreach u hu).tail hz
          · exact List.mem_singleton.1 hu ▸ .single hz
        exact ih (hstack.push hid hn) hreach' fun hmem => hacyclic z (hreach' z hmem)
      rw [← rule_constructible]
      exact ⟨fun h => rule_local h fun z hz => (hbelow z hz).1,
        fun h => rule_local h fun z hz => (hbelow z hz).2⟩
    · have he : services.get? id = none := by simpa using hid
      refine iff_of_false (not_mem_rule_none he) ?_
      rw [← rule_constructible]
      exact not_mem_rule_none he

/-- Without a cycle the reference builds what can be built. -/
theorem canBuild_iff (hacyclic : Acyclic services) :
    canBuild services id = true ↔ id ∈ constructible services :=
  buildsWithin_iff hacyclic (.empty (Nat.le_refl _)) (by simp)

/-- An entry is evaluated to arguments if its identifier can be built. -/
theorem isOk_evaluateEntry_canBuild (hacyclic : Acyclic services) {entry : ServiceEntry}
    (he : services.get? id = some entry) :
    (evaluateEntry (canBuild services) entry).isOk = canBuild services id := by
  have hset : {z | canBuild services z = true} = constructible services :=
    Set.ext fun z => canBuild_iff hacyclic
  rw [Bool.eq_iff_iff, isOk_evaluateEntry he, canBuild_iff hacyclic, hset, rule_constructible]

end

/-! ## What the walk lowers is evaluated -/

/-- A result is the one expected and rests on no open cycle. -/
structure Plainly (expected : Except String (Option Argument)) (r : Except Blame (Option Argument))
    (open? : Option Nat) : Prop where
  closed : open? = none
  result : r.mapError (·.dependency) = expected
  noCycle : ∀ blame, r = .error blame → ∀ path, blame.cause ≠ .cycle path

/-- A verdict is the one expected, and no cycle is behind it. -/
structure PlainVisit (builds : String → Bool) (id : String) (v : Visit) : Prop where
  closed : v.open? = none
  result : v.failure? = none ↔ builds id = true
  noCycle : ∀ path, v.failure? ≠ some (.cycle path)

section
variable {builds : String → Bool} {L : Binding → Except Blame (Option Argument) → Option Nat → Prop}

/-- A list is lowered to what its members are evaluated to. -/
theorem LowersAll.plainly {κ ε ε' : Type} {wrap : κ → Blame → ε} {wrap' : κ → String → ε'}
    {g : ε → ε'} {es : List (κ × Binding)} {r : Except ε (List (κ × Argument))} {o : Option Nat}
    (h : LowersAll wrap L es r o)
    (hg : ∀ k blame, (∀ path, blame.cause ≠ .cycle path) →
      g (wrap k blame) = wrap' k blame.dependency)
    (hL : ∀ e ∈ es, ∀ r' o', L e.2 r' o' → Plainly (evaluate builds e.2) r' o') :
    o = none ∧ r.mapError g = collect wrap' (es.map fun e => (e.1, evaluate builds e.2)) := by
  induction h with
  | nil => exact ⟨rfl, rfl⟩
  | @fail k b rest blame o hb =>
    obtain ⟨ho, hr, hcycle⟩ := hL _ (.head _) _ _ hb
    refine ⟨ho, ?_⟩
    rw [List.map_cons, ← hr]
    exact congrArg Except.error (hg k blame (hcycle blame rfl))
  | @cons k b rest a r o o' hb _ ih =>
    obtain ⟨ho, hr, -⟩ := hL _ (.head _) _ _ hb
    obtain ⟨ho', hr'⟩ := ih fun e he => hL e (.tail _ he)
    refine ⟨by rw [ho, ho']; rfl, ?_⟩
    rw [List.map_cons, ← hr, Except.mapError, collect, ← hr']
    cases r <;> rfl

/-- The members of an array or a closure likewise; the blame of one of them is that of the list. -/
theorem LowersAll.plainly_members {κ : Type} {es : List (κ × Binding)}
    {r : Except Blame (List (κ × Argument))} {o : Option Nat}
    (h : LowersAll (fun _ blame => blame) L es r o)
    (hL : ∀ e ∈ es, ∀ r' o', L e.2 r' o' → Plainly (evaluate builds e.2) r' o') :
    o = none ∧ (∀ blame, r = .error blame → ∀ path, blame.cause ≠ .cycle path) ∧
      r.mapError (·.dependency) =
        collect (fun _ blamed => blamed) (es.map fun e => (e.1, evaluate builds e.2)) := by
  obtain ⟨ho, hr⟩ : o = none ∧ r.mapError (·.dependency) = collect (fun _ blamed => blamed)
      (es.map fun e => (e.1, evaluate builds e.2)) := h.plainly (fun _ _ _ => rfl) hL
  refine ⟨ho, fun blame hblame => ?_, hr⟩
  obtain ⟨e, he, _, o', hl, rfl⟩ := h.exists_error _ hblame
  exact (hL e he _ _ hl).noCycle _ rfl

/-- A fallback is tried as it is evaluated. -/
theorem FallsThrough.plainly {f : Option Binding} {blame : Blame}
    {r : Except Blame (Option Argument)} {o o' : Option Nat} (h : FallsThrough L f blame o r o')
    (ho : o = .none) (hblame : ∀ path, blame.cause ≠ .cycle path)
    (hL : ∀ b, f = some b → ∀ r' o'', L b r' o'' → Plainly (evaluate builds b) r' o'') :
    Plainly (fallBack blame.dependency (evaluateFallback builds f)) r o' := by
  have hself : ∀ blame', Except.error blame = (.error blame' : Except Blame (Option Argument)) →
      ∀ path, blame'.cause ≠ .cycle path := by
    rintro _ ⟨⟩
    exact hblame
  cases h with
  | none => exact ⟨ho, rfl, hself⟩
  | ok hb =>
    obtain ⟨ho', hr, -⟩ := hL _ rfl _ _ hb
    exact ⟨by rw [ho, ho']; rfl, by rw [evaluateFallback, ← hr]; rfl, nofun⟩
  | error hb =>
    obtain ⟨ho', hr, -⟩ := hL _ rfl _ _ hb
    exact ⟨by rw [ho, ho']; rfl, by rw [evaluateFallback, ← hr]; rfl, hself⟩

/-- With plain verdicts a binding is lowered to what it is evaluated to. -/
theorem Lowers.plainly {b : Binding} {r : Except Blame (Option Argument)} {o : Option Nat}
    (h : Lowers (PlainVisit builds) b r o) : Plainly (evaluate builds b) r o := by
  induction b using Binding.recData generalizing r o with
  | literal v | constant c | skip => cases h; exact ⟨rfl, rfl, nofun⟩
  | env key f ih =>
    cases h with
    | env => exact ⟨rfl, rfl, nofun⟩
    | envOk hb | envError hb =>
      obtain ⟨ho, hr, -⟩ := ih _ rfl hb
      exact ⟨ho, by rw [evaluate, evaluateFallback, ← hr]; rfl, nofun⟩
  | service id f ih =>
    rw [evaluate]
    cases h with
    | service hv hok =>
      rw [if_pos (hv.result.1 hok)]
      exact ⟨hv.closed, rfl, nofun⟩
    | @servicePassed _ _ v cause _ _ hv hfail hf =>
      have hno : ¬ builds id = true := fun hb => by rw [hv.result.2 hb] at hfail; cases hfail
      rw [if_neg hno]
      refine hf.plainly hv.closed (fun path hpath => hv.noCycle path ?_) fun b hb _ _ => ih b hb
      exact hfail.trans (congrArg some hpath)
  | array es f ihe ihf =>
    rw [evaluate, evaluateEntries_eq, allOr]
    cases h with
    | array hes =>
      obtain ⟨ho, -, hr⟩ := hes.plainly_members fun e he _ _ => ihe e he
      rw [← hr]
      exact ⟨ho, rfl, nofun⟩
    | arrayPassed hes hf =>
      obtain ⟨ho, hcycle, hr⟩ := hes.plainly_members fun e he _ _ => ihe e he
      rw [← hr]
      exact hf.plainly ho (hcycle _ rfl) fun b hb _ _ => ihf b hb
  | closure s ps f ihp ihf =>
    rw [evaluate, evaluateParams_eq, allOr]
    cases h with
    | closure hps =>
      obtain ⟨ho, -, hr⟩ := hps.plainly_members fun p hp _ _ => ihp p hp
      rw [← hr]
      exact ⟨ho, rfl, nofun⟩
    | closurePassed hps hf =>
      obtain ⟨ho, hcycle, hr⟩ := hps.plainly_members fun p hp _ _ => ihp p hp
      rw [← hr]
      exact hf.plainly ho (hcycle _ rfl) fun b hb _ _ => ihf b hb

end

/-! ## The walk settles what is evaluated -/

/-- Nothing waits, and what is settled is what its entry is evaluated to. -/
structure Evaluated (services : ServiceMap) (w : Walk) : Prop where
  frame : w.frame = []
  pending : w.pending = []
  settled : ∀ id r, w.settled.lookup id = some r → ∃ entry, services.get? id = some entry ∧
    r = evaluateEntry (canBuild services) entry

section
variable {services : ServiceMap} {id : String} {w : Walk}
  {r : Except Failure (List (String × Argument))} {o : Option Nat}

/-- A result that is no failure is a success. -/
theorem failureOf_eq_none {α : Type} {r : Except Failure α} :
    failureOf r = none ↔ r.isOk = true := by
  cases r <;> simp [failureOf, Except.isOk, Except.toBool]

/-- What an entry is evaluated to is a plain verdict. -/
theorem plainVisit_evaluateEntry (hacyclic : Acyclic services) {entry : ServiceEntry}
    (he : services.get? id = some entry) :
    PlainVisit (canBuild services) id
      ⟨failureOf (evaluateEntry (canBuild services) entry), none⟩ where
  closed := rfl
  result := by rw [failureOf_eq_none, isOk_evaluateEntry_canBuild hacyclic he]
  noCycle path h := by
    have hcycle := evaluateEntry_ne_cycle (canBuild services) entry path
    cases hr : evaluateEntry (canBuild services) entry with
    | ok args => rw [hr] at h; cases h
    | error f => rw [hr] at h; cases h; exact hcycle hr

/-- What is no entry to build is a plain verdict. -/
theorem plainVisit_error (hid : ∀ C, id ∉ rule services C) {f : Failure}
    (hf : ∀ path, f ≠ .cycle path) : PlainVisit (canBuild services) id ⟨some f, none⟩ where
  closed := rfl
  result := by
    refine iff_of_false nofun fun h => ?_
    rw [canBuild] at h
    cases hsize : services.size with
    | zero => rw [hsize] at h; cases h
    | succ n => rw [hsize, buildsWithin_succ] at h; exact hid _ h
  noCycle path h := hf path (Option.some.inj h)

/-- In a frame with plain verdicts an entry comes to what it is evaluated to. -/
theorem FrameResult.evaluated (h : FrameResult services (PlainVisit (canBuild services)) id r o) :
    o = none ∧ ∃ entry, services.get? id = some entry ∧
      r = evaluateEntry (canBuild services) entry := by
  cases h with
  | @«alias» target v he hv =>
    refine ⟨hv.closed, _, he, ?_⟩
    rw [evaluateEntry]
    by_cases hb : canBuild services target = true
    · rw [hv.result.2 hb, if_pos hb]
      rfl
    · rw [if_neg hb]
      cases hfail : v.failure? with
      | none => exact absurd (hv.result.1 hfail) hb
      | some f =>
        cases f with
        | cycle path => exact absurd hfail (hv.noCycle path)
        | notRegistered | ambiguous | dependency | aliasTarget => rfl
  | @service s r o he hl =>
    have hown : ∀ param blame, (∀ path, blame.cause ≠ .cycle path) →
        ownFailure id param blame = .dependency param blame.dependency := by
      rintro param ⟨_, cause⟩ hcycle
      cases cause with
      | cycle path => exact absurd rfl (hcycle path)
      | notRegistered | ambiguous | dependency | aliasTarget => rfl
    obtain ⟨ho, hr⟩ : o = none ∧ r.mapError (fun f => f) = collect .dependency
        (s.params.map fun p => (p.1, evaluate (canBuild services) p.2)) :=
      hl.plainly hown fun _ _ _ _ h => h.plainly
    refine ⟨ho, _, he, ?_⟩
    rw [evaluateEntry, evaluateParams_eq, ← hr]
    cases r <;> rfl

/-- Closing a frame that rests on nothing open settles its result. -/
theorem lookup_finish_commit (hw : w.pending = []) (depth : Nat) (z : String) :
    ((w.finish id r).commit depth).settled.lookup z =
      if z = id then some r else w.settled.lookup z := by
  simp [Walk.commit, Walk.finish, Walk.settle, hw, lookup_cons_filter]

/-- Settling what an entry is evaluated to keeps the walk evaluated. -/
theorem Evaluated.finish_commit (h : Evaluated services w) {entry : ServiceEntry}
    (he : services.get? id = some entry) (depth : Nat) :
    Evaluated services ((w.finish id (evaluateEntry (canBuild services) entry)).commit depth) where
  frame := by simp [Walk.commit, Walk.finish, Walk.settle, h.pending, h.frame]
  pending := by simp [Walk.commit, Walk.finish, Walk.settle, h.pending]
  settled z r hr := by
    rw [lookup_finish_commit h.pending] at hr
    split at hr
    · next hz =>
      cases hr
      exact ⟨entry, hz ▸ he, rfl⟩
    · exact h.settled z r hr

/-- Without a cycle every visit settles what its entry is evaluated to. -/
theorem extends_evaluated (hacyclic : Acyclic services) :
    Extends services (Evaluated services) fun _ => PlainVisit (canBuild services) where
  enter _ h := ⟨rfl, h.pending, h.settled⟩
  leave _ _ h h' := ⟨h.frame, h'.pending, h'.settled⟩
  settled w _ id r h hr := by
    obtain ⟨entry, he, rfl⟩ := h.settled id r hr
    exact plainVisit_evaluateEntry hacyclic he
  onStack stack id pos htrail hpos := by
    obtain ⟨hlt, hid, -⟩ := List.findIdx?_eq_some_iff_getElem.1 hpos
    obtain rfl : stack[pos] = id := by simpa using hid
    exact absurd (htrail.reaches _ (List.getElem_mem hlt)) (hacyclic _)
  known w _ id v h hv := by
    rw [h.frame] at hv
    cases hv
  unregistered _ _ he := plainVisit_error (fun _ => not_mem_rule_none he) nofun
  ambiguous _ _ _ he := plainVisit_error (fun _ => not_mem_rule_ambiguous he) nofun
  close w stack id r o hr h hid := by
    obtain ⟨rfl, entry, he, rfl⟩ := (hr.narrow fun _ _ hv _ => hv.2).evaluated
    exact ⟨h.finish_commit he _, plainVisit_evaluateEntry hacyclic he⟩

/-- What stands for one thing is settled as what its entry is evaluated to. -/
theorem lookup_walk (hacyclic : Acyclic services) {entry : ServiceEntry}
    (he : services.get? id = some entry) (hentry : ∀ candidates, entry ≠ .ambiguous candidates) :
    (walk services).settled.lookup id = some (evaluateEntry (canBuild services) entry) := by
  obtain ⟨r, hr⟩ := Option.isSome_iff_exists.1 (walk_decided ⟨entry, he, hentry⟩)
  obtain ⟨entry', he', rfl⟩ :=
    ((extends_evaluated hacyclic).walk ⟨rfl, rfl, nofun⟩).settled id r hr
  rw [he] at he'
  cases he'
  exact hr

end

/-! ## The reference and the walk agree -/

section
variable {services : ServiceMap}

/-- The services of the plan are those of the reference. -/
theorem resolve_services (hacyclic : Acyclic services) :
    (resolve services).1.services = (reference services).1.services := by
  refine List.filterMap_congr fun ⟨id, entry⟩ hmem => ?_
  cases entry with
  | service s =>
    have hset := lookup_walk hacyclic (ServiceMap.get?_eq_some_iff.2 hmem) (fun _ => nofun)
    simp only [construction?, hset, referenceService?]
    cases evaluateEntry (canBuild services) (.service s) <;> rfl
  | ambiguous candidates | «alias» target => rfl

/-- The aliases of the plan are those of the reference. -/
theorem resolve_aliases (hacyclic : Acyclic services) :
    (resolve services).1.aliases = (reference services).1.aliases := by
  refine List.filterMap_congr fun ⟨id, entry⟩ hmem => ?_
  cases entry with
  | service s | ambiguous candidates => rfl
  | «alias» target =>
    have hset := lookup_walk hacyclic (ServiceMap.get?_eq_some_iff.2 hmem) (fun _ => nofun)
    simp only [isBuilt, hset, referenceAlias?, evaluateEntry]
    cases canBuild services target <;> rfl

/-- The reference reports at most one diagnostic for an entry, about its identifier. -/
theorem referenceReport?_eq_some_iff {id : String} {entry : ServiceEntry} {d : Diagnostic} :
    referenceReport? services (id, entry) = some d ↔ ∃ f finding,
      evaluateEntry (canBuild services) entry = .error f ∧ f.finding? = some finding ∧
        d = .error id finding := by
  cases entry with
  | service s =>
    rw [referenceReport?, evaluateEntry, collect_eq_mapError Failure.dependency]
    cases collect Prod.mk (evaluateParams (canBuild services) s.params) with
    | ok args => simp [Except.mapError]
    | error blame => simp [Except.mapError, Failure.finding?, eq_comm]
  | «alias» target =>
    rw [referenceReport?, evaluateEntry]
    split
    · simp
    · simp [Failure.finding?, eq_comm]
  | ambiguous candidates => simp [referenceReport?, evaluateEntry, Failure.finding?]

/-- The reference reports each identifier once at most, in the order of the map. -/
theorem subjects_reference_sublist (services : ServiceMap) :
    ((reference services).2.map (·.subject)).Sublist services.ids := by
  change ((services.entries.filterMap (referenceReport? services)).map _).Sublist
    (services.entries.map _)
  induction services.entries with
  | nil => exact .slnil
  | cons e rest ih =>
    rw [List.filterMap_cons, List.map_cons]
    cases hd : referenceReport? services e with
    | none => exact ih.cons _
    | some d =>
      obtain ⟨_, _, -, -, rfl⟩ := referenceReport?_eq_some_iff.1 hd
      exact ih.cons_cons _

/-- The diagnostics are those of the reference, up to their order. -/
theorem resolve_diagnostics (hacyclic : Acyclic services) :
    (resolve services).2.Perm (reference services).2 := by
  have hreported := walk_reported services
  have hnodup : (reference services).2.Nodup :=
    ((subjects_reference_sublist services).nodup services.nodup).of_map _
  refine (List.perm_ext_iff_of_nodup (hreported.nodup.of_map _) hnodup).2 fun d => ?_
  rw [hreported.mem_iff, reference, List.mem_filterMap]
  constructor
  · rintro ⟨f, finding, hset, hfinding, hd⟩
    obtain ⟨entry, he, hf⟩ :=
      ((extends_evaluated hacyclic).walk ⟨rfl, rfl, nofun⟩).settled _ _ hset
    exact ⟨(d.subject, entry), ServiceMap.get?_eq_some_iff.1 he,
      referenceReport?_eq_some_iff.2 ⟨f, finding, hf.symm, hfinding, hd⟩⟩
  · rintro ⟨⟨id, entry⟩, hmem, hd⟩
    obtain ⟨f, finding, hf, hfinding, rfl⟩ := referenceReport?_eq_some_iff.1 hd
    refine ⟨f, finding, ?_, hfinding, rfl⟩
    rw [← hf]
    refine lookup_walk hacyclic (ServiceMap.get?_eq_some_iff.2 hmem) ?_
    rintro candidates rfl
    cases hf
    cases hfinding

/-- On a map in which nothing depends on itself, resolving is evaluating each entry by itself. The
reference comes to the end of every chain of dependencies, builds exactly what the rules of the map
build out of what it builds, and gives the same plan, in the same order, and the same diagnostics.
-/
theorem resolve_reference (hacyclic : Acyclic services) :
    (∀ depth, services.size ≤ depth → buildsWithin services depth = canBuild services) ∧
      (∀ id, canBuild services id = true ↔ id ∈ rule services {z | canBuild services z}) ∧
      (∀ id, (resolve services).1.has id = canBuild services id) ∧
      (resolve services).1 = (reference services).1 ∧
      (resolve services).2.Perm (reference services).2 := by
  refine ⟨fun depth hdepth => funext fun id => ?_, fun id => ?_, fun id => ?_, ?_,
    resolve_diagnostics hacyclic⟩
  · rw [Bool.eq_iff_iff, canBuild_iff hacyclic, buildsWithin_iff hacyclic (.empty hdepth) (by simp)]
  · rw [canBuild_iff hacyclic, ← buildsWithin_iff hacyclic (.empty (Nat.le_succ _)) (by simp)]
    exact buildsWithin_succ services services.size id
  · rw [Bool.eq_iff_iff, has_resolve, walk_built_iff, canBuild_iff hacyclic]
  · rw [ContainerPlan.mk.injEq]
    exact ⟨resolve_services hacyclic, resolve_aliases hacyclic⟩

/-- Nothing depends on itself if dependencies always lead down. -/
theorem acyclic_of_lt (height : String → Nat)
    (h : ∀ id z, DependsOn services id z → height z < height id) : Acyclic services := by
  have htrans : ∀ id z, TransGen (DependsOn services) id z → height z < height id := by
    intro id z hz
    induction hz with
    | single hz => exact h _ _ hz
    | tail _ hz ih => exact (h _ _ hz).trans ih
  exact fun id hid => Nat.lt_irrefl _ (htrans id id hid)

end

/-- A bulletin under a second name, that goes to a mailer and a printer or else nowhere. There is no
printer, so it goes nowhere and an archive of printed copies cannot be built. -/
def bulletin : ServiceMap where
  entries := [
    ("News", .alias "Bulletin"),
    ("Bulletin", .service {
      className := "Bulletin"
      params := [("footer", .service "Footer" (some .skip)),
        ("outputs", .array [(none, .service "Mailer" none), (none, .service "Printer" none)]
          (some (.literal .null)))] }),
    ("Mailer", .service {
      className := "Mailer"
      params := [("dsn", .env "MAILER_DSN" (some (.service "Dsn" none)))] }),
    ("Archive", .service {
      className := "Archive",
      params := [("copies", .array [(none, .service "Printer" none)] none)] })]
  nodup := by decide

/-- How far dependencies lead from the identifiers of `bulletin`. -/
def bulletinHeight : String → Nat
  | "News" => 3
  | "Bulletin" => 2
  | "Mailer" | "Archive" => 1
  | _ => 0

/-- Nothing in the bulletin depends on itself. -/
theorem acyclic_bulletin : Acyclic bulletin := by
  refine acyclic_of_lt bulletinHeight fun id z h => ?_
  cases h with
  | «alias» he =>
    have hmem := ServiceMap.get?_eq_some_iff.1 he
    simp only [bulletin, List.mem_cons, Prod.mk.injEq, reduceCtorEq, and_false, List.not_mem_nil,
      or_false] at hmem
    obtain ⟨rfl, h⟩ := hmem
    cases h
    decide
  | service he hp hz =>
    have hmem := ServiceMap.get?_eq_some_iff.1 he
    simp only [bulletin, List.mem_cons, Prod.mk.injEq, reduceCtorEq, and_false, List.not_mem_nil,
      or_false, false_or, ServiceEntry.service.injEq] at hmem
    rcases hmem with ⟨rfl, rfl⟩ | ⟨rfl, rfl⟩ | ⟨rfl, rfl⟩
    · simp only [List.mem_cons, List.not_mem_nil, or_false] at hp
      rcases hp with rfl | rfl
      · cases hz with
        | head => decide
        | fallback hf hn => cases hf; cases hn with | fallback hf _ => cases hf
      · cases hz with
        | entry he hn =>
          simp only [List.mem_cons, List.not_mem_nil, or_false] at he
          rcases he with rfl | rfl <;> cases hn with
          | head => decide
          | fallback hf _ => cases hf
        | fallback hf hn => cases hf; cases hn with | fallback hf _ => cases hf
    · obtain rfl := List.mem_singleton.1 hp
      cases hz with
      | fallback hf hn =>
        cases hf
        cases hn with
        | head => decide
        | fallback hf _ => cases hf
    · obtain rfl := List.mem_singleton.1 hp
      cases hz with
      | entry he hn =>
        obtain rfl := List.mem_singleton.1 he
        cases hn with
        | head => decide
        | fallback hf _ => cases hf
      | fallback hf _ => cases hf

/-- The bulletin goes nowhere, and the archive is reported for want of a printer. -/
theorem resolve_reference_bulletin : Acyclic bulletin ∧
    (resolve bulletin).1 = (reference bulletin).1 ∧
    (resolve bulletin).2.Perm (reference bulletin).2 ∧
    (reference bulletin).2 = [.error "Archive" (.missingDependency "copies" "Printer")] := by
  obtain ⟨-, -, -, hplan, hdiagnostics⟩ := resolve_reference acyclic_bulletin
  exact ⟨acyclic_bulletin, hplan, hdiagnostics, by decide +kernel⟩

end Wiring.ServiceGraph
