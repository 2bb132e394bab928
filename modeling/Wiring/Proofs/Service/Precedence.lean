import Mathlib.Data.List.Nodup
import Wiring.Proofs.Service.Declared

/-!
# What identifiers are registered as

Four rounds write to one map, and a later round may replace, extend or keep what an earlier one
wrote. What an identifier stands for in the end can be said without them: the first of four rules
decides that says something of the identifier by itself (`Registrations.meaning?`), and the rounds
agree with it (`Registrations.get?_register`).

Only the rule for claimed identifiers looks at several classes at once. Its candidates come in
discovery order, and nothing else depends on that order (`Registrations.meaning?_perm`).
-/

namespace Wiring

namespace Registrations

/-! ## The rules -/

/-- The service of a class that is registered under its own name. -/
def ownEntry (config : Config) (c : ClassDescriptor) : ServiceEntry :=
  .service { className := c.name, singleton := c.singletonHint?.getD config.defaultSingleton }

/-- What the last mention of an identifier in a declaration says. -/
def lastMention? (config : Config) (classes : List ClassDescriptor) (id : String) :
    Option ServiceEntry :=
  (config.services.flatMap (mentions config classes)).reverse.lookup id

/-- The concrete classes that have an identifier among their capabilities or parents, in discovery
order. -/
def claimants (classes : List ClassDescriptor) (id : String) : List String :=
  ((classes.filter (·.kind.isInstantiable)).filter (·.implements id)).map (·.name)

/-- What an identifier stands for that some classes claim: for the only one, or for none of several.
-/
def ofClaimants : List String → Option ServiceEntry
  | [] => none
  | [name] => some (.alias name)
  | names => some (.ambiguous names)

/-- The builtin service of an identifier. -/
def builtin? (config : Config) (id : String) : Option ServiceEntry :=
  if id = config.capabilities.container then
    some (.service { className := id, origin := .builtin .container })
  else if id = config.capabilities.config then
    some (.service { className := id, origin := .builtin .config })
  else none

/-- What an identifier stands for: what the last declaration says of it, else the concrete class of
that name, else the classes that claim it, else a builtin service. -/
def meaning? (config : Config) (classes : List ClassDescriptor) (id : String) :
    Option ServiceEntry :=
  (lastMention? config classes id).or <|
  ((class? (classes.filter (·.kind.isInstantiable)) id).map (ownEntry config)).or <|
  (ofClaimants (claimants classes id)).or (builtin? config id)

/-! ## Classes by name -/

section
variable {cs cs' : List ClassDescriptor} {c : ClassDescriptor} {name : String}

/-- A class is found at the front, or behind it. -/
theorem class?_cons (c : ClassDescriptor) (cs : List ClassDescriptor) (name : String) :
    class? (c :: cs) name = if name = c.name then some c else class? cs name := by
  rw [class?, List.find?_cons]
  by_cases h : name = c.name
  · rw [if_pos h, beq_iff_eq.2 h.symm]
  · rw [if_neg h, beq_false_of_ne (Ne.symm h)]
    rfl

/-- Where no two classes have the same name, the class of a name is the one that has it. -/
theorem class?_eq_some_iff (hnd : (cs.map (·.name)).Nodup) :
    class? cs name = some c ↔ c ∈ cs ∧ c.name = name :=
  find?_key_eq_some_iff hnd

/-- The class of a name does not depend on the order of the classes. -/
theorem class?_perm (h : cs'.Perm cs) (hnd : (cs.map (·.name)).Nodup) :
    class? cs' = class? cs := by
  funext name
  ext c
  rw [class?_eq_some_iff hnd, class?_eq_some_iff ((h.map _).nodup_iff.2 hnd), h.mem_iff]

/-- Some of the classes have different names if all have. -/
theorem nodup_names_filter (hnd : (cs.map (·.name)).Nodup) (p : ClassDescriptor → Bool) :
    ((cs.filter p).map (·.name)).Nodup :=
  hnd.sublist (List.filter_sublist.map _)

end

/-! ## The rounds -/

section
variable {config : Config} {classes : List ClassDescriptor} {r : Registrations}

/-- Classes with different names are registered as they are. -/
theorem get?_addClasses {cs : List ClassDescriptor} (hnd : (cs.map (·.name)).Nodup)
    (r : Registrations) (z : String) :
    (cs.foldl (addClass config.defaultSingleton) r).map.get? z =
      ((class? cs z).map (ownEntry config)).or (r.map.get? z) := by
  induction cs generalizing r with
  | nil => rfl
  | cons c rest ih =>
    obtain ⟨hc, hrest⟩ := List.nodup_cons.1 hnd
    rw [List.foldl_cons, ih hrest, addClass, get?_addService, class?_cons]
    by_cases hz : z = c.name
    · subst hz
      have hnone : class? rest c.name = none := List.find?_eq_none.2 fun c' hc' hname =>
        hc (List.mem_map.2 ⟨c', hc', eq_of_beq hname⟩)
      rw [hnone, if_pos rfl, if_pos rfl]
      rfl
    · rw [if_neg hz, if_neg hz]

/-- What an identifier stands for after a class has claimed it. -/
def claimedEntry (known? : Option ServiceEntry) (className : String) : Option ServiceEntry :=
  (claimed? className known?).or known?

/-- A claim changes what its identifier stands for, and nothing else. -/
theorem get?_claim (className : String) (r : Registrations) (id z : String) :
    (claim className r id).map.get? z =
      if z = id then claimedEntry (r.map.get? z) className else r.map.get? z := by
  rw [claim, claimedEntry]
  by_cases hz : z = id
  · subst hz
    cases claimed? className (r.map.get? z) with
    | some entry => simp [ServiceMap.get?_insert]
    | none => simp
  · cases claimed? className (r.map.get? id) with
    | some entry => simp [ServiceMap.get?_insert, hz]
    | none => simp [hz]

/-- Claiming an identifier again changes nothing. -/
theorem claimedEntry_twice (known? : Option ServiceEntry) (className : String) :
    claimedEntry (claimedEntry known? className) className = claimedEntry known? className := by
  rcases known? with _ | (s | candidates | existing)
  · simp [claimedEntry, claimed?]
  · rfl
  · by_cases hmem : className ∈ candidates <;> simp [claimedEntry, claimed?, hmem]
  · by_cases hname : existing = className <;> simp [claimedEntry, claimed?, hname]

/-- A class claims an identifier once, however often it lists it. -/
theorem get?_claims (className : String) (ids : List String) (r : Registrations) (z : String) :
    (ids.foldl (claim className) r).map.get? z =
      if z ∈ ids then claimedEntry (r.map.get? z) className else r.map.get? z := by
  induction ids generalizing r with
  | nil => rfl
  | cons id rest ih =>
    rw [List.foldl_cons, ih, get?_claim]
    by_cases hz : z = id
    · simp [hz, claimedEntry_twice]
    · simp [hz]

/-- A class claims what it implements, and nothing else. -/
theorem get?_addCapabilities (r : Registrations) (c : ClassDescriptor) (z : String) :
    (addCapabilities r c).map.get? z =
      if c.implements z then claimedEntry (r.map.get? z) c.name else r.map.get? z := by
  rw [addCapabilities, get?_claims]
  simp only [ClassDescriptor.implements, List.mem_append, Bool.or_eq_true, List.contains_iff_mem]

/-- Classes claim an identifier in discovery order. -/
theorem get?_addAllCapabilities (cs : List ClassDescriptor) (r : Registrations) (z : String) :
    (cs.foldl addCapabilities r).map.get? z =
      ((cs.filter (·.implements z)).map (·.name)).foldl claimedEntry (r.map.get? z) := by
  induction cs generalizing r with
  | nil => rfl
  | cons c rest ih =>
    rw [List.foldl_cons, ih, get?_addCapabilities]
    by_cases hz : c.implements z <;> simp [hz]

/-- The name of a class is not taken over. -/
theorem foldl_claimedEntry_service (s : ServiceDescriptor) (names : List String) :
    names.foldl claimedEntry (some (.service s)) = some (.service s) := by
  induction names with
  | nil => rfl
  | cons name rest ih => exact ih

/-- One more class that claims an identifier. -/
theorem ofClaimants_concat {names : List String} {name : String} (h : name ∉ names) :
    ofClaimants (names ++ [name]) = claimedEntry (ofClaimants names) name := by
  match names with
  | [] => rfl
  | [first] =>
    have hne : first ≠ name := fun heq => h (heq ▸ .head _)
    simp [ofClaimants, claimedEntry, claimed?, hne]
  | first :: second :: rest => simp [ofClaimants, claimedEntry, claimed?, h]

/-- Different classes that claim an identifier one after the other make of it what they do together.
-/
theorem foldl_claimedEntry_none {names : List String} (hnd : names.Nodup) :
    names.foldl claimedEntry none = ofClaimants names := by
  induction names using List.reverseRecOn with
  | nil => rfl
  | append_singleton names name ih =>
    obtain ⟨hnd, -, hnew⟩ := List.nodup_append.1 hnd
    rw [List.foldl_concat, ih hnd, ofClaimants_concat fun hmem => hnew name hmem name (.head _) rfl]

/-- An identifier of a class stands for this class, and any other for those that claim it. -/
theorem foldl_claimedEntry_own {names : List String} (hnd : names.Nodup)
    (c? : Option ClassDescriptor) : names.foldl claimedEntry (c?.map (ownEntry config)) =
      (c?.map (ownEntry config)).or (ofClaimants names) := by
  cases c? with
  | none => exact foldl_claimedEntry_none hnd
  | some c => exact foldl_claimedEntry_service _ names

/-- What is built in stands under the names that the capabilities give it. -/
theorem builtin?_eq (config : Config) (id : String) : builtin? config id =
    (if id = config.capabilities.container then
      some (.service { className := config.capabilities.container, origin := .builtin .container })
    else none).or (if id = config.capabilities.config then
      some (.service { className := config.capabilities.config, origin := .builtin .config })
    else none) := by
  rw [builtin?]
  by_cases hcontainer : id = config.capabilities.container
  · rw [if_pos hcontainer, if_pos hcontainer, Option.some_or, hcontainer]
  · rw [if_neg hcontainer, if_neg hcontainer, Option.none_or]
    split
    · next hconfig => rw [hconfig]
    · rfl

/-- The rounds agree with the rules. -/
theorem get?_register_eq_meaning? (h : register config classes = .ok r)
    (hnd : (classes.map (·.name)).Nodup) (z : String) :
    r.map.get? z = meaning? config classes z := by
  obtain ⟨r₁, hdeclared, h⟩ := Result.bind_eq_ok.1 h
  cases h
  have hconcrete : ((classes.filter (·.kind.isInstantiable)).map (·.name)).Nodup :=
    nodup_names_filter hnd _
  have hempty : ({} : Registrations).map.get? z = none := rfl
  rw [get?_addBuiltin, get?_addBuiltin, get?_addDeclarations hdeclared,
    get?_addAllCapabilities, get?_addClasses hconcrete, hempty, Option.or_none,
    foldl_claimedEntry_own (nodup_names_filter hconcrete _), meaning?, lastMention?, claimants]
  simp only [Option.or_assoc, builtin?_eq]

end

/-! ## The order of the classes -/

/-- Two entries are the same up to the order of candidates. -/
inductive SameUpToOrder : Option ServiceEntry → Option ServiceEntry → Prop
  | refl (known? : Option ServiceEntry) : SameUpToOrder known? known?
  | ambiguous {names names' : List String} : names.Perm names' →
      SameUpToOrder (some (.ambiguous names)) (some (.ambiguous names'))

section
variable {config : Config} {classes classes' : List ClassDescriptor} {r : Registrations}
  {entry₁? entry₂? : Option ServiceEntry}

/-- Entries that agree up to order still do behind the same first choice. -/
theorem SameUpToOrder.or_left (first? : Option ServiceEntry) (h : SameUpToOrder entry₁? entry₂?) :
    SameUpToOrder (first?.or entry₁?) (first?.or entry₂?) := by
  cases first? with
  | none => exact h
  | some entry => exact .refl _

/-- Entries that agree up to order still do in front of the same last choice. -/
theorem SameUpToOrder.or_right (last? : Option ServiceEntry) (h : SameUpToOrder entry₁? entry₂?) :
    SameUpToOrder (entry₁?.or last?) (entry₂?.or last?) := by
  cases h with
  | refl known? => exact .refl _
  | ambiguous hperm => exact .ambiguous hperm

/-- What claimants make of an identifier does not depend on their order but for the order of
candidates. -/
theorem ofClaimants_perm {names names' : List String} (h : names'.Perm names) :
    SameUpToOrder (ofClaimants names') (ofClaimants names) := by
  match names' with
  | [] =>
    rw [h.nil_eq]
    exact .refl _
  | [name] =>
    rw [h.singleton_eq]
    exact .refl _
  | first :: second :: rest =>
    obtain ⟨first', second', rest', rfl⟩ : ∃ a b l, names = a :: b :: l := by
      match names, h.length_eq with
      | a :: b :: l, _ => exact ⟨a, b, l, rfl⟩
    exact .ambiguous h

/-- The order of the classes matters to the order of candidates only. -/
theorem meaning?_perm (h : classes'.Perm classes) (hnd : (classes.map (·.name)).Nodup)
    (id : String) :
    SameUpToOrder (meaning? config classes' id) (meaning? config classes id) := by
  have hclaimants : (claimants classes' id).Perm (claimants classes id) :=
    ((h.filter _).filter _).map _
  have hmentions : mentions config classes' = mentions config classes := by
    funext d
    rw [mentions, mentions, declaredService, declaredService, class?_perm h hnd]
  rw [meaning?, meaning?, lastMention?, lastMention?, hmentions,
    class?_perm (h.filter _) (nodup_names_filter hnd _)]
  exact .or_left _ (.or_left _ (.or_right _ (ofClaimants_perm hclaimants)))

/-- The service of a declaration does not depend on the order of classes. -/
theorem manualService_perm (h : classes'.Perm classes) (hnd : (classes.map (·.name)).Nodup) :
    manualService config classes' = manualService config classes := by
  funext d
  simp only [manualService, factoryMethod?, class?_perm h hnd]

/-- Nor does it matter to whether registering succeeds. -/
theorem exists_register_perm (h : register config classes = .ok r)
    (hperm : classes'.Perm classes) (hnd : (classes.map (·.name)).Nodup) :
    ∃ r', register config classes' = .ok r' := by
  obtain ⟨r₁, hdeclared, -⟩ := Result.bind_eq_ok.1 h
  have hdeclare : ∀ d ∈ config.services, ∀ r, ∃ r',
    addDeclaration config classes' r d = .ok r' := by
    intro d hd r
    obtain ⟨r₂, r₃, hstep⟩ := Result.of_foldlM_eq_ok hdeclared d hd
    obtain ⟨s, hs, -⟩ := Result.bind_eq_ok.1 hstep
    exact ⟨_, Result.bind_eq_ok.2 ⟨s, manualService_perm hperm hnd ▸ hs, rfl⟩⟩
  obtain ⟨r', hr'⟩ := Result.exists_foldlM_eq_ok hdeclare _
  exact ⟨_, Result.bind_eq_ok.2 ⟨r', hr', rfl⟩⟩

/-- Every identifier is registered as the rules say, in the order in which identifiers are first
met, and registering the classes in another order changes at most the order of candidates. -/
theorem get?_register (h : register config classes = .ok r) (hnd : (classes.map (·.name)).Nodup) :
    (∀ id, r.map.get? id = meaning? config classes id) ∧
      r.map.ids = (mentioned config classes).eraseDups ∧
      ∀ classes', classes'.Perm classes → ∃ r', register config classes' = .ok r' ∧
        ∀ id, SameUpToOrder (r'.map.get? id) (r.map.get? id) := by
  refine ⟨get?_register_eq_meaning? h hnd, ids_register h, fun classes' hperm => ?_⟩
  obtain ⟨r', hr'⟩ := exists_register_perm h hperm hnd
  refine ⟨r', hr', fun id => ?_⟩
  rw [get?_register_eq_meaning? h hnd,
    get?_register_eq_meaning? hr' ((hperm.map _).nodup_iff.2 hnd)]
  exact meaning?_perm hperm hnd id

/-- A capability that two mailers have is ambiguous, in whatever order they are discovered. -/
theorem get?_register_mailers : ∃ r, register {} mailers = .ok r ∧
    (mailers.map (·.name)).Nodup ∧
    r.map.get? "Mailer" = some (.ambiguous ["Smtp", "Ses"]) ∧
    r.map.ids.take 5 = ["Smtp", "Ses", "Newsletter", "Queue", "Mailer"] ∧
    mailers.reverse.Perm mailers ∧ ∃ r', register {} mailers.reverse = .ok r' ∧
      SameUpToOrder (r'.map.get? "Mailer") (r.map.get? "Mailer") := by
  obtain ⟨r, hr⟩ : ∃ r, (register {} mailers).toOption = some r :=
    Option.isSome_iff_exists.1 (by decide +kernel)
  have h := Result.toOption_eq_some.1 hr
  have hnd : (mailers.map (·.name)).Nodup := by decide
  have hperm : mailers.reverse.Perm mailers := List.reverse_perm _
  obtain ⟨hentry, hids, horder⟩ := get?_register h hnd
  obtain ⟨r', hr', hsame⟩ := horder _ hperm
  refine ⟨r, h, hnd, (hentry _).trans (by rfl), ?_, hperm, r', hr', hsame _⟩
  rw [hids]
  decide +kernel

end

end Registrations

end Wiring
