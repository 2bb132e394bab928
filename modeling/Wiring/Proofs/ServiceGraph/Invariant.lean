import Wiring.Proofs.Lookup
import Wiring.Proofs.ServiceGraph.Constructible
import Wiring.Proofs.ServiceGraph.Visit

/-!
# What the walk keeps

While identifiers are visited with a stack, `Inv` holds of the walk. What is settled is final: a
success can be built, its arguments are explained by the bindings (`Explained`) and refer to nothing
but settled successes, down to services without references (`Grounded`); a failure cannot be built.
The successes that wait are in an order in which each refers only to what is settled or waits before
it (`Supported`), whatever the frame that lowered them. A failure found with a cycle still open is
not final: the identifier cannot be built without the part of the stack above that cycle
(`Verdict`).

The step is `visiting_keeps`, one case for each way a visit can go; `visit_keeps` is the induction
on how many identifiers may still be entered.
-/

namespace Wiring.ServiceGraph

open Relation (ReflTransGen)

/-! ## Settled results -/

/-- An identifier is settled as one that can be built. -/
def Walk.Built (w : Walk) (id : String) : Prop :=
  ∃ args, w.settled.lookup id = some (.ok args)

/-- What an identifier refers to if its parameters are lowered to these arguments. -/
inductive EntryRefers (services : ServiceMap) (id : String) (args : List (String × Argument)) :
    String → Prop
  | service {s : ServiceDescriptor} {arg : String × Argument} {z : String} :
      services.get? id = some (.service s) → arg ∈ args → arg.2.Refers z →
      EntryRefers services id args z
  | alias {target : String} : services.get? id = some (.alias target) →
      EntryRefers services id args target

/-- Following references from a settled success ends, at settled successes only. -/
inductive Grounded (services : ServiceMap) (w : Walk) : String → Prop
  | intro {id : String} {args : List (String × Argument)} :
      w.settled.lookup id = some (.ok args) →
      (∀ z, EntryRefers services id args z → Grounded services w z) → Grounded services w id

/-- What lowering the bindings of the service `id` may rest on: a success that can be built, or a
failure that is one for good unless the identifier itself depends on `id`. -/
structure Justified (services : ServiceMap) (id t : String) (v : Visit) : Prop where
  ok : v.failure? = none → t ∈ constructible services
  error : v.failure? ≠ none → t ∈ constructible services → ReflTransGen (DependsOn services) t id

/-- The arguments of a service are what its bindings come to. -/
def Explained (services : ServiceMap) (id : String) (args : List (String × Argument)) : Prop :=
  ∀ s, services.get? id = some (.service s) →
    ∃ o, LowersAll (ownFailure id) (Lowers (Justified services id)) s.params (.ok args) o

/-- Settled results are final. -/
structure Settled (services : ServiceMap) (w : Walk) : Prop where
  built : ∀ id args, w.settled.lookup id = some (.ok args) →
    id ∈ constructible services ∧ Explained services id args ∧ Grounded services w id
  failed : ∀ id f, w.settled.lookup id = some (.error f) → id ∉ constructible services

section
variable {services : ServiceMap} {w w' : Walk} {id : String}

/-- What is grounded stays grounded when more is settled. -/
theorem Grounded.mono (h : Grounded services w id)
    (hw : ∀ id r, w.settled.lookup id = some r → w'.settled.lookup id = some r) :
    Grounded services w' id := by
  induction h with
  | intro hid _ ih => exact .intro (hw _ _ hid) ih

@[simp] theorem lookup_settle (w : Walk) (id z : String)
    (r : Except Failure (List (String × Argument))) :
    (w.settle id r).settled.lookup z = if z = id then some r else w.settled.lookup z :=
  lookup_cons_filter ..

/-- Settling a new result leaves the others as they were. -/
theorem lookup_settle_of_some (hid : w.settled.lookup id = none) {z : String}
    {r r' : Except Failure (List (String × Argument))} (hz : w.settled.lookup z = some r) :
    (w.settle id r').settled.lookup z = some r := by
  rw [lookup_settle, if_neg, hz]
  rintro rfl
  rw [hid] at hz
  cases hz

/-- What is settled is the new result, or was settled before. -/
theorem of_lookup_settle {z : String} {r r' : Except Failure (List (String × Argument))}
    (h : (w.settle id r).settled.lookup z = some r') :
    z = id ∧ r = r' ∨ w.settled.lookup z = some r' := by
  rw [lookup_settle] at h
  split at h
  · next hz => exact .inl ⟨hz, Option.some.inj h⟩
  · exact .inr h

/-- A new result keeps the settled results final, if it is and refers to settled successes. -/
theorem Settled.settle (h : Settled services w) (hid : w.settled.lookup id = none)
    {r : Except Failure (List (String × Argument))}
    (hok : ∀ args, r = .ok args → id ∈ constructible services ∧ Explained services id args ∧
      ∀ z, EntryRefers services id args z → w.Built z)
    (herror : ∀ f, r = .error f → id ∉ constructible services) :
    Settled services (w.settle id r) := by
  have hmono : ∀ z, Grounded services w z → Grounded services (w.settle id r) z :=
    fun z hz => hz.mono fun _ _ => lookup_settle_of_some hid
  refine ⟨fun z args hz => ?_, fun z f hz => ?_⟩
  · rcases of_lookup_settle hz with ⟨rfl, rfl⟩ | hz
    · obtain ⟨hc, he, hrefs⟩ := hok args rfl
      refine ⟨hc, he, .intro ((lookup_settle ..).trans (if_pos rfl)) fun y hy => ?_⟩
      obtain ⟨args', hy'⟩ := hrefs y hy
      exact hmono y (h.built y args' hy').2.2
    · obtain ⟨hc, he, hg⟩ := h.built z args hz
      exact ⟨hc, he, hmono z hg⟩
  · rcases of_lookup_settle hz with ⟨rfl, rfl⟩ | hz
    · exact herror f rfl
    · exact h.failed z f hz

/-- Only what is looked up matters. -/
theorem Settled.congr (h : Settled services w)
    (hw : ∀ z, w'.settled.lookup z = w.settled.lookup z) : Settled services w' := by
  refine ⟨fun z args hz => ?_, fun z f hz => h.failed z f (hw z ▸ hz)⟩
  obtain ⟨hc, he, hg⟩ := h.built z args (hw z ▸ hz)
  exact ⟨hc, he, hg.mono fun y r hy => (hw y).trans hy⟩

end

/-! ## Successes that wait -/

/-- Each success refers only to what is `ok` or comes before it. -/
def Supported (services : ServiceMap) : (ok : String → Prop) → List Pending → Prop
  | _, [] => True
  | ok, e :: rest => (∀ z, EntryRefers services e.id e.args z → ok z) ∧
    Supported services (fun z => ok z ∨ z = e.id) rest

section
variable {services : ServiceMap} {w : Walk} {ok ok' : String → Prop} {l l' : List Pending}

/-- What is supported stays supported when more is allowed. -/
theorem Supported.mono (h : Supported services ok l) (hok : ∀ z, ok z → ok' z) :
    Supported services ok' l := by
  induction l generalizing ok ok' with
  | nil => trivial
  | cons e rest ih => exact ⟨fun z hz => hok z (h.1 z hz), ih h.2 fun z hz => hz.imp_left (hok z)⟩

/-- Successes behind others may refer to these. -/
theorem Supported.append (h : Supported services ok l)
    (h' : Supported services (fun z => ok z ∨ ∃ e ∈ l, e.id = z) l') :
    Supported services ok (l ++ l') := by
  induction l generalizing ok with
  | nil => exact h'.mono fun z hz => hz.resolve_right fun ⟨_, he, _⟩ => by cases he
  | cons e rest ih =>
    refine ⟨h.1, ih h.2 (h'.mono fun z hz => ?_)⟩
    rcases hz with hz | ⟨e', he', rfl⟩
    · exact .inl (.inl hz)
    · rcases List.mem_cons.1 he' with rfl | he'
      · exact .inl (.inr rfl)
      · exact .inr ⟨e', he', rfl⟩

/-- The stack positions that the successes wait for do not matter. -/
theorem Supported.map (h : Supported services ok l) {f : Pending → Pending}
    (hf : ∀ e, (f e).id = e.id ∧ (f e).args = e.args) : Supported services ok (l.map f) := by
  induction l generalizing ok with
  | nil => trivial
  | cons e rest ih =>
    obtain ⟨hid, hargs⟩ := hf e
    refine ⟨?_, ?_⟩
    · rw [hid, hargs]
      exact h.1
    · rw [hid]
      exact ih h.2

/-- Accepting successes settles the first of each identifier that is not settled. -/
theorem lookup_acceptAll (w : Walk) (l : List Pending) (z : String) :
    (l.foldl Walk.accept w).settled.lookup z =
      (w.settled.lookup z).or ((l.find? (·.id == z)).map fun e => .ok e.args) := by
  induction l generalizing w with
  | nil => simp
  | cons e rest ih =>
    rw [List.foldl_cons, ih, Walk.accept]
    by_cases hz : e.id = z
    · subst hz
      cases hset : w.settled.lookup e.id with
      | some r => simp [hset]
      | none => simp
    · have hne : z ≠ e.id := fun h => hz h.symm
      cases hset : w.settled.lookup e.id with
      | some r => simp [hz]
      | none => simp [hz, hne]

/-- Accepting successes that are supported keeps the settled results final. -/
theorem Settled.acceptAll (h : Settled services w) (hl : Supported services w.Built l)
    (hsound : ∀ e ∈ l, e.id ∈ constructible services ∧ Explained services e.id e.args) :
    Settled services (l.foldl Walk.accept w) := by
  induction l generalizing w with
  | nil => exact h
  | cons e rest ih =>
    obtain ⟨hc, he⟩ := hsound e (.head _)
    rw [List.foldl_cons]
    have hsound' := fun e' he' => hsound e' (.tail _ he')
    cases hset : w.settled.lookup e.id with
    | some r =>
      -- settled before, and not as a failure: the later success is dropped
      have haccept : w.accept e = w := by simp [Walk.accept, hset]
      rw [haccept]
      refine ih h (hl.2.mono fun z hz => ?_) hsound'
      rcases hz with hz | rfl
      · exact hz
      · cases r with
        | ok args => exact ⟨args, hset⟩
        | error f => exact absurd hc (h.failed _ f hset)
    | none =>
      have haccept : w.accept e = w.settle e.id (.ok e.args) := by simp [Walk.accept, hset]
      rw [haccept]
      have hnew : Settled services (w.settle e.id (.ok e.args)) := by
        refine h.settle hset (fun args hargs => ?_) (fun f hf => by cases hf)
        cases hargs
        exact ⟨hc, he, hl.1⟩
      refine ih hnew (hl.2.mono fun z hz => ?_) hsound'
      rcases hz with ⟨args, hz⟩ | rfl
      · exact ⟨args, lookup_settle_of_some hset hz⟩
      · exact ⟨e.args, by simp⟩

end

/-! ## The stack -/

/-- The part of the stack above the cycle that a result depends on. -/
def above (stack : List String) (open? : Option Nat) : Set String :=
  {u | ∃ pos, open? = some pos ∧ u ∈ stack.drop pos}

@[simp] theorem above_none (stack : List String) : above stack none = ∅ := by
  simp [above]

@[simp] theorem above_some (stack : List String) (pos : Nat) :
    above stack (some pos) = {u | u ∈ stack.drop pos} := by
  simp [above]

/-- What stands above a position stands on the stack. -/
theorem above_subset (stack : List String) (open? : Option Nat) :
    above stack open? ⊆ {u | u ∈ stack} := by
  rintro u ⟨pos, -, hu⟩
  exact List.mem_of_mem_drop hu

/-- The lower the position, the larger the part above it. -/
theorem above_mono {stack : List String} {o o' : Option Nat} (h : ∀ n, Covers o n → Covers o' n) :
    above stack o ⊆ above stack o' := by
  rintro u ⟨pos, rfl, hu⟩
  obtain ⟨pos', ho', hle⟩ := h pos ⟨pos, rfl, Nat.le_refl _⟩
  exact ⟨pos', ho', List.drop_subset_drop_left stack hle hu⟩

/-- In a frame of its own an identifier is the only addition to what its result depends on. -/
theorem above_push (stack : List String) (id : String) (open? : Option Nat) :
    above (stack ++ [id]) open? ⊆ insert id (above stack (open?.filter (· < stack.length))) := by
  rintro u ⟨pos, rfl, hu⟩
  by_cases hpos : pos < stack.length
  · rw [List.drop_append_of_le_length (Nat.le_of_lt hpos)] at hu
    rcases List.mem_append.1 hu with hu | hu
    · exact .inr ⟨pos, by simp [hpos], hu⟩
    · exact .inl (List.mem_singleton.1 hu)
  · rw [List.drop_append, List.drop_eq_nil_of_le (Nat.le_of_not_lt hpos), List.nil_append] at hu
    exact .inl (List.mem_singleton.1 (List.mem_of_mem_drop hu))

/-! ## The invariant -/

/-- A success of this frame: it is settled or began to wait after those of `base`. -/
def Known (base : List Pending) (w : Walk) (id : String) : Prop :=
  w.Built id ∨ ∃ e ∈ w.pending.drop base.length, e.id = id

/-- What a visit with this stack says. -/
structure Verdict (services : ServiceMap) (stack : List String) (known : String → Prop)
    (id : String) (v : Visit) : Prop where
  ok : v.failure? = none → id ∈ constructible services ∧ known id
  error : v.failure? ≠ none → id ∉ avoiding services (above stack v.open?)

/-- The invariant of the walk, in a frame that began with the successes of `base` waiting. -/
structure Inv (services : ServiceMap) (stack : List String) (base : List Pending) (w : Walk) :
    Prop where
  settled : Settled services w
  /-- No identifier is settled while it is visited. -/
  unsettled : ∀ id ∈ stack, w.settled.lookup id = none
  waiting : ∀ e ∈ w.pending, e.lowest < stack.length ∧ e.id ∈ constructible services ∧
    Explained services e.id e.args
  added : ∃ added, w.pending = base ++ added ∧ Supported services w.Built added ∧
    ∀ e ∈ added, e.id ∉ stack
  frame : ∀ id v, w.frame.lookup id = some v → Verdict services stack (Known base w) id v

/-- What the parameters of a service or the target of an alias come to in a frame of its own. -/
structure Outcome (services : ServiceMap) (stack : List String) (known : String → Prop)
    (id : String) (r : Except Failure (List (String × Argument))) (open? : Option Nat) : Prop where
  ok : ∀ args, r = .ok args → id ∈ constructible services ∧ Explained services id args ∧
    ∀ z, EntryRefers services id args z → known z
  error : ∀ f, r = .error f → id ∉ rule services (avoiding services (above (stack ++ [id]) open?))

section
variable {services : ServiceMap} {stack : List String} {base : List Pending} {id : String}
  {w w' : Walk} {o : Option Nat}

/-- A success stays known as the walk goes on. -/
theorem Known.mono {z : String} (h : Known base w z) (hs : Step o w w') : Known base w' z := by
  rcases h with ⟨args, hz⟩ | ⟨e, he, rfl⟩
  · exact .inl ⟨args, hs.settled _ _ hz⟩
  · obtain ⟨added, hadded, -⟩ := hs.pending
    refine .inr ⟨e, ?_, rfl⟩
    rw [hadded, List.drop_append]
    exact List.mem_append_left _ he

/-- A verdict stays true when more is known. -/
theorem Verdict.mono {v : Visit} {known known' : String → Prop}
    (h : Verdict services stack known id v) (hknown : known id → known' id) :
    Verdict services stack known' id v :=
  ⟨fun hv => ⟨(h.ok hv).1, hknown (h.ok hv).2⟩, h.error⟩

/-- A success may be said of what can be built and is known. -/
theorem Verdict.of_ok {known : String → Prop} (hid : id ∈ constructible services) (hk : known id) :
    Verdict services stack known id ⟨none, o⟩ :=
  ⟨fun _ => ⟨hid, hk⟩, fun h => absurd rfl h⟩

/-- A failure may be said of what cannot be built without the stack above the cycle. -/
theorem Verdict.of_error {known : String → Prop} {f : Failure}
    (hid : id ∉ avoiding services (above stack o)) : Verdict services stack known id ⟨some f, o⟩ :=
  ⟨(nomatch ·), fun _ => hid⟩

/-- An identifier that no rule builds is not built without some of the others. -/
theorem not_mem_avoiding_of_not_rule {T : Set String}
    (h : ∀ C, id ∉ rule services C) : id ∉ avoiding services T := by
  rw [← rule_avoiding]
  exact fun hid => h _ hid.1

/-- Verdicts stay true as the walk goes on. -/
theorem verdict_persists :
    Persists fun w => Verdict services stack (Known base w) :=
  fun _ _ _ _ _ hs h => h.mono fun hk => hk.mono hs

/-- A failure in a frame of its own is one without the rest of the stack. -/
theorem Outcome.not_mem_avoiding {known : String → Prop}
    {r : Except Failure (List (String × Argument))} (h : Outcome services stack known id r o)
    {f : Failure} (hr : r = .error f) :
    id ∉ avoiding services (above stack (o.filter (· < stack.length))) := by
  refine ServiceGraph.not_mem_avoiding fun hid => h.error f hr ?_
  exact rule_mono (avoiding_anti (above_push stack id o)) hid

/-- Entering a frame. -/
theorem Inv.enter (h : Inv services stack base w) (hid : w.settled.lookup id = none) :
    Inv services (stack ++ [id]) w.pending { w with frame := [] } where
  settled := h.settled.congr fun _ => rfl
  unsettled z hz := by
    rcases List.mem_append.1 hz with hz | hz
    · exact h.unsettled z hz
    · exact List.mem_singleton.1 hz ▸ hid
  waiting e he := by
    obtain ⟨hlt, hsound⟩ := h.waiting e he
    exact ⟨by simp; omega, hsound⟩
  added := ⟨[], by simp, trivial, by simp⟩
  frame _ _ hv := by cases hv

/-- What is known in a frame that began with the successes that now wait. -/
theorem known_frame {added : List Pending} {z : String} (hp : w'.pending = base ++ added) :
    Known base w' z ↔ w'.Built z ∨ ∃ e ∈ added, e.id = z := by
  rw [Known, hp, List.drop_left]

/-- The successes that waited before keep waiting below the frame, and those of the frame are ready
when it closes. -/
theorem commit_pending {added : List Pending} {depth : Nat} (hp : w.pending = base ++ added)
    (hbase : ∀ e ∈ base, e.lowest < depth) (hadded : ∀ e ∈ added, depth ≤ e.lowest) :
    w.commit depth = added.foldl Walk.accept { w with pending := base } := by
  have hready : (base ++ added).filter (fun e => decide (depth ≤ e.lowest)) = added := by
    rw [List.filter_append, List.filter_eq_nil_iff.2, List.filter_eq_self.2, List.nil_append]
    · simpa using hadded
    · simpa using hbase
  have hwaiting : (base ++ added).filter (fun e => !decide (depth ≤ e.lowest)) = base := by
    rw [List.filter_append, List.filter_eq_self.2, List.filter_eq_nil_iff.2, List.append_nil]
    · simpa using hadded
    · simpa using hbase
  simp only [Walk.commit, hp, List.partition_eq_filter_filter]
  rw [hready]
  congr 2

/-- What settling a success leaves alone is left alone by accepting those that waited. -/
theorem acceptAll_keeps {α : Type} {part : Walk → α}
    (hpart : ∀ (w : Walk) (id : String) r, part (w.settle id r) = part w) (w : Walk)
    (l : List Pending) : part (l.foldl Walk.accept w) = part w := by
  induction l generalizing w with
  | nil => rfl
  | cons e rest ih =>
    rw [List.foldl_cons, ih, Walk.accept]
    split
    · rfl
    · exact hpart w e.id _

@[simp] theorem acceptAll_pending (w : Walk) (l : List Pending) :
    (l.foldl Walk.accept w).pending = w.pending :=
  acceptAll_keeps (fun _ _ _ => rfl) w l

@[simp] theorem acceptAll_frame (w : Walk) (l : List Pending) :
    (l.foldl Walk.accept w).frame = w.frame :=
  acceptAll_keeps (fun _ _ _ => rfl) w l

/-- The successes of a frame are settled by accepting those that waited in it. -/
theorem Known.built {added : List Pending} {z : String} (hz : Known base w' z)
    (hp : w'.pending = base ++ added) (hA : Settled services (added.foldl Walk.accept w'))
    (hsound : ∀ e ∈ added, e.id ∈ constructible services) :
    (added.foldl Walk.accept w').Built z := by
  rcases (known_frame hp).1 hz with ⟨args, hz⟩ | ⟨e, he, rfl⟩
  · exact ⟨args, by rw [lookup_acceptAll, hz, Option.some_or]⟩
  · obtain ⟨r, hr⟩ : ∃ r, (added.foldl Walk.accept w').settled.lookup e.id = some r := by
      have hfind : (added.find? (·.id == e.id)).isSome := List.find?_isSome.2 ⟨e, he, by simp⟩
      rw [← Option.isSome_iff_exists, lookup_acceptAll, Option.isSome_or, Option.isSome_map, hfind,
        Bool.or_true]
    cases r with
    | ok args => exact ⟨args, hr⟩
    | error f => exact absurd (hsound e he) (hA.failed _ f hr)

/-- A frame keeps its invariant when more is settled and more successes wait, and its verdicts are
those it had and others that hold now. -/
theorem Inv.extend {W : Walk} {new : List Pending} (h : Inv services stack base w)
    (hstep : Step o w W) (hset : Settled services W)
    (hunsettled : ∀ z ∈ stack, W.settled.lookup z = none) (hpend : W.pending = w.pending ++ new)
    (hsup : Supported services W.Built new)
    (hnew : ∀ e ∈ new, e.lowest < stack.length ∧ e.id ∉ stack ∧ e.id ∈ constructible services ∧
      Explained services e.id e.args)
    (hframe : ∀ z v, W.frame.lookup z = some v →
      Verdict services stack (Known base W) z v ∨ w.frame.lookup z = some v) :
    Inv services stack base W := by
  obtain ⟨added, hp, hadded, hfresh⟩ := h.added
  refine ⟨hset, hunsettled, ?_, ⟨added ++ new, ?_, ?_, ?_⟩, fun z v hv => ?_⟩
  · rw [hpend]
    refine List.forall_mem_append.2 ⟨h.waiting, fun e he => ?_⟩
    obtain ⟨hlowest, -, hsound⟩ := hnew e he
    exact ⟨hlowest, hsound⟩
  · rw [hpend, hp, List.append_assoc]
  · exact (hadded.mono fun z ⟨args, hz⟩ => ⟨args, hstep.settled z _ hz⟩).append
      (hsup.mono fun _ => .inl)
  · exact List.forall_mem_append.2 ⟨hfresh, fun e he => (hnew e he).2.1⟩
  · rcases hframe z v hv with hverdict | hv
    · exact hverdict
    · exact (h.frame z v hv).mono fun hk => hk.mono hstep

/-- A frame for `id` was entered from the walk `w` and ends with `w₁`, where it came to `r`. -/
structure Closing (services : ServiceMap) (stack : List String) (base : List Pending) (id : String)
    (w w₁ : Walk) (r : Except Failure (List (String × Argument))) (o : Option Nat) : Prop where
  fresh : id ∉ stack
  outer : Inv services stack base w
  inner : Inv services (stack ++ [id]) w.pending w₁
  step : Step o { w with frame := [] } w₁
  outcome : Outcome services stack (Known w.pending w₁) id r o

section
variable {w₁ : Walk} {r : Except Failure (List (String × Argument))}

/-- The successes that began to wait in the frame. -/
theorem Closing.added (h : Closing services stack base id w w₁ r o) :
    ∃ added, w₁.pending = w.pending ++ added ∧ Supported services w₁.Built added ∧
      (∀ e ∈ added, e.id ∉ stack ++ [id]) ∧ (∀ e ∈ added, Covers o e.lowest) ∧
      ∀ e ∈ added, e.id ∈ constructible services ∧ Explained services e.id e.args := by
  obtain ⟨added, hp, hsup, hfresh⟩ := h.inner.added
  obtain ⟨added', hp', hcov⟩ := h.step.pending
  obtain rfl := List.append_cancel_left (hp.symm.trans hp')
  exact ⟨added, hp, hsup, hfresh, hcov,
    fun e he => (h.inner.waiting e (hp ▸ List.mem_append_right _ he)).2⟩

/-- Accepting what waited in the frame and settling its identifier leaves all results final. -/
theorem Closing.acceptAll (h : Closing services stack base id w w₁ r o)
    (ho : o.filter (· < stack.length) = none) {added : List Pending}
    (hp : w₁.pending = w.pending ++ added) (hsup : Supported services w₁.Built added)
    (hfresh : ∀ e ∈ added, e.id ∉ stack ++ [id])
    (hsound : ∀ e ∈ added, e.id ∈ constructible services ∧ Explained services e.id e.args) :
    (∀ z ∈ stack ++ [id], (added.foldl Walk.accept w₁).settled.lookup z = none) ∧
      Settled services ((added.foldl Walk.accept w₁).settle id r) := by
  have hnone : ∀ z ∈ stack ++ [id], (added.foldl Walk.accept w₁).settled.lookup z = none := by
    intro z hz
    have hfind : added.find? (·.id == z) = none := by
      rw [List.find?_eq_none]
      intro e he hez
      exact hfresh e he (eq_of_beq hez ▸ hz)
    rw [lookup_acceptAll, h.inner.unsettled z hz, hfind]
    rfl
  have hA := h.inner.settled.acceptAll hsup hsound
  refine ⟨hnone, hA.settle (hnone id (by simp)) (fun args hargs => ?_) (fun f hf => ?_)⟩
  · obtain ⟨hc, he, hrefs⟩ := h.outcome.ok args hargs
    exact ⟨hc, he, fun z hz => (hrefs z hz).built hp hA fun e he => (hsound e he).1⟩
  · have hid := h.outcome.not_mem_avoiding hf
    rwa [ho, above_none, avoiding_empty] at hid

/-- The verdict on an identifier whose success is known. -/
theorem Closing.verdict (h : Closing services stack base id w w₁ r o) {known : String → Prop}
    (hknown : ∀ args, r = .ok args → known id) :
    Verdict services stack known id ⟨failureOf r, o.filter (· < stack.length)⟩ := by
  cases r with
  | ok args => exact .of_ok (h.outcome.ok args rfl).1 (hknown args rfl)
  | error f => exact .of_error (h.outcome.not_mem_avoiding rfl)

/-- What is looked up is the same whether an identifier is settled before what waited, or after. -/
theorem lookup_acceptAll_finish (added : List Pending) (frame : List (String × Visit))
    (z : String) :
    (added.foldl Walk.accept
        { ({ w₁ with frame } : Walk).finish id r with pending := base }).settled.lookup z =
      ((added.foldl Walk.accept w₁).settle id r).settled.lookup z := by
  rw [lookup_acceptAll, lookup_settle, lookup_acceptAll]
  simp only [Walk.finish, lookup_settle]
  split <;> simp

/-- Closing a frame that depends on nothing below it settles the identifier and all that waited. -/
theorem Closing.settle (h : Closing services stack base id w w₁ r o)
    (ho : o.filter (· < stack.length) = none) :
    let x := close id stack.length r o { w₁ with frame := w.frame }
    Inv services stack base x.2 ∧ Step x.1.open? w x.2 ∧
      Verdict services stack (Known base x.2) id x.1 := by
  obtain ⟨added, hp, hsup, hfresh, hcov, hsound⟩ := h.added
  obtain ⟨hnone, hset⟩ := h.acceptAll ho hp hsup hfresh hsound
  -- nothing that waits depends on a position of the stack, so all of it is ready
  have hready : ∀ e ∈ added, stack.length ≤ e.lowest := by
    intro e he
    obtain ⟨pos, rfl, hle⟩ := hcov e he
    simp only [Option.filter_eq_none_iff, Option.some.injEq, decide_eq_true_eq, forall_eq'] at ho
    omega
  generalize hW : ((({ w₁ with frame := w.frame } : Walk).finish id r).commit stack.length) = W
  have hclose : close id stack.length r o { w₁ with frame := w.frame } =
      (⟨failureOf r, o.filter (· < stack.length)⟩, W) := by
    simp only [close, ho, bind_apply, modify_apply, pure_apply, hW]
  rw [commit_pending (w := ({ w₁ with frame := w.frame } : Walk).finish id r) hp
    (fun e he => (h.outer.waiting e he).1) hready] at hW
  have hlookup : ∀ z, W.settled.lookup z =
      ((added.foldl Walk.accept w₁).settle id r).settled.lookup z := by
    rw [← hW]
    exact lookup_acceptAll_finish added w.frame
  have hpend : W.pending = w.pending := by rw [← hW, acceptAll_pending]
  have hframe : W.frame = w.frame := by rw [← hW, acceptAll_frame]; rfl
  have hstep : Step (o.filter (· < stack.length)) w W := by
    refine ⟨fun z r' hz => ?_, [], by rw [hpend, List.append_nil], by simp⟩
    rw [hlookup]
    refine lookup_settle_of_some (hnone id (by simp)) ?_
    rw [lookup_acceptAll, h.step.settled z r' hz, Option.some_or]
  have hunsettled : ∀ z ∈ stack, W.settled.lookup z = none := by
    intro z hz
    rw [hlookup, lookup_settle, if_neg fun (hzid : z = id) => h.fresh (hzid ▸ hz)]
    exact hnone z (List.mem_append_left _ hz)
  have hinv : Inv services stack base W :=
    h.outer.extend hstep (hset.congr hlookup) hunsettled (hpend.trans (List.append_nil _).symm)
      trivial (List.forall_mem_nil _) fun z v hv => .inr (hframe ▸ hv)
  rw [hclose]
  exact ⟨hinv, hstep, h.verdict fun args hr => .inl ⟨args, by rw [hlookup, hr]; simp⟩⟩

/-- What waits for longer has the same identifier. -/
theorem wait_id (depth pos : Nat) (e : Pending) : (e.wait depth pos).id = e.id := by
  rw [Pending.wait]
  split <;> rfl

/-- What waits for longer has the same arguments. -/
theorem wait_args (depth pos : Nat) (e : Pending) : (e.wait depth pos).args = e.args := by
  rw [Pending.wait]
  split <;> rfl

/-- What waited below the frame stays as it is when a result is postponed. -/
theorem postpone_pending {added : List Pending} {depth pos : Nat} {v : Visit}
    (hp : w.pending = base ++ added) (hbase : ∀ e ∈ base, e.lowest < depth) :
    (w.postpone id depth pos r v).pending =
      base ++ (added.map (Pending.wait depth pos) ++ Pending.ofResult id pos r) := by
  have hmap : base.map (Pending.wait depth pos) = base :=
    (List.map_congr_left fun e he => if_neg (Nat.not_le_of_lt (hbase e he))).trans
      (List.map_id' base)
  rw [Walk.postpone]
  simp only
  rw [hp, List.map_append, hmap, List.append_assoc]

/-- What waits because of a frame that is postponed waits for a position of the stack below, and is
as sound as before. -/
theorem Closing.waiting (h : Closing services stack base id w w₁ r o) {pos : Nat}
    (hpos : pos < stack.length) {added : List Pending}
    (hfresh : ∀ e ∈ added, e.id ∉ stack ++ [id]) (hcov : ∀ e ∈ added, pos ≤ e.lowest)
    (hsound : ∀ e ∈ added, e.id ∈ constructible services ∧ Explained services e.id e.args)
    {e : Pending}
    (he : e ∈ added.map (Pending.wait stack.length pos) ++ Pending.ofResult id pos r) :
    (pos ≤ e.lowest ∧ e.lowest < stack.length) ∧ e.id ∉ stack ∧ e.id ∈ constructible services ∧
      Explained services e.id e.args := by
  rcases List.mem_append.1 he with he | he
  · obtain ⟨e, hmem, rfl⟩ := List.mem_map.1 he
    rw [wait_id, wait_args]
    refine ⟨?_, fun hz => hfresh e hmem (List.mem_append_left _ hz), hsound e hmem⟩
    have hle := hcov e hmem
    rw [Pending.wait]
    split
    · exact ⟨Nat.le_refl _, hpos⟩
    · exact ⟨hle, by omega⟩
  · cases r with
    | ok args =>
      obtain rfl := List.mem_singleton.1 he
      obtain ⟨hc, hex, -⟩ := h.outcome.ok args rfl
      exact ⟨⟨Nat.le_refl _, hpos⟩, h.fresh, hc, hex⟩
    | error f => cases he

/-- A success joins what waited in its frame, and refers to nothing else. -/
theorem Closing.supported (h : Closing services stack base id w w₁ r o) {pos : Nat}
    {added : List Pending} (hp : w₁.pending = w.pending ++ added)
    (hsup : Supported services w₁.Built added) :
    Supported services w₁.Built
      (added.map (Pending.wait stack.length pos) ++ Pending.ofResult id pos r) := by
  refine (hsup.map fun e => ⟨wait_id _ _ e, wait_args _ _ e⟩).append ?_
  cases r with
  | ok args =>
    refine ⟨fun z hz => ?_, trivial⟩
    rcases (known_frame hp).1 ((h.outcome.ok args rfl).2.2 z hz) with hz | ⟨e, he, rfl⟩
    · exact .inl hz
    · exact .inr ⟨_, List.mem_map_of_mem he, wait_id _ _ e⟩
  | error f => trivial

/-- Closing a frame that depends on a position below it keeps the result for that position. -/
theorem Closing.postpone (h : Closing services stack base id w w₁ r o) {pos : Nat}
    (ho : o.filter (· < stack.length) = some pos) :
    let x := close id stack.length r o { w₁ with frame := w.frame }
    Inv services stack base x.2 ∧ Step x.1.open? w x.2 ∧
      Verdict services stack (Known base x.2) id x.1 := by
  obtain ⟨added, hp, hsup, hfresh, hcov, hsound⟩ := h.added
  obtain ⟨rfl, hpos⟩ : o = some pos ∧ pos < stack.length := by
    simpa [Option.filter_eq_some_iff] using ho
  obtain ⟨added₀, hp₀, -⟩ := h.outer.added
  generalize hW : (({ w₁ with frame := w.frame } : Walk).postpone id stack.length pos r
    ⟨failureOf r, some pos⟩) = W
  have hclose : close id stack.length r (some pos) { w₁ with frame := w.frame } =
      (⟨failureOf r, some pos⟩, W) := by
    simp only [close, ho, bind_apply, modify_apply, pure_apply, hW]
  have hsettled : W.settled = w₁.settled := by rw [← hW]; rfl
  have hframe : ∀ z, W.frame.lookup z =
      if z = id then some ⟨failureOf r, some pos⟩ else w.frame.lookup z := by
    rw [← hW]
    exact fun z => lookup_cons_filter ..
  have hpend : W.pending =
      w.pending ++ (added.map (Pending.wait stack.length pos) ++ Pending.ofResult id pos r) := by
    rw [← hW]
    exact postpone_pending hp fun e he => (h.outer.waiting e he).1
  have hwait := fun e => h.waiting (e := e) hpos hfresh
    (fun e he => (covers_some _ _).1 (hcov e he))
    hsound
  have hstep : Step (some pos) w W :=
    ⟨fun z r' hz => hsettled ▸ h.step.settled z r' hz, _, hpend,
      fun e he => (covers_some _ _).2 (hwait e he).1.1⟩
  -- a success is known because it waits now
  have hverdict : Verdict services stack (Known base W) id ⟨failureOf r, some pos⟩ := by
    rw [← ho]
    refine h.verdict fun args hr => .inr ⟨⟨id, args, pos⟩, ?_, rfl⟩
    rw [hpend, hp₀, List.append_assoc, List.drop_left, hr]
    simp [Pending.ofResult]
  have hunsettled : ∀ z ∈ stack, W.settled.lookup z = none := by
    intro z hz
    rw [hsettled]
    exact h.inner.unsettled z (List.mem_append_left _ hz)
  have hsupported : Supported services W.Built
      (added.map (Pending.wait stack.length pos) ++ Pending.ofResult id pos r) :=
    (h.supported hp hsup).mono fun z ⟨args, hz⟩ => ⟨args, hsettled ▸ hz⟩
  have hinv : Inv services stack base W := by
    refine h.outer.extend hstep (h.inner.settled.congr fun z => by rw [hsettled]) hunsettled hpend
      hsupported (fun e he => ⟨(hwait e he).1.2, (hwait e he).2⟩) fun z v hv => ?_
    rw [hframe] at hv
    split at hv
    · next hz =>
      subst hz
      cases hv
      exact .inl hverdict
    · exact .inr hv
  rw [hclose]
  exact ⟨hinv, hstep, hverdict⟩

/-- Closing a frame keeps the invariant of the one below. -/
theorem Closing.keeps (h : Closing services stack base id w w₁ r o) :
    let x := close id stack.length r o { w₁ with frame := w.frame }
    Inv services stack base x.2 ∧ Step x.1.open? w x.2 ∧
      Verdict services stack (Known base x.2) id x.1 := by
  cases ho : o.filter (· < stack.length) with
  | none => exact h.settle ho
  | some pos => exact h.postpone ho

end

/-! ## What a frame comes to -/

/-- What a frame for `id` comes to, if `P` allows the verdicts on what is visited in it. -/
inductive FrameResult (services : ServiceMap) (P : String → Visit → Prop) (id : String) :
    Except Failure (List (String × Argument)) → Option Nat → Prop
  | alias {target : String} {v : Visit} : services.get? id = some (.alias target) → P target v →
      FrameResult services P id (aliasResult target v.failure?) v.open?
  | service {s : ServiceDescriptor} {r : Except Failure (List (String × Argument))}
      {o : Option Nat} : services.get? id = some (.service s) →
      LowersAll (ownFailure id) (Lowers P) s.params r o → FrameResult services P id r o

/-- The relation of a list may be narrowed as that of a binding. -/
theorem LowersAll.narrow {κ ε : Type} {wrap : κ → Blame → ε} {P Q : String → Visit → Prop}
    {es : List (κ × Binding)} {r : Except ε (List (κ × Argument))}
    (h : LowersAll wrap (Lowers P) es r o)
    (hPQ : ∀ z v, P z v → (∀ n, Covers v.open? n → Covers o n) → Q z v) :
    LowersAll wrap (Lowers Q) es r o :=
  h.imp fun _ _ _ _ ho hl => hl.imp fun z v _ hP hv => hPQ z v hP fun n hn => ho n (hv n hn)

/-- The verdicts may be narrowed to those that depend on nothing below the position that the result
depends on. -/
theorem FrameResult.narrow {P Q : String → Visit → Prop}
    {r : Except Failure (List (String × Argument))} (h : FrameResult services P id r o)
    (hPQ : ∀ z v, P z v → (∀ n, Covers v.open? n → Covers o n) → Q z v) :
    FrameResult services Q id r o := by
  cases h with
  | «alias» he hv => exact .alias he (hPQ _ _ hv fun _ hn => hn)
  | service he hl => exact .service he (hl.narrow hPQ)

/-- An alias comes to a success only if its target does. -/
theorem of_aliasResult_eq_ok {target : String} {failure? : Option Failure}
    {args : List (String × Argument)} (h : aliasResult target failure? = .ok args) :
    failure? = none := by
  cases failure? with
  | none => rfl
  | some f => cases f <;> cases h

section
variable {P : String → Visit → Prop} {C : Set String}
  {r : Except Failure (List (String × Argument))} {args : List (String × Argument)}

/-- The rules build what succeeds out of the identifiers whose visits succeed. -/
theorem FrameResult.mem_rule (h : FrameResult services P id r o)
    (hP : ∀ z v, P z v → v.failure? = none → z ∈ C) (hr : r = .ok args) : id ∈ rule services C := by
  cases h with
  | «alias» he hv =>
    rw [mem_rule_alias he]
    exact hP _ _ hv (of_aliasResult_eq_ok hr)
  | service he hl =>
    rw [mem_rule_service he]
    intro p hp
    obtain ⟨a, o', hl'⟩ := hl.forall_ok args hr p hp
    exact hl'.satisfiable hP

/-- The rules do not build what fails out of identifiers whose visits do not fail. -/
theorem FrameResult.not_mem_rule (h : FrameResult services P id r o)
    (hP : ∀ z v, P z v → v.failure? ≠ none → z ∉ C) {f : Failure} (hr : r = .error f) :
    id ∉ rule services C := by
  cases h with
  | «alias» he hv =>
    rw [mem_rule_alias he]
    refine hP _ _ hv fun hnone => ?_
    rw [hnone] at hr
    cases hr
  | service he hl =>
    rw [mem_rule_service he]
    intro hsat
    obtain ⟨p, hp, blame, o', hl', -⟩ := hl.exists_error f hr
    exact not_lowers_of_satisfiable hP (hsat p hp) blame o' hl'

/-- What succeeds refers only to identifiers whose visits succeed. -/
theorem FrameResult.refers (h : FrameResult services P id r o) (hr : r = .ok args) {z : String}
    (hz : EntryRefers services id args z) : ∃ v, P z v ∧ v.failure? = none := by
  cases h with
  | «alias» he hv =>
    cases hz with
    | service hs _ _ => rw [he] at hs; cases hs
    | «alias» ht =>
      rw [he] at ht
      cases ht
      exact ⟨_, hv, of_aliasResult_eq_ok hr⟩
  | service he hl =>
    cases hz with
    | «alias» ht => rw [he] at ht; cases ht
    | service _ harg hz =>
      obtain ⟨p, _, o', hl'⟩ := hl.mem_ok args hr _ harg
      exact hl'.refers hz

end

/-- A verdict in the frame of `id` is one that lowering its bindings may rest on, if all of the
stack depends on `id`. -/
theorem Verdict.justified {known : String → Prop} {t : String} {v : Visit}
    (hreach : ∀ u ∈ stack ++ [id], ReflTransGen (DependsOn services) u id)
    (h : Verdict services (stack ++ [id]) known t v) : Justified services id t v := by
  refine ⟨fun hv => (h.ok hv).1, fun hv ht => ?_⟩
  obtain ⟨u, hu, htu⟩ := dependsOn_of_not_avoiding ht (h.error hv)
  exact htu.trans (hreach u (above_subset _ _ hu))

/-- The arguments that a frame comes to are what the bindings come to. -/
theorem FrameResult.explained {known : String → Prop}
    {r : Except Failure (List (String × Argument))} {args : List (String × Argument)}
    (hreach : ∀ u ∈ stack ++ [id], ReflTransGen (DependsOn services) u id)
    (h : FrameResult services (Verdict services (stack ++ [id]) known) id r o) (hr : r = .ok args) :
    Explained services id args := by
  intro s hs
  cases h with
  | «alias» he _ => rw [he] at hs; cases hs
  | service he hl =>
    rw [he] at hs
    cases hs
    exact ⟨o, hr ▸ hl.narrow fun t v hv _ => hv.justified hreach⟩

/-- What a frame comes to is final but for the part of the stack that it depends on. -/
theorem FrameResult.outcome {known : String → Prop}
    {r : Except Failure (List (String × Argument))}
    (hreach : ∀ u ∈ stack ++ [id], ReflTransGen (DependsOn services) u id)
    (h : FrameResult services (Verdict services (stack ++ [id]) known) id r o) :
    Outcome services stack known id r o := by
  constructor
  · intro args hr
    refine ⟨?_, h.explained hreach hr, fun z hz => ?_⟩
    · rw [← rule_constructible]
      exact h.mem_rule (fun t v hv hok => (hv.ok hok).1) hr
    · obtain ⟨v, hv, hok⟩ := h.refers hr hz
      exact (hv.ok hok).2
  · intro f hr
    -- no failed verdict is on what can be built without the part of the stack that the result needs
    have h' : FrameResult services (fun t v => v.failure? ≠ none →
        t ∉ avoiding services (above (stack ++ [id]) o)) id r o :=
      h.narrow fun t v hv ho hfail ht => hv.error hfail (avoiding_anti (above_mono ho) ht)
    exact h'.not_mem_rule (fun _ _ hv => hv) hr

/-! ## The step and the run -/

/-- A visit keeps the invariant and gives a verdict, if the visits in its own frame do. All of the
stack depends on the identifier that is visited. -/
theorem visiting_keeps {below : String → WalkM Visit}
    (hreach : ∀ u ∈ stack, ReflTransGen (DependsOn services) u id)
    (hbelow : id ∉ stack → (services.get? id).isSome → ∀ base z, DependsOn services id z →
      VisitKeeps (Inv services (stack ++ [id]) base)
        (fun w => Verdict services (stack ++ [id]) (Known base w)) below z)
    (hw : Inv services stack base w) {x : Visit × Walk}
    (hx : Visiting services below stack id w x) :
    Inv services stack base x.2 ∧ Step x.1.open? w x.2 ∧
      Verdict services stack (Known base x.2) id x.1 := by
  have hreach' : ∀ u ∈ stack ++ [id], ReflTransGen (DependsOn services) u id := by
    intro u hu
    rcases List.mem_append.1 hu with hu | hu
    · exact hreach u hu
    · exact List.mem_singleton.1 hu ▸ .refl
  cases hx with
  | @settled r hset =>
    refine ⟨hw, .refl w, ?_⟩
    cases r with
    | ok args => exact .of_ok (hw.settled.built id args hset).1 (.inl ⟨args, hset⟩)
    | error f =>
      refine .of_error ?_
      rw [above_none, avoiding_empty]
      exact hw.settled.failed id f hset
  | @onStack pos hpos =>
    -- the identifier is itself among those to be avoided
    refine ⟨hw, .refl w, .of_error fun hid => ?_⟩
    rw [← rule_avoiding, above_some] at hid
    obtain ⟨hlt, heq, -⟩ := List.findIdx?_eq_some_iff_getElem.1 hpos
    refine hid.2 (?_ : id ∈ stack.drop pos)
    rw [List.drop_eq_getElem_cons hlt, eq_of_beq heq]
    exact .head _
  | known hknown => exact ⟨hw, .refl w, hw.frame id _ hknown⟩
  | unregistered he =>
    exact ⟨hw, .refl w, .of_error (not_mem_avoiding_of_not_rule fun _ => not_mem_rule_none he)⟩
  | ambiguous he =>
    exact ⟨hw, .refl w, .of_error (not_mem_avoiding_of_not_rule fun _ => not_mem_rule_ambiguous he)⟩
  | @«alias» target hset hn he =>
    obtain ⟨hI, hs, hv⟩ := hbelow hn (by simp [he]) w.pending target (.alias he) _ (hw.enter hset)
    exact Closing.keeps ⟨hn, hw, hI, hs, (FrameResult.alias he hv).outcome hreach'⟩
  | @service s hset hn he =>
    have hparams := fun p hp z hz => hbelow hn (by simp [he]) w.pending z
      (.service (p := p) he hp hz)
    obtain ⟨hI, hs, hl⟩ := lowerService_lowersAll verdict_persists hparams (hw.enter hset)
    exact Closing.keeps ⟨hn, hw, hI, hs, (FrameResult.service he hl).outcome hreach'⟩

/-- Visiting an identifier keeps the invariant, if all of the stack depends on it. -/
theorem visit_keeps {room : Nat} (h : OnStack services room stack)
    (hreach : ∀ u ∈ stack, ReflTransGen (DependsOn services) u id) :
    VisitKeeps (Inv services stack base) (fun w => Verdict services stack (Known base w))
      (visit services room stack) id := by
  induction room generalizing stack base id with
  | zero =>
    exact fun w hw => visiting_keeps hreach (fun hn hid => absurd (h.mem_of_full hid) hn) hw
      (visit_visiting h w)
  | succ room ih =>
    intro w hw
    refine visiting_keeps hreach (fun hn hid base z hz => ih (h.push hid hn) fun u hu => ?_) hw
      (visit_visiting h w)
    rcases List.mem_append.1 hu with hu | hu
    · exact (hreach u hu).tail hz
    · exact List.mem_singleton.1 hu ▸ .single hz

end

end Wiring.ServiceGraph
