import Wiring.Proofs.ServiceGraph.Resolve

/-!
# What the walk reports

A failure is reported where it is settled, and nowhere else: the diagnostics of a walk are one for
each settled failure (`Reported`). Failures that are found while a cycle is open are neither settled
nor reported, but with nothing on the stack no cycle is open, so in the end every identifier that
stands for one thing is settled (`walk_decided`). It is therefore planned without an error about it,
or left out with exactly one (`errorsAbout_of_has`, `errorsAbout_of_omitted`); about any other
identifier nothing is reported (`errorsAbout_of_not_definite`).

`Extends` says what each way to visit an identifier has to keep for a further fact to be true of the
whole walk (`Extends.walk`).
-/

namespace Wiring

namespace ServiceGraph

open Relation (TransGen)

/-! ## Further facts about the walk -/

/-- A stack on which each identifier depends on the next one, and the last on the one visited. -/
structure Trail (services : ServiceMap) (stack : List String) (id : String) : Prop where
  nodup : stack.Nodup
  linked : (stack ++ [id]).IsChain (DependsOn services)

/-- Each way to visit an identifier keeps `E`, and gives a verdict that `Q` allows under its stack,
if the visits of dependencies in its own frame do. -/
structure Extends (services : ServiceMap) (E : Walk → Prop)
    (Q : List String → String → Visit → Prop) : Prop where
  enter : ∀ w, E w → E { w with frame := [] }
  leave : ∀ w w', E w → E w' → E { w' with frame := w.frame }
  settled : ∀ w stack id r, E w → w.settled.lookup id = some r → Q stack id ⟨failureOf r, none⟩
  onStack : ∀ stack id pos, Trail services stack id → stack.findIdx? (· == id) = some pos →
    Q stack id ⟨some (.cycle (stack.drop pos ++ [id])), some pos⟩
  known : ∀ w stack id v, E w → w.frame.lookup id = some v → Q stack id v
  unregistered : ∀ stack id, services.get? id = none → Q stack id ⟨some .notRegistered, none⟩
  ambiguous : ∀ stack id candidates, services.get? id = some (.ambiguous candidates) →
    Q stack id ⟨some .ambiguous, none⟩
  close : ∀ w stack id r o,
    FrameResult services (fun z v => Verdict services (stack ++ [id]) (fun _ => True) z v ∧
      Q (stack ++ [id]) z v) id r o → E w → w.settled.lookup id = none →
    E (close id stack.length r o w).2 ∧ Q stack id (close id stack.length r o w).1

section
variable {services : ServiceMap} {E : Walk → Prop} {Q : List String → String → Visit → Prop}
  {room : Nat} {stack : List String} {base : List Pending} {id z : String} {w : Walk}

/-- A stack with the identifier visited on it is the trail of what that depends on. -/
theorem Trail.push (h : Trail services stack id) (hid : id ∉ stack) (hz : DependsOn services id z) :
    Trail services (stack ++ [id]) z where
  nodup := List.nodup_append.2 ⟨h.nodup, by simp, fun a ha b hb => by
    rintro rfl
    exact hid (List.mem_singleton.1 hb ▸ ha)⟩
  linked := h.linked.append (.singleton z) (by simpa using hz)

/-- All of the stack depends on the identifier that is visited. -/
theorem Trail.reaches (h : Trail services stack id) :
    ∀ u ∈ stack, TransGen (DependsOn services) u id := by
  have hlinked : (stack ++ [id]).IsChain (TransGen (DependsOn services)) :=
    h.linked.imp fun _ _ hstep => .single hstep
  intro u hu
  exact (List.pairwise_append.1 hlinked.pairwise).2.2 u hu id (.head _)

/-- A fact that says nothing about the verdicts need only be kept where a frame is opened or closed.
-/
theorem Extends.of_close (henter : ∀ w, E w → E { w with frame := [] })
    (hleave : ∀ w w', E w → E w' → E { w' with frame := w.frame })
    (hclose : ∀ w stack id r o,
      FrameResult services (Verdict services (stack ++ [id]) fun _ => True) id r o → E w →
        w.settled.lookup id = none → E (ServiceGraph.close id stack.length r o w).2) :
    Extends services E fun _ _ _ => True where
  enter := henter
  leave := hleave
  settled _ _ _ _ _ _ := trivial
  onStack _ _ _ _ _ := trivial
  known _ _ _ _ _ _ := trivial
  unregistered _ _ _ := trivial
  ambiguous _ _ _ _ := trivial
  close w stack id r o hr h hid :=
    ⟨hclose w stack id r o (hr.narrow fun _ _ hv _ => hv.1) h hid, trivial⟩

/-- A visit keeps a further fact, if the visits of dependencies in its own frame do. -/
theorem Extends.visiting (h : Extends services E Q) {below : String → WalkM Visit}
    (htrail : Trail services stack id)
    (hbelow : id ∉ stack → (services.get? id).isSome → ∀ base z, DependsOn services id z →
      VisitKeeps (fun w => Inv services (stack ++ [id]) base w ∧ E w)
        (fun w z v => Verdict services (stack ++ [id]) (Known base w) z v ∧ Q (stack ++ [id]) z v)
        below z)
    (hw : Inv services stack base w) (hE : E w) {x : Visit × Walk}
    (hx : Visiting services below stack id w x) : E x.2 ∧ Q stack id x.1 := by
  cases hx with
  | settled hset => exact ⟨hE, h.settled w stack id _ hE hset⟩
  | onStack hpos => exact ⟨hE, h.onStack stack id _ htrail hpos⟩
  | known hknown => exact ⟨hE, h.known w stack id _ hE hknown⟩
  | unregistered he => exact ⟨hE, h.unregistered stack id he⟩
  | ambiguous he => exact ⟨hE, h.ambiguous stack id _ he⟩
  | @«alias» target hset hn he =>
    obtain ⟨⟨hI, hE'⟩, -, hv, hQ⟩ := hbelow hn (by simp [he]) w.pending target (.alias he) _
      ⟨hw.enter hset, h.enter w hE⟩
    have hv' : Verdict services (stack ++ [id]) (fun _ => True) target _ := hv.mono fun _ => trivial
    exact h.close _ stack id _ _ (.alias he ⟨hv', hQ⟩) (h.leave _ _ hE hE')
      (hI.unsettled id (by simp))
  | @service s hset hn he =>
    have hparams := fun p hp z hz => hbelow hn (by simp [he]) w.pending z
      (.service (p := p) he hp hz)
    have hpersists : Persists fun w' z v =>
        Verdict services (stack ++ [id]) (Known w.pending w') z v ∧ Q (stack ++ [id]) z v :=
      fun _ _ _ _ _ hs h => ⟨verdict_persists _ _ _ _ _ hs h.1, h.2⟩
    obtain ⟨⟨hI, hE'⟩, -, hl⟩ := lowerService_lowersAll hpersists hparams
      ⟨hw.enter hset, h.enter w hE⟩
    have hl' := hl.narrow (Q := fun z v => Verdict services (stack ++ [id]) (fun _ => True) z v ∧
      Q (stack ++ [id]) z v) fun _ _ hv _ => ⟨hv.1.mono fun _ => trivial, hv.2⟩
    exact h.close _ stack id _ _ (.service he hl') (h.leave _ _ hE hE') (hI.unsettled id (by simp))

/-- Every visit keeps a further fact, if its stack leads to the identifier. -/
theorem Extends.visit (h : Extends services E Q) (hstack : OnStack services room stack)
    (htrail : Trail services stack id) (hw : Inv services stack base w) (hE : E w) :
    E (visit services room stack id w).2 ∧ Q stack id (visit services room stack id w).1 := by
  induction room generalizing stack base id w with
  | zero =>
    exact h.visiting htrail (fun hn hid => absurd (hstack.mem_of_full hid) hn) hw hE
      (visit_visiting hstack w)
  | succ room ih =>
    refine h.visiting htrail (fun hn hid base z hz w hw => ?_) hw hE (visit_visiting hstack w)
    have hpush := hstack.push hid hn
    have htrail' := htrail.push hn hz
    obtain ⟨hI, hs, hv⟩ :=
      visit_keeps hpush (fun u hu => (htrail'.reaches u hu).to_reflTransGen) w hw.1
    obtain ⟨hE', hQ⟩ := ih hpush htrail' hw.1 hw.2
    exact ⟨⟨hI, hE'⟩, hs, hv, hQ⟩

/-- A further fact is true of the whole walk, if it is true at its start. -/
theorem Extends.walk (h : Extends services E Q) (hstart : E {}) : E (walk services) := by
  have hrun : ∀ (ids : List String) (w : Walk), Inv services [] [] w → E w →
      E (ids.foldl (fun w id => (ServiceGraph.visit services services.size [] id w).2) w) := by
    intro ids
    induction ids with
    | nil => exact fun _ _ hE => hE
    | cons id rest ih =>
      intro w hw hE
      refine ih _ (visit_built id hw).1 ?_
      exact (h.visit (.empty (Nat.le_refl _)) ⟨.nil, .singleton id⟩ hw hE).1
  exact hrun services.ids {} (.empty services) hstart

end

/-! ## Diagnostics and settled failures -/

/-- The identifier is registered and stands for one thing: for a service or for another identifier.
-/
def Definite (services : ServiceMap) (id : String) : Prop :=
  ∃ entry, services.get? id = some entry ∧ ∀ candidates, entry ≠ .ambiguous candidates

/-- The diagnostics of a walk are one for each settled failure. -/
structure Reported (services : ServiceMap) (w : Walk) : Prop where
  nodup : (w.diagnostics.map (·.subject)).Nodup
  mem_iff : ∀ d, d ∈ w.diagnostics ↔ ∃ f finding, w.settled.lookup d.subject = some (.error f) ∧
    f.finding? = some finding ∧ d = .error d.subject finding
  failed : ∀ id f, w.settled.lookup id = some (.error f) →
    f.finding?.isSome ∧ Definite services id

section
variable {services : ServiceMap} {w w' : Walk} {id : String} {o : Option Nat}
  {r : Except Failure (List (String × Argument))}

/-- Only the diagnostics and the settled failures matter. -/
theorem Reported.congr (h : Reported services w) (hd : w'.diagnostics = w.diagnostics)
    (hw : ∀ z f, w'.settled.lookup z = some (.error f) ↔ w.settled.lookup z = some (.error f)) :
    Reported services w' where
  nodup := hd ▸ h.nodup
  mem_iff d := by simp only [hd, h.mem_iff, hw]
  failed id f hf := h.failed id f ((hw id f).1 hf)

/-- No diagnostic is about what is not settled. -/
theorem Reported.not_mem_subjects (h : Reported services w) (hid : w.settled.lookup id = none) :
    id ∉ w.diagnostics.map (·.subject) := by
  intro hmem
  obtain ⟨d, hd, rfl⟩ := List.mem_map.1 hmem
  obtain ⟨f, _, hset, -⟩ := (h.mem_iff d).1 hd
  rw [hid] at hset
  cases hset

/-- Finishing an identifier settles it, and nothing else. -/
theorem lookup_finish (w : Walk) (id z : String) (r : Except Failure (List (String × Argument))) :
    (w.finish id r).settled.lookup z = if z = id then some r else w.settled.lookup z :=
  lookup_settle w id z r

/-- Settling a success reports nothing. -/
theorem Reported.finish_ok (h : Reported services w) (hid : w.settled.lookup id = none)
    (args : List (String × Argument)) : Reported services (w.finish id (.ok args)) := by
  refine h.congr (by simp [Walk.finish, Walk.settle]) fun z f => ?_
  rw [lookup_finish]
  split
  · next hz => rw [hz, hid]; simp
  · rfl

/-- Settling a failure reports it. -/
theorem Reported.finish_error {f : Failure} (h : Reported services w)
    (hid : w.settled.lookup id = none) (hf : f.finding?.isSome) (hdef : Definite services id) :
    Reported services (w.finish id (.error f)) := by
  obtain ⟨finding, hfinding⟩ := Option.isSome_iff_exists.1 hf
  have hdiag : (w.finish id (.error f)).diagnostics = w.diagnostics ++ [.error id finding] := by
    simp [Walk.finish, Walk.settle, hfinding]
  have hnew := h.not_mem_subjects hid
  refine ⟨?_, fun d => ?_, fun z f' hf' => ?_⟩
  · rw [hdiag, List.map_append, List.map_singleton]
    exact List.nodup_append.2 ⟨h.nodup, by simp, fun a ha b hb => by
      rintro rfl
      obtain rfl : a = id := List.mem_singleton.1 hb
      exact hnew ha⟩
  · rw [hdiag, List.mem_append, List.mem_singleton, lookup_finish]
    by_cases hz : d.subject = id
    · have hno : d ∉ w.diagnostics := fun hd => hnew (hz ▸ List.mem_map_of_mem hd)
      rw [if_pos hz]
      constructor
      · rintro (hd | rfl)
        · exact absurd hd hno
        · exact ⟨f, finding, rfl, hfinding, rfl⟩
      · rintro ⟨f', finding', hset, hf', hd⟩
        cases hset
        rw [hfinding] at hf'
        cases hf'
        exact .inr (hz ▸ hd)
    · rw [if_neg hz, ← h.mem_iff]
      refine or_iff_left fun hd => hz ?_
      rw [hd]
      rfl
  · rcases of_lookup_settle hf' with ⟨rfl, hnow⟩ | hearlier
    · cases hnow
      exact ⟨hf, hdef⟩
    · exact h.failed z f' hearlier

/-- Settling a result reports it if it is a failure. -/
theorem Reported.finish (h : Reported services w) (hid : w.settled.lookup id = none)
    (hr : ∀ f, r = .error f → f.finding?.isSome ∧ Definite services id) :
    Reported services (w.finish id r) := by
  cases r with
  | ok args => exact h.finish_ok hid args
  | error f => exact h.finish_error hid (hr f rfl).1 (hr f rfl).2

@[simp] theorem acceptAll_diagnostics (w : Walk) (l : List Pending) :
    (l.foldl Walk.accept w).diagnostics = w.diagnostics :=
  acceptAll_keeps (fun _ _ _ => rfl) w l

/-- What waited is settled as a success, so it adds nothing to the settled failures. -/
theorem lookup_commit_eq_error {f : Failure} (w : Walk) (depth : Nat) (z : String) :
    (w.commit depth).settled.lookup z = some (.error f) ↔ w.settled.lookup z = some (.error f) := by
  simp only [Walk.commit, lookup_acceptAll]
  cases w.settled.lookup z with
  | some r => simp
  | none => cases List.find? _ _ <;> simp

/-- What waited is not reported. -/
theorem Reported.commit (h : Reported services w) (depth : Nat) :
    Reported services (w.commit depth) :=
  h.congr (by simp [Walk.commit]) fun z f => lookup_commit_eq_error w depth z

/-- Closing a frame settles no failure but its own, and that only if no cycle is open below it. -/
theorem of_lookup_close_eq_error {f : Failure} {depth : Nat} {z : String}
    (h : (close id depth r o w).2.settled.lookup z = some (.error f)) :
    w.settled.lookup z = some (.error f) ∨
      z = id ∧ r = .error f ∧ o.filter (· < depth) = none := by
  simp only [ServiceGraph.close] at h
  cases ho : o.filter (· < depth) with
  | some pos => rw [ho] at h; exact .inl h
  | none =>
    rw [ho] at h
    replace h := (lookup_commit_eq_error ..).1 h
    rcases of_lookup_settle h with ⟨hz, hr⟩ | h
    · exact .inr ⟨hz, hr, rfl⟩
    · exact .inl h

/-- Closing a frame reports a failure that is settled by it. -/
theorem Reported.close (h : Reported services w) (hid : w.settled.lookup id = none)
    (hr : ∀ f, r = .error f → f.finding?.isSome ∧ Definite services id) (depth : Nat) :
    Reported services (close id depth r o w).2 := by
  simp only [ServiceGraph.close]
  cases o.filter (· < depth) with
  | none => exact (h.finish hid hr).commit depth
  | some pos => exact h.congr rfl fun _ _ => .rfl

/-- An alias fails as its target does if that closes a cycle, and for the sake of its target else.
-/
theorem aliasResult_eq_error {target : String} {failure? : Option Failure} {f : Failure}
    (h : aliasResult target failure? = .error f) :
    (∃ path, failure? = some (.cycle path) ∧ f = .cycle path) ∨
      failure? ≠ none ∧ f = .aliasTarget target := by
  cases failure? with
  | none => cases h
  | some failure =>
    cases failure with
    | cycle path => cases h; exact .inl ⟨path, rfl, rfl⟩
    | notRegistered | ambiguous | dependency | aliasTarget => cases h; exact .inr ⟨nofun, rfl⟩

/-- A service fails of a cycle if it is on it, and for the sake of a dependency else. -/
theorem ownFailure_cases (id param : String) (blame : Blame) :
    (∃ path, blame.cause = .cycle path ∧ id ∈ path ∧ ownFailure id param blame = .cycle path) ∨
      ownFailure id param blame = .dependency param blame.dependency := by
  rw [ownFailure]
  cases blame.cause with
  | cycle path =>
    by_cases hid : id ∈ path
    · exact .inl ⟨path, rfl, hid, by simp [hid]⟩
    · exact .inr (by simp [hid])
  | notRegistered | ambiguous | dependency | aliasTarget => exact .inr rfl

/-- What keeps an alias from being built is worth a report. -/
theorem finding?_aliasResult {target : String} {failure? : Option Failure} {f : Failure}
    (h : aliasResult target failure? = .error f) : f.finding?.isSome := by
  obtain ⟨path, -, rfl⟩ | ⟨-, rfl⟩ := aliasResult_eq_error h <;> rfl

/-- What keeps a service from being built is worth a report. -/
theorem finding?_ownFailure (id param : String) (blame : Blame) :
    (ownFailure id param blame).finding?.isSome := by
  obtain ⟨path, -, -, h⟩ | h := ownFailure_cases id param blame <;> rw [h] <;> rfl

/-- Every visit reports what it settles as a failure. -/
theorem extends_reported (services : ServiceMap) :
    Extends services (Reported services) fun _ _ _ => True := by
  refine .of_close (fun _ h => h.congr rfl fun _ _ => .rfl)
    (fun _ _ _ h => h.congr rfl fun _ _ => .rfl) fun w stack id r o hr h hid => ?_
  refine h.close hid (fun f hf => ?_) _
  cases hr with
  | «alias» he _ => exact ⟨finding?_aliasResult hf, _, he, fun _ => nofun⟩
  | service he hl =>
    obtain ⟨p, -, blame, -, -, rfl⟩ := hl.exists_error f hf
    exact ⟨finding?_ownFailure id p.1 blame, _, he, fun _ => nofun⟩

/-- The diagnostics of the whole walk are one for each settled failure. -/
theorem walk_reported (services : ServiceMap) : Reported services (walk services) :=
  (extends_reported services).walk ⟨.nil, by simp, by simp⟩

end

/-! ## Nothing stays open -/

section
variable {services : ServiceMap} {id : String}

/-- With nothing on the stack a frame is closed for good. -/
theorem close_zero (id : String) (r : Except Failure (List (String × Argument))) (o : Option Nat)
    (w : Walk) : close id 0 r o w = (⟨failureOf r, none⟩, (w.finish id r).commit 0) := by
  have hfilter : o.filter (· < 0) = none := by simp
  simp only [close, hfilter, bind_apply, modify_apply, pure_apply]

/-- Closing a frame for good settles its identifier and leaves the frame below as it was. -/
theorem finish_commit (w : Walk) (id : String) (r : Except Failure (List (String × Argument))) :
    ((w.finish id r).commit 0).frame = w.frame ∧
      (((w.finish id r).commit 0).settled.lookup id).isSome := by
  simp [Walk.commit, Walk.finish, Walk.settle, lookup_acceptAll]

/-- With nothing on the stack a visit keeps no result for later, and what stands for one thing is
settled by it. -/
theorem visit_decided {room : Nat} (h : OnStack services room []) {w : Walk} (hw : w.frame = []) :
    (visit services room [] id w).2.frame = [] ∧
      (Definite services id → ((visit services room [] id w).2.settled.lookup id).isSome) := by
  have hvisit : Visiting services _ [] id w (visit services room [] id w) := visit_visiting h w
  generalize visit services room [] id w = x at hvisit
  cases hvisit with
  | settled hset => exact ⟨hw, fun _ => by simp [hset]⟩
  | onStack hpos => cases hpos
  | known hknown => rw [hw] at hknown; cases hknown
  | unregistered he => exact ⟨hw, fun ⟨_, he', _⟩ => by rw [he] at he'; cases he'⟩
  | ambiguous he =>
    refine ⟨hw, fun ⟨_, he', hno⟩ => ?_⟩
    rw [he] at he'
    cases he'
    exact absurd rfl (hno _)
  | «alias» | service =>
    simp only [List.length_nil, close_zero]
    obtain ⟨hframe, hset⟩ := finish_commit _ _ _
    exact ⟨hframe.trans hw, fun _ => hset⟩

/-- What stands for one thing is settled in the end. -/
theorem walk_decided (hid : Definite services id) : ((walk services).settled.lookup id).isSome := by
  have hrun : ∀ (ids : List String) (w : Walk), Inv services [] [] w → w.frame = [] →
      let w' := ids.foldl (fun w id => (visit services services.size [] id w).2) w
      ∀ z, (w.settled.lookup z).isSome ∨ z ∈ ids ∧ Definite services z →
        (w'.settled.lookup z).isSome := by
    intro ids
    induction ids with
    | nil => exact fun w _ _ z hz => hz.resolve_right fun h => by cases h.1
    | cons first rest ih =>
      intro w hw hf
      obtain ⟨hI, hs, -⟩ := visit_built first hw
      have hempty : OnStack services services.size [] := .empty (Nat.le_refl _)
      obtain ⟨hf', hset⟩ : (visit services services.size [] first w).2.frame = [] ∧
        (Definite services first → _) := visit_decided hempty hf
      refine fun z hz => ih _ hI hf' z ?_
      rcases hz with hz | ⟨hz, hdef⟩
      · obtain ⟨r, hr⟩ := Option.isSome_iff_exists.1 hz
        exact .inl (by simp [hs z r hr])
      · rcases List.mem_cons.1 hz with rfl | hz
        · exact .inl (hset hdef)
        · exact .inr ⟨hz, hdef⟩
  have ⟨_, he, _⟩ := hid
  refine hrun services.ids {} (.empty services) rfl id (.inr ⟨?_, hid⟩)
  exact ServiceMap.mem_ids_iff.2 (by simp [he])

end

end ServiceGraph

/-! ## Counting errors -/

/-- The number of errors about a subject. -/
def errorsAbout (subject : String) (ds : List Diagnostic) : Nat :=
  ds.countP fun d => d.isError && d.subject == subject

/-- The number of warnings about a subject. -/
def warningsAbout (subject : String) (ds : List Diagnostic) : Nat :=
  ds.countP fun d => !d.isError && d.subject == subject

namespace ServiceGraph

section
variable {services : ServiceMap} {id : String}

/-- All diagnostics of a resolved map are errors. -/
theorem isError_of_mem_resolve {d : Diagnostic} (hd : d ∈ (resolve services).2) :
    d.isError = true := by
  obtain ⟨_, _, -, -, heq⟩ := ((walk_reported services).mem_iff d).1 hd
  rw [heq]
  rfl

/-- Resolving gives no warnings. -/
theorem warningsAbout_resolve (services : ServiceMap) (id : String) :
    warningsAbout id (resolve services).2 = 0 := by
  rw [warningsAbout, List.countP_eq_zero]
  intro d hd
  simp [isError_of_mem_resolve hd]

/-- The errors about an identifier are counted by the subjects of all diagnostics. -/
theorem errorsAbout_resolve (services : ServiceMap) (id : String) :
    errorsAbout id (resolve services).2 = ((resolve services).2.map (·.subject)).count id := by
  rw [errorsAbout, List.count, List.countP_map]
  refine List.countP_congr fun d hd => ?_
  simp [isError_of_mem_resolve hd]

/-- An identifier is reported if its failure was settled. -/
theorem mem_subjects_resolve : id ∈ (resolve services).2.map (·.subject) ↔
    ∃ f, (walk services).settled.lookup id = some (.error f) := by
  rw [List.mem_map]
  constructor
  · rintro ⟨d, hd, rfl⟩
    obtain ⟨f, _, hset, -⟩ := ((walk_reported services).mem_iff d).1 hd
    exact ⟨f, hset⟩
  · rintro ⟨f, hset⟩
    obtain ⟨finding, hf⟩ := Option.isSome_iff_exists.1 ((walk_reported services).failed id f hset).1
    exact ⟨.error id finding, ((walk_reported services).mem_iff _).2
      ⟨f, finding, hset, hf, rfl⟩, rfl⟩

/-- No error is about a planned identifier. -/
theorem errorsAbout_of_has (h : (resolve services).1.has id = true) :
    errorsAbout id (resolve services).2 = 0 := by
  obtain ⟨args, hargs⟩ := has_resolve.1 h
  rw [errorsAbout_resolve, List.count_eq_zero, mem_subjects_resolve]
  rintro ⟨f, hf⟩
  rw [hargs] at hf
  cases hf

/-- One error is about each identifier that stands for one thing and is not planned. -/
theorem errorsAbout_of_omitted (hid : Definite services id)
    (h : (resolve services).1.has id = false) : errorsAbout id (resolve services).2 = 1 := by
  obtain ⟨r, hr⟩ := Option.isSome_iff_exists.1 (walk_decided hid)
  rw [errorsAbout_resolve]
  refine List.count_eq_one_of_mem (walk_reported services).nodup (mem_subjects_resolve.2 ?_)
  cases r with
  | ok args => rw [has_resolve.2 ⟨args, hr⟩] at h; cases h
  | error f => exact ⟨f, hr⟩

/-- No error is about what is ambiguous or not registered. -/
theorem errorsAbout_of_not_definite (hid : ¬ Definite services id) :
    errorsAbout id (resolve services).2 = 0 := by
  rw [errorsAbout_resolve, List.count_eq_zero, mem_subjects_resolve]
  rintro ⟨f, hf⟩
  exact hid ((walk_reported services).failed id f hf).2

/-- What is ambiguous or not registered is not planned. -/
theorem has_of_not_definite (hid : ¬ Definite services id) :
    (resolve services).1.has id = false := by
  rw [Bool.eq_false_iff, ne_eq, has_resolve, walk_built_iff, ← rule_constructible]
  intro h
  cases he : services.get? id with
  | none => exact not_mem_rule_none he h
  | some entry =>
    refine hid ⟨entry, he, ?_⟩
    rintro candidates rfl
    exact not_mem_rule_ambiguous he h

end

end ServiceGraph

end Wiring
