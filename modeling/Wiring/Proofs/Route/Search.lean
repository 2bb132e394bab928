import Mathlib.Data.List.Basic
import Wiring.Proofs.Decimal.Reader
import Wiring.Proofs.Route.Trie
import Wiring.Route.Search

/-!
# The route that a search finds

`Routes.Finds rs segments` says what the route of a path is, by the list of the routes of its verb:
the one without captures that is spelled like the path, or else the first of those that fit it and
whose captured values are what the call wants (`RouteCall.Wants`), where two routes are compared at
the first key in which they differ (`Routes.Precedes`). Searching the trie with going back where a
way ends is the same as comparing (`Routes.search_best`).
-/

namespace Wiring

/-! ## Captured values -/

/-- A text is a value of a kind: a whole number of 64 bits, a double, or a word for a truth value.
-/
def Primitive.HasText : Primitive → String → Prop
  | int, text => ∃ n, Decimal.IsInt text.toList n ∧ -2 ^ 63 ≤ n ∧ n < 2 ^ 63
  | float, text => Decimal.IsFloat text.toList
  | bool, text => text ∈ ["true", "false", "1", "0"]
  | string, _ | array, _ => True

/-- A kind accepts the texts of its values. -/
theorem Primitive.accepts_iff {k : Primitive} {text : String} :
    k.accepts text = true ↔ k.HasText text := by
  cases k with
  | int => exact Decimal.isSome_int64?_iff
  | float => exact Decimal.isSome_float?_iff
  | bool => exact List.contains_iff_mem
  | string | array => exact iff_of_true rfl trivial

/-- The captured values that a call wants converted are there, and are values of the kinds it wants.
-/
def RouteCall.Wants (call : RouteCall) (params : List (String × String)) : Prop :=
  ∀ arg ∈ call.args, ∀ k, arg.source = .captured (some k) →
    ∃ text, params.lookup arg.name = some text ∧ k.HasText text

/-- Captured values can be converted exactly if they are what the call wants. -/
theorem RouteMatcher.converts_iff {call : RouteCall} {params : List (String × String)} :
    converts call params = true ↔ call.Wants params := by
  rw [converts, List.all_eq_true, RouteCall.Wants]
  refine forall_congr' fun arg => imp_congr_right fun _ => ?_
  split
  · next k hsource =>
    cases params.lookup arg.name with
    | none => simp [hsource]
    | some text => simp [hsource, Primitive.accepts_iff]
  · next hsource =>
    exact iff_of_true rfl fun k hk => absurd hk (hsource k)

namespace Routes

open RouteMatcher (converts_iff search)

/-! ## What is found -/

/-- The pattern of a capture takes a segment. -/
def Takes (requirement? : Option String) (segment : String) : Prop :=
  ∀ text, requirement? = some text →
    ∃ p, Pattern.ofText? (Route.anchored text) = some p ∧ p.isMatch segment = true

/-- Keys fit segments one by one, and capture some of them. -/
inductive Fits : List RouteKey → List String → List (String × String) → Prop
  | nil : Fits [] [] []
  | literal {text : String} {keys : List RouteKey} {segments : List String}
      {params : List (String × String)} : Fits keys segments params →
      Fits (.literal text :: keys) (text :: segments) params
  | capture {name segment : String} {requirement? : Option String} {keys : List RouteKey}
      {segments : List String} {params : List (String × String)} : Takes requirement? segment →
      Fits keys segments params →
      Fits (.capture name requirement? :: keys) (segment :: segments) ((name, segment) :: params)

/-- Of the keys with which routes begin, `k` came before `k'`. -/
def ComesBefore (rs : Routes) (k k' : RouteKey) : Prop :=
  ∃ rs₁ rs₂, rs = rs₁ ++ rs₂ ∧ k ∈ firsts rs₁ ∧ k' ∉ firsts rs₁

/-- Where two sequences of keys differ first, the one has a literal and the other a capture, or both
have a capture and that of the one came before among the routes that are the same up to there. -/
inductive Precedes : Routes → List RouteKey → List RouteKey → Prop
  | literal {rs : Routes} {text name : String} {requirement? : Option String}
      {keys keys' : List RouteKey} :
      Precedes rs (.literal text :: keys) (.capture name requirement? :: keys')
  | capture {rs : Routes} {name name' : String} {requirement? requirement?' : Option String}
      {keys keys' : List RouteKey} :
      ComesBefore rs (.capture name requirement?) (.capture name' requirement?') →
      Precedes rs (.capture name requirement? :: keys) (.capture name' requirement?' :: keys')
  | deeper {rs : Routes} {k : RouteKey} {keys keys' : List RouteKey} :
      Precedes (below k rs) keys keys' → Precedes rs (k :: keys) (k :: keys')

/-- A route that fits the segments after those that led to `before`, and whose captured values are
what its call wants. -/
structure Candidate (rs : Routes) (before : List (String × String)) (segments : List String)
    (keys : List RouteKey) (m : RouteMatch) : Prop where
  registered : call? rs keys = some m.call
  fits : ∃ params, Fits keys segments params ∧ m.params = before ++ params
  wants : m.call.Wants m.params

/-- The route of a path with these segments, if there is one. -/
inductive Finds (rs : Routes) (segments : List String) : Option RouteMatch → Prop
  | static {call : RouteCall} : call? rs (segments.map .literal) = some call →
      Finds rs segments (some ⟨call, []⟩)
  | captured {keys : List RouteKey} {m : RouteMatch} :
      call? rs (segments.map .literal) = none → Candidate rs [] segments keys m →
      (∀ keys' m', Candidate rs [] segments keys' m' → keys' = keys ∨ Precedes rs keys keys') →
      Finds rs segments (some m)
  | none : call? rs (segments.map .literal) = none →
      (∀ keys m, ¬ Candidate rs [] segments keys m) → Finds rs segments none

/-! ## The order of keys -/

section
variable {rs : Routes} {k k' : RouteKey}

/-- What came before another still does when more routes come. -/
theorem ComesBefore.append (h : ComesBefore rs k k') (rs' : Routes) :
    ComesBefore (rs ++ rs') k k' := by
  obtain ⟨rs₁, rs₂, rfl, hk, hk'⟩ := h
  exact ⟨rs₁, rs₂ ++ rs', List.append_assoc .., hk, hk'⟩

/-- The keys with which routes begin are listed as they came. -/
theorem pairwise_firsts (rs : Routes) : (firsts rs).Pairwise (ComesBefore rs) := by
  induction rs using List.reverseRecOn with
  | nil => exact .nil
  | append_singleton rs r ih =>
    have hold := ih.imp fun h => h.append [r]
    obtain ⟨keys, call⟩ := r
    rw [firsts_concat]
    cases keys with
    | nil => exact hold
    | cons k rest =>
      rw [withFirst]
      split
      · exact hold
      · next hk =>
        refine List.pairwise_append.2 ⟨hold, List.pairwise_singleton _ _, fun k' hk' z hz => ?_⟩
        obtain rfl := List.mem_singleton.1 hz
        exact ⟨rs, _, rfl, hk', hk⟩

/-- No key came before itself. -/
theorem not_comesBefore_self (rs : Routes) (k : RouteKey) : ¬ ComesBefore rs k k :=
  fun ⟨_, _, _, hk, hk'⟩ => hk' hk

end

/-! ## The first of the routes that fit -/

/-- The keys begin with `k`. -/
def Begins (k : RouteKey) (keys : List RouteKey) : Prop :=
  ∃ rest, keys = k :: rest

/-- Of the candidates whose keys are of a kind `p`, the one that precedes the others; nothing if
there is no candidate. -/
def Best (rs : Routes) (before : List (String × String)) (segments : List String)
    (p : List RouteKey → Prop) : Option RouteMatch → Prop
  | none => ∀ keys m, p keys → ¬ Candidate rs before segments keys m
  | some m => ∃ keys, p keys ∧ Candidate rs before segments keys m ∧
    ∀ keys' m', p keys' → Candidate rs before segments keys' m' →
      keys' = keys ∨ Precedes rs keys keys'

section
variable {rs : Routes} {before : List (String × String)} {segment : String} {segments : List String}
  {keys : List RouteKey} {m : RouteMatch}

/-- The keys of a candidate that fits a segment begin with one that comes first. -/
theorem Candidate.begins (h : Candidate rs before (segment :: segments) keys m) :
    ∃ k ∈ firsts rs, Begins k keys := by
  obtain ⟨params, hfits, -⟩ := h.fits
  have hmem := mem_of_call? h.registered
  cases hfits with
  | literal _ | capture _ _ => exact ⟨_, mem_firsts.2 ⟨_, _, hmem⟩, _, rfl⟩

/-- Behind a literal the candidates are those below it. -/
theorem candidate_literal : Candidate rs before (segment :: segments) (.literal segment :: keys) m ↔
    Candidate (below (.literal segment) rs) before segments keys m := by
  constructor
  · rintro ⟨hreg, ⟨params, hfits, hparams⟩, hwants⟩
    cases hfits with
    | literal hfits => exact ⟨(call?_below ..).trans hreg, ⟨params, hfits, hparams⟩, hwants⟩
  · rintro ⟨hreg, ⟨params, hfits, hparams⟩, hwants⟩
    exact ⟨(call?_below ..).symm.trans hreg, ⟨params, .literal hfits, hparams⟩, hwants⟩

/-- Behind a capture that takes the segment the candidates are those below it, with the segment
captured. -/
theorem candidate_capture {name : String} {requirement? : Option String}
    (ht : Takes requirement? segment) :
    Candidate rs before (segment :: segments) (.capture name requirement? :: keys) m ↔
      Candidate (below (.capture name requirement?) rs) (before ++ [(name, segment)]) segments keys
        m := by
  constructor
  · rintro ⟨hreg, ⟨_, hfits, hparams⟩, hwants⟩
    cases hfits with
    | capture _ hfits =>
      exact ⟨(call?_below ..).trans hreg, ⟨_, hfits, by rw [hparams, List.append_assoc]; rfl⟩,
        hwants⟩
  · rintro ⟨hreg, ⟨params, hfits, hparams⟩, hwants⟩
    refine ⟨(call?_below ..).symm.trans hreg, ⟨_, .capture ht hfits, ?_⟩, hwants⟩
    rw [hparams, List.append_assoc]
    rfl

/-- The best of the routes that go on from a key is the best of those that begin with it. -/
theorem Best.of_below {k : RouteKey} {before' : List (String × String)} {r : Option RouteMatch}
    (hiff : ∀ keys m, Candidate rs before (segment :: segments) (k :: keys) m ↔
      Candidate (below k rs) before' segments keys m)
    (h : Best (below k rs) before' segments (fun _ => True) r) :
    Best rs before (segment :: segments) (Begins k) r := by
  cases r with
  | none =>
    rintro _ m ⟨keys, rfl⟩ hc
    exact h keys m trivial ((hiff keys m).1 hc)
  | some m =>
    obtain ⟨keys, -, hc, hfirst⟩ := h
    refine ⟨k :: keys, ⟨keys, rfl⟩, (hiff keys m).2 hc, ?_⟩
    rintro _ m' ⟨keys', rfl⟩ hc'
    rcases hfirst keys' m' trivial ((hiff keys' m').1 hc') with rfl | hprec
    · exact .inl rfl
    · exact .inr (.deeper hprec)

/-- Trying keys in the order in which they came gives the best of the routes that begin with one of
them. -/
theorem Best.findSome {l : List RouteKey} (hl : l.Pairwise (ComesBefore rs))
    {f : RouteKey → Option RouteMatch}
    (hf : ∀ k ∈ l, Best rs before (segment :: segments) (Begins k) (f k))
    (horder : ∀ k ∈ l, ∀ k' ∈ l, ComesBefore rs k k' → ∀ keys keys' m m',
      Candidate rs before (segment :: segments) (k :: keys) m →
      Candidate rs before (segment :: segments) (k' :: keys') m' →
      Precedes rs (k :: keys) (k' :: keys')) :
    Best rs before (segment :: segments) (fun keys => ∃ k ∈ l, Begins k keys) (l.findSome? f) := by
  induction l with
  | nil =>
    rintro keys m ⟨k, hk, -⟩
    cases hk
  | cons k rest ih =>
    obtain ⟨hk, hrest⟩ := List.pairwise_cons.1 hl
    have hfk := hf k (.head _)
    have ih' := ih hrest (fun k' hk' => hf k' (.tail _ hk'))
      fun k₁ h₁ k₂ h₂ => horder k₁ (.tail _ h₁) k₂ (.tail _ h₂)
    rw [List.findSome?_cons]
    cases hr : f k with
    | some m =>
      rw [hr] at hfk
      obtain ⟨_, ⟨keys, rfl⟩, hc, hfirst⟩ := hfk
      refine ⟨_, ⟨k, .head _, keys, rfl⟩, hc, ?_⟩
      rintro _ m' ⟨k', hk', keys', rfl⟩ hc'
      rcases List.mem_cons.1 hk' with rfl | hk'
      · exact hfirst _ m' ⟨keys', rfl⟩ hc'
      · exact .inr (horder k (.head _) k' (.tail _ hk') (hk k' hk') _ _ _ _ hc hc')
    | none =>
      rw [hr] at hfk
      -- nothing begins with the first key, so what holds for the rest holds for all
      have hno : ∀ keys' m', Candidate rs before (segment :: segments) keys' m' →
          (∃ k' ∈ k :: rest, Begins k' keys') → ∃ k' ∈ rest, Begins k' keys' := by
        rintro keys' m' hc' ⟨k', hk', hb⟩
        rcases List.mem_cons.1 hk' with rfl | hk'
        · exact absurd hc' (hfk keys' m' hb)
        · exact ⟨k', hk', hb⟩
      cases hres : rest.findSome? f with
      | none =>
        rw [hres] at ih'
        exact fun keys' m' hb hc' => ih' keys' m' (hno keys' m' hc' hb) hc'
      | some m =>
        rw [hres] at ih'
        obtain ⟨keys, ⟨k', hk', hb⟩, hc, hfirst⟩ := ih'
        exact ⟨keys, ⟨k', .tail _ hk', hb⟩, hc,
          fun keys' m' hb' hc' => hfirst keys' m' (hno keys' m' hc' hb') hc'⟩

end

/-! ## Searching the trie -/

/-- The patterns of the routes are all there, under their texts. -/
def Knows (patterns : List (String × Pattern)) (rs : Routes) : Prop :=
  ∀ r ∈ rs, ∀ text, HasPattern text r.1 →
    ∃ p, patterns.lookup text = some p ∧ Pattern.ofText? (Route.anchored text) = some p

section
variable {patterns : List (String × Pattern)} {rs : Routes} {k : RouteKey}
  {before : List (String × String)} {segment : String} {segments : List String}

/-- The patterns of the routes below a key are all there. -/
theorem Knows.below (h : Knows patterns rs) (k : RouteKey) : Knows patterns (below k rs) :=
  fun _ hr text ht => h _ (mem_below.1 hr) text (hasPattern_cons.2 (.inr ht))

/-- A capture takes a segment if its pattern does. -/
theorem Knows.takes (h : Knows patterns rs) {name : String} {requirement? : Option String}
    (hk : .capture name requirement? ∈ firsts rs) (segment : String) :
    RouteMatcher.takes patterns requirement? segment = true ↔ Takes requirement? segment := by
  cases requirement? with
  | none => simp [RouteMatcher.takes, Takes]
  | some text =>
    obtain ⟨rest, call, hmem⟩ := mem_firsts.1 hk
    obtain ⟨p, hlookup, hp⟩ := h _ hmem text ⟨name, .head _⟩
    simp [RouteMatcher.takes, Takes, hlookup, hp]

/-- Trying the children of a kind gives the best of the routes that begin with a key of that kind.
-/
theorem best_children {p : RouteKey → Bool} {depth : Nat} {f : RouteNode → Option RouteMatch}
    (hf : ∀ k ∈ firsts rs, p k = true →
      Best rs before (segment :: segments) (Begins k) (f (trie depth k (Routes.below k rs))))
    (horder : ∀ k k', p k = true → p k' = true → ComesBefore rs k k' → ∀ keys keys' m m',
      Candidate rs before (segment :: segments) (k :: keys) m →
      Candidate rs before (segment :: segments) (k' :: keys') m' →
      Precedes rs (k :: keys) (k' :: keys')) :
    Best rs before (segment :: segments) (fun keys => ∃ k ∈ (firsts rs).filter p, Begins k keys)
      ((children p depth rs).findSome? f) := by
  rw [children, List.findSome?_map]
  refine Best.findSome ((pairwise_firsts rs).filter _) (fun k hk => ?_) fun k hk k' hk' => ?_
  · obtain ⟨hmem, hp⟩ := List.mem_filter.1 hk
    exact hf k hmem hp
  · exact horder k k' (List.mem_filter.1 hk).2 (List.mem_filter.1 hk').2

/-- If some literal leads to a route, the best of those is the best of all. -/
theorem Best.of_literals {m : RouteMatch}
    (h : Best rs before (segment :: segments)
      (fun keys => ∃ k ∈ (firsts rs).filter RouteKey.isLiteral, Begins k keys) (some m)) :
    Best rs before (segment :: segments) (fun _ => True) (some m) := by
  obtain ⟨_, ⟨k, hk, keys, rfl⟩, hc, hfirst⟩ := h
  refine ⟨_, trivial, hc, fun keys' m' _ hc' => ?_⟩
  obtain ⟨k', hk', keys', rfl⟩ := hc'.begins
  cases hlit : k'.isLiteral with
  | true => exact hfirst _ m' ⟨k', List.mem_filter.2 ⟨hk', hlit⟩, keys', rfl⟩ hc'
  | false =>
    obtain ⟨-, hk⟩ := List.mem_filter.1 hk
    obtain ⟨_, hfits, -⟩ := hc'.fits
    cases hfits with
    | literal _ => cases hlit
    | capture _ _ =>
      cases k with
      | literal text => exact .inr .literal
      | root | capture _ _ => cases hk

/-- If no literal leads to a route, the best of those that begin with a capture is the best of all.
-/
theorem Best.of_captures {r : Option RouteMatch}
    (hnone : Best rs before (segment :: segments)
      (fun keys => ∃ k ∈ (firsts rs).filter RouteKey.isLiteral, Begins k keys) none)
    (h : Best rs before (segment :: segments)
      (fun keys => ∃ k ∈ (firsts rs).filter (fun k => !k.isLiteral), Begins k keys) r) :
    Best rs before (segment :: segments) (fun _ => True) r := by
  have hcapture : ∀ keys m, Candidate rs before (segment :: segments) keys m →
      ∃ k ∈ (firsts rs).filter (fun k => !k.isLiteral), Begins k keys := by
    intro keys m hc
    obtain ⟨k, hk, hb⟩ := hc.begins
    refine ⟨k, List.mem_filter.2 ⟨hk, ?_⟩, hb⟩
    cases hlit : k.isLiteral with
    | true => exact absurd hc (hnone keys m ⟨k, List.mem_filter.2 ⟨hk, hlit⟩, hb⟩)
    | false => rfl
  cases r with
  | none => exact fun keys m _ hc => h keys m (hcapture keys m hc) hc
  | some m =>
    obtain ⟨keys, _, hc, hfirst⟩ := h
    exact ⟨keys, trivial, hc, fun keys' m' _ hc' => hfirst keys' m' (hcapture keys' m' hc') hc'⟩

/-- At the end of the path the route is the one that ends at the node. -/
theorem candidate_nil {keys : List RouteKey} {m : RouteMatch} :
    Candidate rs before [] keys m ↔
      keys = [] ∧ call? rs [] = some m.call ∧ m.params = before ∧ m.call.Wants before := by
  constructor
  · rintro ⟨hreg, ⟨params, hfits, hparams⟩, hwants⟩
    cases hfits
    rw [List.append_nil] at hparams
    exact ⟨rfl, hreg, hparams, hparams ▸ hwants⟩
  · rintro ⟨rfl, hreg, rfl, hwants⟩
    exact ⟨hreg, ⟨[], .nil, (List.append_nil _).symm⟩, hwants⟩

/-- A literal leads on if it is the segment. -/
theorem best_throughLiteral {go : RouteNode → Option RouteMatch} {depth : Nat}
    (hgo : ∀ k, Best (Routes.below k rs) before segments (fun _ => True)
      (go (trie depth k (Routes.below k rs)))) (hk : k.isLiteral = true) :
    Best rs before (segment :: segments) (Begins k)
      (RouteMatcher.throughLiteral? go segment (trie depth k (Routes.below k rs))) := by
  cases k with
  | root | capture _ _ => cases hk
  | literal text =>
    simp only [RouteMatcher.throughLiteral?, trie_key]
    split
    · next heq =>
      subst heq
      exact Best.of_below (fun keys m => candidate_literal) (hgo _)
    · next hne =>
      rintro _ m ⟨keys, rfl⟩ ⟨-, ⟨_, hfits, -⟩, -⟩
      cases hfits with
      | literal _ => exact hne rfl

/-- A capture leads on if its pattern takes the segment. -/
theorem best_throughCapture {go : List (String × String) → RouteNode → Option RouteMatch}
    {depth : Nat} (hknows : Knows patterns rs)
    (hgo : ∀ before k, Best (Routes.below k rs) before segments (fun _ => True)
      (go before (trie depth k (Routes.below k rs)))) (hk : k ∈ firsts rs)
    (hlit : k.isLiteral = false) : Best rs before (segment :: segments) (Begins k)
      (RouteMatcher.throughCapture? patterns go segment before
        (trie depth k (Routes.below k rs))) := by
  simp only [RouteMatcher.throughCapture?, trie_key]
  split
  · next name requirement? =>
    split
    · next htakes =>
      have ht : Takes requirement? segment := (hknows.takes hk segment).1 htakes
      exact Best.of_below (fun _ _ => candidate_capture ht) (hgo _ _)
    · next hno =>
      rintro _ m ⟨keys, rfl⟩ ⟨-, ⟨_, hfits, -⟩, -⟩
      cases hfits with
      | capture htakes _ => exact hno ((hknows.takes hk segment).2 htakes)
  · next hcapture =>
    rintro _ m ⟨keys, rfl⟩ ⟨-, ⟨_, hfits, -⟩, -⟩
    cases hfits with
    | literal _ => cases hlit
    | capture _ _ => exact hcapture _ _ rfl

/-- No two literals are spelled like the segment, so their order does not matter. -/
theorem precedes_of_literals {k' : RouteKey} {keys keys' : List RouteKey} {m m' : RouteMatch}
    (hk : k.isLiteral = true) (hk' : k'.isLiteral = true) (hcomes : ComesBefore rs k k')
    (hc : Candidate rs before (segment :: segments) (k :: keys) m)
    (hc' : Candidate rs before (segment :: segments) (k' :: keys') m') :
    Precedes rs (k :: keys) (k' :: keys') := by
  obtain ⟨_, hfits, -⟩ := hc.fits
  obtain ⟨_, hfits', -⟩ := hc'.fits
  cases hfits with
  | capture _ _ => cases hk
  | literal _ =>
    cases hfits' with
    | capture _ _ => cases hk'
    | literal _ => exact absurd hcomes (not_comesBefore_self rs _)

/-- Captures precede each other as they came. -/
theorem precedes_of_captures {k' : RouteKey} {keys keys' : List RouteKey} {m m' : RouteMatch}
    (hk : (!k.isLiteral) = true) (hk' : (!k'.isLiteral) = true) (hcomes : ComesBefore rs k k')
    (hc : Candidate rs before (segment :: segments) (k :: keys) m)
    (hc' : Candidate rs before (segment :: segments) (k' :: keys') m') :
    Precedes rs (k :: keys) (k' :: keys') := by
  obtain ⟨_, hfits, -⟩ := hc.fits
  obtain ⟨_, hfits', -⟩ := hc'.fits
  cases hfits with
  | literal _ => cases hk
  | capture _ _ =>
    cases hfits' with
    | literal _ => cases hk'
    | capture _ _ => exact .capture hcomes

/-- At the end of the path the search gives the route that ends at the node. -/
theorem search_nil_best (depth : Nat) (key : RouteKey) :
    Best rs before [] (fun _ => True) (search patterns [] before (trie depth key rs)) := by
  rw [trie_eq]
  simp only [search, RouteNode.call?]
  cases hcall : call? rs [] with
  | none =>
    rintro keys m - hc
    rw [(candidate_nil.1 hc).2.1] at hcall
    cases hcall
  | some call =>
    simp only
    split
    · next hwants =>
      refine ⟨[], trivial, candidate_nil.2 ⟨rfl, hcall, rfl, converts_iff.1 hwants⟩,
        fun keys m _ hc => ?_⟩
      exact .inl (candidate_nil.1 hc).1
    · next hwants =>
      rintro keys m - hc
      obtain ⟨-, hreg, -, hc⟩ := candidate_nil.1 hc
      rw [hcall] at hreg
      cases hreg
      exact hwants (converts_iff.2 hc)

/-- The search of a trie finds the best of its routes. -/
theorem search_best (hknows : Knows patterns rs) (depth : Nat) (key : RouteKey) :
    Best rs before segments (fun _ => True)
      (search patterns segments before (trie depth key rs)) := by
  induction segments generalizing rs before depth key with
  | nil => exact search_nil_best depth key
  | cons segment rest ih =>
    have hbelow : ∀ before k, Best (Routes.below k rs) before rest (fun _ => True)
        (search patterns rest before (trie (depth + 1) k (Routes.below k rs))) :=
      fun before k => ih (hknows.below k) (depth + 1) k
    have hliterals : Best rs before (segment :: rest)
        (fun keys => ∃ k ∈ (firsts rs).filter RouteKey.isLiteral, Begins k keys)
        ((children RouteKey.isLiteral (depth + 1) rs).findSome?
          (RouteMatcher.throughLiteral? (search patterns rest before) segment)) := by
      refine best_children (fun k _ hk => best_throughLiteral (hbelow before) hk) ?_
      exact fun k k' hk hk' hcomes keys keys' m m' => precedes_of_literals hk hk' hcomes
    have hcaptures : Best rs before (segment :: rest)
        (fun keys => ∃ k ∈ (firsts rs).filter (fun k => !k.isLiteral), Begins k keys)
        ((children (fun k => !k.isLiteral) (depth + 1) rs).findSome?
          (RouteMatcher.throughCapture? patterns (search patterns rest) segment before)) := by
      refine best_children (fun k hk hlit => ?_) ?_
      · exact best_throughCapture hknows hbelow hk (by simpa using hlit)
      · exact fun k k' hk hk' hcomes keys keys' m m' => precedes_of_captures hk hk' hcomes
    rw [trie_eq]
    simp only [search, RouteNode.literals, RouteNode.captures]
    split
    · next found hfound => exact Best.of_literals (hfound ▸ hliterals)
    · next hnone => exact Best.of_captures (hnone ▸ hliterals) hcaptures

end

/-! ## Routes without captures -/

/-- The routes that have a capture. -/
def captured (rs : Routes) : Routes :=
  rs.filter fun r => !r.1.all RouteKey.isLiteral

section
variable {rs : Routes} {keys keys' : List RouteKey}

/-- Routes are looked up by their keys, so the other routes can be left out. -/
theorem call?_filter {q : List RouteKey × RouteCall → Bool} (h : ∀ call, q (keys, call) = true)
    (rs : Routes) : call? (rs.filter q) keys = call? rs keys := by
  induction rs using List.reverseRecOn with
  | nil => rfl
  | append_singleton rs r ih =>
    obtain ⟨keys', call⟩ := r
    rw [List.filter_append, call?_concat, ← ih]
    by_cases heq : keys = keys'
    · subst heq
      rw [List.filter_cons_of_pos (h call), List.filter_nil, call?_concat, if_pos rfl]
    · rw [if_neg heq]
      cases hq : q (keys', call) with
      | true => rw [List.filter_cons_of_pos hq, List.filter_nil, call?_concat, if_neg heq]
      | false => rw [List.filter_cons_of_neg (by simp [hq]), List.filter_nil, List.append_nil]

/-- A call is found among the routes with captures if it is found among all and its keys have one.
-/
theorem call?_captured {call : RouteCall} : call? (captured rs) keys = some call ↔
    call? rs keys = some call ∧ keys.all RouteKey.isLiteral = false := by
  cases hall : keys.all RouteKey.isLiteral with
  | true =>
    refine iff_of_false (fun h => ?_) fun h => nomatch h.2
    have hmem := (List.mem_filter.1 (mem_of_call? h)).2
    simp [hall] at hmem
  | false =>
    rw [captured, call?_filter fun _ => by simp only [hall, Bool.not_false]]
    exact (and_iff_left rfl).symm

/-- The routes below a key, among some of the routes. -/
theorem below_filter (k : RouteKey) (q : List RouteKey × RouteCall → Bool) (rs : Routes) :
    below k (rs.filter q) = (below k rs).filter fun r => q (k :: r.1, r.2) := by
  rw [below, below, List.filterMap_filter, List.filter_filterMap]
  refine List.filterMap_congr fun r _ => ?_
  cases hk : after? k r.1 with
  | none => simp
  | some rest =>
    have hr : r = (k :: rest, r.2) := Prod.ext (after?_eq_some_iff.1 hk) rfl
    rw [Option.map_some, Option.filter_some, ← hr]

/-- Routes without captures do not matter to the order of captures. -/
theorem Precedes.of_filter {q : List RouteKey × RouteCall → Bool}
    (hq : ∀ r, q r = false → r.1.all RouteKey.isLiteral = true)
    (h : Precedes (rs.filter q) keys keys') : Precedes rs keys keys' := by
  generalize hrs : rs.filter q = rs' at h
  induction h generalizing rs q with
  | literal => exact .literal
  | capture hcomes =>
    subst hrs
    obtain ⟨rs₁, rs₂, heq, hk, hk'⟩ := hcomes
    obtain ⟨l₁, l₂, rfl, rfl, -⟩ := List.filter_eq_append_iff.1 heq
    refine .capture ⟨l₁, l₂, rfl, ?_, fun hmem => hk' ?_⟩
    · obtain ⟨rest, call, hr⟩ := mem_firsts.1 hk
      exact mem_firsts.2 ⟨rest, call, (List.mem_filter.1 hr).1⟩
    · obtain ⟨rest, call, hr⟩ := mem_firsts.1 hmem
      refine mem_firsts.2 ⟨rest, call, List.mem_filter.2 ⟨hr, ?_⟩⟩
      by_contra hno
      have hall := hq _ (Bool.not_eq_true _ ▸ hno)
      simp [RouteKey.isLiteral] at hall
  | @deeper rs' k keys keys' _ ih =>
    subst hrs
    refine .deeper (ih (fun r hr => ?_) (below_filter k q rs).symm)
    have hall := hq _ hr
    rw [List.all_cons, Bool.and_eq_true] at hall
    exact hall.2

/-- Literals fit the segments that they are. -/
theorem fits_literals {segments : List String} {params : List (String × String)}
    (h : Fits keys segments params) (hall : keys.all RouteKey.isLiteral = true) :
    keys = segments.map .literal := by
  induction h with
  | nil => rfl
  | literal _ ih => rw [List.map_cons, ih (by simpa [RouteKey.isLiteral] using hall)]
  | capture _ _ _ => simp [RouteKey.isLiteral] at hall

/-- A path fits the literals that it is made of, and nothing is captured. -/
theorem fits_map_literal (segments : List String) : Fits (segments.map .literal) segments [] := by
  induction segments with
  | nil => exact .nil
  | cons segment rest ih => exact .literal ih

/-- If no route without captures is spelled like the path, the best of the others is the route of
the path. -/
theorem Best.finds {segments : List String} {r : Option RouteMatch}
    (hstatic : call? rs (segments.map .literal) = none)
    (h : Best (captured rs) [] segments (fun _ => True) r) : Finds rs segments r := by
  have hiff : ∀ keys m,
      Candidate (captured rs) [] segments keys m ↔ Candidate rs [] segments keys m := by
    intro keys m
    constructor
    · rintro ⟨hreg, hfits, hwants⟩
      exact ⟨(call?_captured.1 hreg).1, hfits, hwants⟩
    · rintro ⟨hreg, ⟨params, hfits, hparams⟩, hwants⟩
      refine ⟨call?_captured.2 ⟨hreg, ?_⟩, ⟨params, hfits, hparams⟩, hwants⟩
      cases hall : keys.all RouteKey.isLiteral with
      | true =>
        rw [fits_literals hfits hall, hstatic] at hreg
        cases hreg
      | false => rfl
  cases r with
  | none => exact .none hstatic fun keys m hc => h keys m trivial ((hiff keys m).2 hc)
  | some m =>
    obtain ⟨keys, -, hc, hfirst⟩ := h
    refine .captured hstatic ((hiff keys m).1 hc) fun keys' m' hc' => ?_
    refine (hfirst keys' m' trivial ((hiff keys' m').2 hc')).imp_right fun hprec => ?_
    exact hprec.of_filter fun r hr => by simpa using hr

end

/-! ## There is one route of a path -/

section
variable {rs : Routes} {k k' : RouteKey} {keys keys' : List RouteKey} {segments : List String}

/-- Of two keys only one came before the other. -/
theorem ComesBefore.asymm (h : ComesBefore rs k k') : ¬ ComesBefore rs k' k := by
  rintro ⟨rs₃, rs₄, heq', hk', hk⟩
  obtain ⟨rs₁, rs₂, heq, h₁, h₂⟩ := h
  have hmono : ∀ (l l' : Routes) z, z ∈ firsts l → z ∈ firsts (l ++ l') := by
    intro l l' z hz
    obtain ⟨rest, call, hr⟩ := mem_firsts.1 hz
    exact mem_firsts.2 ⟨rest, call, List.mem_append_left _ hr⟩
  rcases List.append_eq_append_iff.1 (heq.symm.trans heq') with ⟨l, rfl, -⟩ | ⟨l, rfl, -⟩
  · exact hk (hmono _ _ _ h₁)
  · exact h₂ (hmono _ _ _ hk')

/-- Of two sequences of keys only one precedes the other. -/
theorem Precedes.asymm (h : Precedes rs keys keys') : ¬ Precedes rs keys' keys := by
  induction h with
  | literal => intro h'; cases h'
  | capture hcomes =>
    intro h'
    cases h' with
    | capture hcomes' => exact hcomes.asymm hcomes'
    | deeper _ => exact not_comesBefore_self _ _ hcomes
  | deeper _ ih =>
    intro h'
    cases h' with
    | capture hcomes => exact not_comesBefore_self _ _ hcomes
    | deeper h' => exact ih h'

/-- Keys capture the same values of the same segments. -/
theorem Fits.unique {params params' : List (String × String)} (h : Fits keys segments params)
    (h' : Fits keys segments params') : params = params' := by
  induction h generalizing params' with
  | nil => cases h'; rfl
  | literal _ ih => cases h' with | literal h' => exact ih h'
  | capture _ _ ih => cases h' with | capture _ h' => rw [ih h']

/-- Keys are those of one candidate at most. -/
theorem Candidate.unique {before : List (String × String)} {m m' : RouteMatch}
    (h : Candidate rs before segments keys m) (h' : Candidate rs before segments keys m') :
    m = m' := by
  obtain ⟨hreg, ⟨params, hfits, hparams⟩, -⟩ := h
  obtain ⟨hreg', ⟨params', hfits', hparams'⟩, -⟩ := h'
  obtain ⟨call, _⟩ := m
  obtain ⟨call', _⟩ := m'
  obtain rfl : call = call' := Option.some.inj (hreg.symm.trans hreg')
  simp only at hparams hparams'
  rw [hparams, hparams', hfits.unique hfits']

/-- A path has one route at most. -/
theorem Finds.unique {r r' : Option RouteMatch} (h : Finds rs segments r)
    (h' : Finds rs segments r') : r = r' := by
  cases h with
  | static hcall =>
    cases h' with
    | static hcall' => rw [hcall] at hcall'; cases hcall'; rfl
    | captured hno _ _ | none hno _ => rw [hcall] at hno; cases hno
  | captured hno hc hfirst =>
    cases h' with
    | static hcall => rw [hno] at hcall; cases hcall
    | captured _ hc' hfirst' =>
      rcases hfirst _ _ hc' with rfl | hprec
      · rw [hc.unique hc']
      · rcases hfirst' _ _ hc with rfl | hprec'
        · rw [hc.unique hc']
        · exact absurd hprec' hprec.asymm
    | none _ hnone => exact absurd hc (hnone _ _)
  | none hno hnone =>
    cases h' with
    | static hcall => rw [hno] at hcall; cases hcall
    | captured _ hc _ => exact absurd hc (hnone _ _)
    | none _ _ => rfl

end

end Routes

end Wiring
