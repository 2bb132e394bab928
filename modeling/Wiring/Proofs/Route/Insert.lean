import Wiring.Proofs.Route.Replace

/-!
# What inserting changes

A trie that calls were inserted into, one after another, is well formed: nodes count the segments
above them, and their children are told apart by their keys (`RouteNode.WellFormed`). Inserting one
more call gives back the call at the end of its keys and takes its place; whatever is at the end of
other keys stays, and so does the order of the nodes that are there (`RouteNode.Inserted`). A trie
that grew by insertions is the trie of their calls (`RouteNode.ofInsertions_eq`), so nearly all of
this is read off the list of these. Only the order of the calls in the trie has to be followed
through its nodes, since the list does not tell it (`RouteNode.calls_insert`).
-/

namespace Wiring

namespace RouteKey

/-- Whether the key is for a capture. -/
def isCapture : RouteKey → Bool
  | capture _ _ => true
  | root | literal _ => false

/-- A key that is neither the root nor a literal is a capture. -/
theorem isCapture_of_not_isLiteral {k : RouteKey} (hroot : k ≠ root) (h : k.isLiteral = false) :
    k.isCapture = true := by
  cases k with
  | root => exact absurd rfl hroot
  | literal => cases h
  | capture => rfl

/-- The key of a segment is not the root. -/
theorem ofSegment_ne_root (requirements : List (String × String)) (s : Route.Segment) :
    ofSegment requirements s ≠ root := by
  cases s <;> exact nofun

end RouteKey

namespace RouteNode

/-! ## Nodes of a trie -/

/-- A node with some number of segments above it: it and the nodes below it count these, keep their
children by kind, and have no two children with the same key. -/
inductive WellFormed : Nat → RouteNode → Prop
  | node {depth : Nat} {key : RouteKey} {literals captures : List RouteNode}
      {call? : Option RouteCall} :
      (∀ c ∈ literals, c.key.isLiteral = true) → (∀ c ∈ captures, c.key.isCapture = true) →
      ((literals ++ captures).map RouteNode.key).Nodup →
      (∀ c ∈ literals ++ captures, WellFormed (depth + 1) c) →
      WellFormed depth (node depth key literals captures call?)

/-- The first child with a key. -/
def child? (n : RouteNode) (key : RouteKey) : Option RouteNode :=
  (n.literals ++ n.captures).find? (·.key == key)

/-- The node at the end of some keys. -/
def at? (n : RouteNode) : List RouteKey → Option RouteNode
  | [] => some n
  | key :: rest => (n.child? key).bind fun c => c.at? rest

/-- The call at the end of some keys. -/
def callAt? (n : RouteNode) (keys : List RouteKey) : Option RouteCall :=
  (n.at? keys).bind call?

/-- A call behind a key is looked for at the child with the key. -/
theorem callAt?_cons (n : RouteNode) (key : RouteKey) (rest : List RouteKey) :
    n.callAt? (key :: rest) = (n.child? key).bind fun c => c.callAt? rest :=
  Option.bind_assoc ..

/-! ## Insertions -/

/-- A call, and the template with patterns of its captures at whose end it is inserted. -/
structure Insertion where
  template : List Route.Segment
  requirements : List (String × String) := []
  call : RouteCall

namespace Insertion

/-- The keys of the template. -/
def keys (i : Insertion) : List RouteKey :=
  i.template.map (RouteKey.ofSegment i.requirements)

/-- The trie with the call, and the call that it takes the place of. -/
def into (i : Insertion) (n : RouteNode) : RouteNode × Option RouteCall :=
  n.insert i.requirements i.call i.template

/-- The keys of an insertion do not hold the root. -/
theorem root_not_mem_keys (i : Insertion) : .root ∉ i.keys := by
  intro h
  obtain ⟨s, -, hs⟩ := List.mem_map.1 h
  exact RouteKey.ofSegment_ne_root _ s hs

end Insertion

/-- The empty trie after some insertions. -/
def ofInsertions (is : List Insertion) : RouteNode :=
  is.foldl (fun n i => (i.into n).1) root

/-- What an insertion into a trie does to it. -/
structure Inserted (i : Insertion) (n : RouteNode) (result : RouteNode × Option RouteCall) :
    Prop where
  /-- The call that is given back is the one that was at the end of the keys. -/
  returned : result.2 = n.callAt? i.keys
  stored : result.1.callAt? i.keys = some i.call
  /-- At the end of all other keys there is what was there. -/
  others : ∀ keys, keys ≠ i.keys → result.1.callAt? keys = n.callAt? keys
  /-- The nodes that were there are where they were, and a new one stands behind its siblings. -/
  siblings : ∀ keys m, n.at? keys = some m → ∃ m', result.1.at? keys = some m' ∧
    m.literals.map key <+: m'.literals.map key ∧ m.captures.map key <+: m'.captures.map key
  /-- The call that is given back is taken out of the calls, and the new one is in its place. -/
  calls : Exchanged result.2 i.call n.calls result.1.calls

end RouteNode

namespace Routes

section
variable {rs : Routes} {k : RouteKey} {keys : List RouteKey} {segment : Nat} {key : RouteKey}
  {n m : RouteNode}

/-! ## Nodes of the trie of routes -/

/-- The keys of the children of a kind are those that come first. -/
theorem map_key_children (p : RouteKey → Bool) (segment : Nat) (rs : Routes) :
    (children p segment rs).map RouteNode.key = (firsts rs).filter p := by
  rw [children, List.map_map]
  refine (List.map_congr_left fun k _ => ?_).trans (List.map_id _)
  exact trie_key ..

/-- No two children have the same key. -/
theorem nodup_map_key_children (segment : Nat) (rs : Routes) :
    ((children RouteKey.isLiteral segment rs ++
      children (fun k => !k.isLiteral) segment rs).map RouteNode.key).Nodup := by
  rw [List.map_append, map_key_children, map_key_children]
  exact (List.filter_append_perm _ _).nodup_iff.2 (nodup_firsts rs)

/-- The trie of routes whose keys are for literals and captures is well formed. -/
theorem wellFormed_trie (h : ∀ r ∈ rs, .root ∉ r.1) :
    (trie segment key rs).WellFormed segment := by
  induction rs using recBelow generalizing segment key with
  | node rs ih =>
    rw [trie_eq]
    refine .node ?_ ?_ (nodup_map_key_children ..) ?_
    · intro c hc
      obtain ⟨k, hk, rfl⟩ := List.mem_map.1 hc
      rw [trie_key]
      exact (List.mem_filter.1 hk).2
    · intro c hc
      obtain ⟨k, hk, rfl⟩ := List.mem_map.1 hc
      obtain ⟨hfirst, hkind⟩ := List.mem_filter.1 hk
      obtain ⟨rest, call, hmem⟩ := mem_firsts.1 hfirst
      rw [trie_key]
      refine RouteKey.isCapture_of_not_isLiteral ?_ (by simpa using hkind)
      rintro rfl
      exact h _ hmem (.head _)
    · refine forall_mem_children.2 fun k hk => ih k hk fun r hr hroot => ?_
      exact h _ (mem_below.1 hr) (.tail _ hroot)

/-- There is a child for each key that comes first, the trie of the routes that go on from it. -/
theorem child?_trie_eq_some_iff : (trie segment key rs).child? k = some n ↔
    k ∈ firsts rs ∧ trie (segment + 1) k (below k rs) = n := by
  rw [trie_eq]
  refine (find?_key_eq_some_iff (nodup_map_key_children ..)).trans ?_
  constructor
  · rintro ⟨hn, rfl⟩
    refine (forall_mem_children (P := fun c => c.key ∈ firsts rs ∧
      trie (segment + 1) c.key (below c.key rs) = c)).2 (fun k hk => ?_) n hn
    rw [trie_key]
    exact ⟨hk, rfl⟩
  · rintro ⟨hk, rfl⟩
    exact ⟨forall_mem_children.1 (fun _ hn => hn) k hk, trie_key ..⟩

/-- At the end of some keys there is the call of the last route with them. -/
theorem callAt?_trie (segment : Nat) (key : RouteKey) (rs : Routes) (keys : List RouteKey) :
    (trie segment key rs).callAt? keys = call? rs keys := by
  induction keys generalizing segment key rs with
  | nil =>
    rw [trie_eq]
    rfl
  | cons k rest ih =>
    rw [RouteNode.callAt?_cons]
    cases hchild : (trie segment key rs).child? k with
    | some c =>
      obtain ⟨-, rfl⟩ := child?_trie_eq_some_iff.1 hchild
      exact (ih ..).trans (call?_below ..)
    | none =>
      have hk : k ∉ firsts rs := fun hk => by
        rw [child?_trie_eq_some_iff.2 ⟨hk, rfl⟩] at hchild
        cases hchild
      rw [← call?_below, below_eq_nil hk]
      rfl

/-! ## More routes -/

/-- The nodes of a trie are where they were after more routes, and their children in the order in
which they were. -/
theorem at?_trie_append (h : (trie segment key rs).at? keys = some m) (rs' : Routes) :
    ∃ m', (trie segment key (rs ++ rs')).at? keys = some m' ∧
      m.literals.map RouteNode.key <+: m'.literals.map RouteNode.key ∧
        m.captures.map RouteNode.key <+: m'.captures.map RouteNode.key := by
  induction keys generalizing segment key rs rs' with
  | nil =>
    cases h
    refine ⟨_, rfl, ?_⟩
    rw [trie_eq, trie_eq]
    simp only [RouteNode.literals, RouteNode.captures, map_key_children]
    exact ⟨(firsts_prefix_append ..).filter _, (firsts_prefix_append ..).filter _⟩
  | cons k rest ih =>
    obtain ⟨c, hchild, hm⟩ := Option.bind_eq_some_iff.1 h
    obtain ⟨hk, rfl⟩ := child?_trie_eq_some_iff.1 hchild
    obtain ⟨m', hm', horder⟩ := ih hm (below k rs')
    rw [← below_append] at hm'
    have hchild' : (trie segment key (rs ++ rs')).child? k =
        some (trie (segment + 1) k (below k (rs ++ rs'))) :=
      child?_trie_eq_some_iff.2 ⟨(firsts_prefix_append rs rs').subset hk, rfl⟩
    exact ⟨m', Option.bind_eq_some_iff.2 ⟨_, hchild', hm'⟩, horder⟩

end

end Routes

namespace RouteNode

/-! ## Insertions one after another -/

/-- Inserting into the trie of some routes gives the trie with one more, and the call of the last
route before it with its keys. -/
theorem Insertion.into_trie (i : Insertion) (segment : Nat) (key : RouteKey) (rs : Routes) :
    i.into (Routes.trie segment key rs) =
      (Routes.trie segment key (rs ++ [(i.keys, i.call)]), Routes.call? rs i.keys) := by
  refine Prod.ext ?_ (Routes.insert_trie_snd ..)
  rw [Routes.trie_concat]
  exact insert_fst ..

/-- The empty trie after some insertions is the trie of their calls. -/
theorem ofInsertions_eq (is : List Insertion) :
    ofInsertions is = Routes.trie 0 .root (is.map fun i => (i.keys, i.call)) := by
  induction is using List.reverseRecOn with
  | nil => rfl
  | append_singleton is i ih =>
    rw [List.map_append, List.map_singleton, ofInsertions, List.foldl_append, ← ofInsertions, ih]
    exact congrArg Prod.fst (i.into_trie ..)

/-- A trie that was made by insertions is well-formed. -/
theorem wellFormed_ofInsertions (is : List Insertion) : (ofInsertions is).WellFormed 0 := by
  rw [ofInsertions_eq]
  refine Routes.wellFormed_trie (List.forall_mem_map.2 fun i _ => ?_)
  exact i.root_not_mem_keys

/-- An insertion into the trie of some routes adds a route to them. -/
theorem inserted_trie (i : Insertion) (segment : Nat) (key : RouteKey) (rs : Routes) :
    Inserted i (Routes.trie segment key rs) (i.into (Routes.trie segment key rs)) := by
  have hcalls := calls_insert (Routes.trie segment key rs) i.requirements i.call i.template
  refine { calls := hcalls, returned := ?_, stored := ?_, others := ?_, siblings := ?_ } <;>
    rw [i.into_trie]
  · exact (Routes.callAt?_trie ..).symm
  · rw [Routes.callAt?_trie, Routes.call?_concat, if_pos rfl]
  · intro keys hkeys
    rw [Routes.callAt?_trie, Routes.callAt?_trie, Routes.call?_concat, if_neg hkeys]
  · exact fun keys m hm => Routes.at?_trie_append hm _

/-- The empty trie after any insertions is well formed. One more insertion gives back the call that
was at the end of its keys, and changes nothing but that its own is there. -/
theorem insert_ofInsertions (is : List Insertion) : (ofInsertions is).WellFormed 0 ∧
    ∀ i : Insertion, Inserted i (ofInsertions is) (i.into (ofInsertions is)) := by
  refine ⟨wellFormed_ofInsertions is, fun i => ?_⟩
  rw [ofInsertions_eq]
  exact inserted_trie ..

/-- Captures with one name are siblings if their patterns are different. -/
example (call call' : RouteCall) :
    (ofInsertions [⟨[.capture "id"], [("id", "[0-9]+")], call⟩,
      ⟨[.capture "id"], [], call'⟩]).captures.map key =
        [.capture "id" (some "[0-9]+"), .capture "id" none] := rfl

end RouteNode

end Wiring
