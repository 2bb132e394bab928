import Mathlib.Algebra.Order.BigOperators.Group.List
import Mathlib.Algebra.Order.Group.Nat
import Mathlib.Data.List.Induction
import Wiring.Plan.Router
import Wiring.Proofs.Lookup

/-!
# The trie of a list of routes

Routes are entered one after another, each at the end of its keys. The trie that this leads to is
described by the list of the routes alone (`Routes.trie_eq`): below a node there is a child for each
key that comes next in some route, in the order in which these keys came first, and the child is the
trie of the routes that go on with its key. What is called at the end of some keys is the call of
the last route with these keys. Among the calls of the trie, in whatever order they stand, a new one
is exchanged for the one it takes the place of (`RouteNode.calls_insert`).
-/

namespace Wiring

namespace RouteKey

/-- Whether the key is for a literal text. -/
def isLiteral : RouteKey → Bool
  | literal _ => true
  | root | capture _ _ => false

@[simp] theorem isLiteral_ofSegment (requirements : List (String × String)) (s : Route.Segment) :
    (ofSegment requirements s).isLiteral = s.isLiteral := by
  cases s <;> rfl

end RouteKey

/-! ## Entering a route by its keys -/

namespace RouteNode

/-- Changes the first child with a key, or adds it at the end and changes that. -/
def adjust (segment : Nat) (key : RouteKey) (f : RouteNode → RouteNode) :
    List RouteNode → List RouteNode
  | [] => [f (leaf segment key)]
  | child :: rest => if child.key = key then f child :: rest else child :: adjust segment key f rest

/-- Updating a child leaves the children with that one changed. -/
theorem updateChild_fst (segment : Nat) (key : RouteKey)
    (change : RouteNode → RouteNode × Option RouteCall) (l : List RouteNode) :
    (updateChild segment key change l).1 = adjust segment key (fun c => (change c).1) l := by
  induction l with
  | nil => rfl
  | cons child rest ih =>
    rw [updateChild, adjust]
    split
    · rfl
    · rw [← ih]

/-- Puts a call at the end of some keys. -/
def put (n : RouteNode) (call : RouteCall) : List RouteKey → RouteNode
  | [] => node n.segment n.key n.literals n.captures (some call)
  | key :: rest =>
    if key.isLiteral then
      node n.segment n.key (adjust (n.segment + 1) key (fun c => c.put call rest) n.literals)
        n.captures n.call?
    else
      node n.segment n.key n.literals
        (adjust (n.segment + 1) key (fun c => c.put call rest) n.captures) n.call?

/-- Inserting puts the call at the end of the keys of the template. -/
theorem insert_fst (n : RouteNode) (requirements : List (String × String)) (call : RouteCall)
    (template : List Route.Segment) : (n.insert requirements call template).1 =
      n.put call (template.map (RouteKey.ofSegment requirements)) := by
  induction template generalizing n with
  | nil => rfl
  | cons first rest ih =>
    rw [insert, List.map_cons, put, RouteKey.isLiteral_ofSegment]
    split <;> simp only [updateChild_fst, ih]

@[simp] theorem put_key (n : RouteNode) (call : RouteCall) (keys : List RouteKey) :
    (n.put call keys).key = n.key := by
  cases keys with
  | nil => rfl
  | cons key rest => rw [put]; split <;> rfl

section
variable {segment : Nat} {key : RouteKey} {f : RouteNode → RouteNode} {g : RouteKey → RouteNode}
  {keys : List RouteKey}

/-- A key that is there has its child changed, if no other child has the key. -/
theorem adjust_map_of_mem (hg : ∀ k, (g k).key = k) (hnd : keys.Nodup) (h : key ∈ keys) :
    adjust segment key f (keys.map g) = keys.map fun k => if k = key then f (g k) else g k := by
  induction keys with
  | nil => cases h
  | cons k rest ih =>
    obtain ⟨hk, hrest⟩ := List.nodup_cons.1 hnd
    rw [List.map_cons, List.map_cons, adjust, hg]
    split
    · next heq =>
      subst heq
      congr 1
      exact List.map_congr_left fun k' hk' => (if_neg fun (heq : k' = k) => hk (heq ▸ hk')).symm
    · next hne =>
      rw [ih hrest ((List.mem_cons.1 h).resolve_left fun heq => hne heq.symm)]

/-- A key that is not there gets a child of its own at the end. -/
theorem adjust_map_of_not_mem (hg : ∀ k, (g k).key = k) (h : key ∉ keys) :
    adjust segment key f (keys.map g) = keys.map g ++ [f (leaf segment key)] := by
  induction keys with
  | nil => rfl
  | cons k rest ih =>
    obtain ⟨hk, hrest⟩ := not_or.1 fun hor => h (List.mem_cons.2 hor)
    rw [List.map_cons, adjust, hg, if_neg fun heq => hk heq.symm, ih hrest, List.cons_append]

end

/-! ## The calls after an insertion -/

/-- The calls with a new one in the place of the old one, or anywhere if there is no old one. -/
def Exchanged (old? : Option RouteCall) (new : RouteCall) (cs cs' : List RouteCall) : Prop :=
  ∃ before after, cs = before ++ old?.toList ++ after ∧ cs' = before ++ new :: after

/-- Calls that stand around others are not exchanged. -/
theorem Exchanged.between {old? : Option RouteCall} {new : RouteCall} {cs cs' : List RouteCall}
    (h : Exchanged old? new cs cs') (front back : List RouteCall) :
    Exchanged old? new (front ++ cs ++ back) (front ++ cs' ++ back) := by
  obtain ⟨before, after, rfl, rfl⟩ := h
  exact ⟨front ++ before, after ++ back, by simp, by simp⟩

/-- Changing one child exchanges its calls only. -/
theorem callsOf_updateChild {change : RouteNode → RouteNode × Option RouteCall} {call : RouteCall}
    (hchange : ∀ c, Exchanged (change c).2 call c.calls (change c).1.calls) (segment : Nat)
    (key : RouteKey) (ns : List RouteNode) : Exchanged (updateChild segment key change ns).2 call
      (callsOf ns) (callsOf (updateChild segment key change ns).1) := by
  induction ns with
  | nil =>
    rw [updateChild, callsOf, callsOf, callsOf, List.append_nil]
    exact hchange (leaf segment key)
  | cons c rest ih =>
    rw [updateChild]
    split
    · exact (hchange c).between [] (callsOf rest)
    · simpa only [callsOf, List.append_nil] using ih.between c.calls []

/-- Inserting a call exchanges the call that is given back for it. -/
theorem calls_insert (n : RouteNode) (requirements : List (String × String)) (call : RouteCall)
    (template : List Route.Segment) : Exchanged (n.insert requirements call template).2 call n.calls
      (n.insert requirements call template).1.calls := by
  induction template generalizing n with
  | nil =>
    obtain ⟨segment, key, literals, captures, call?⟩ := n
    refine ⟨[], callsOf literals ++ callsOf captures, ?_, ?_⟩
    · exact List.append_assoc ..
    · exact List.append_assoc ..
  | cons first rest ih =>
    obtain ⟨segment, key, literals, captures, call?⟩ := n
    have hchildren := callsOf_updateChild ih (segment + 1) (RouteKey.ofSegment requirements first)
    rw [insert]
    split
    · exact (hchildren literals).between call?.toList (callsOf captures)
    · have hcaptures := (hchildren captures).between (call?.toList ++ callsOf literals) []
      rw [List.append_nil, List.append_nil] at hcaptures
      exact hcaptures

end RouteNode

/-! ## Lists of routes -/

/-- The keys of routes with what they call, in the order of their definitions. -/
abbrev Routes := List (List RouteKey × RouteCall)

namespace Routes

/-- What is called at the end of some keys: a later route with the same keys takes the place of an
earlier one. -/
def call? (rs : Routes) (keys : List RouteKey) : Option RouteCall :=
  rs.reverse.lookup keys

/-- Keys with the first of some others at the end, if it is a new one. -/
def withFirst (keys : List RouteKey) : List RouteKey → List RouteKey
  | [] => keys
  | k :: _ => if k ∈ keys then keys else keys ++ [k]

/-- The keys with which routes begin, in the order in which they came first. -/
def firsts (rs : Routes) : List RouteKey :=
  rs.foldl (fun keys r => withFirst keys r.1) []

/-- The keys after `k`, if these begin with it. -/
def after? (k : RouteKey) : List RouteKey → Option (List RouteKey)
  | [] => none
  | k' :: rest => if k' = k then some rest else none

/-- How the routes that begin with `k` go on. -/
def below (k : RouteKey) (rs : Routes) : Routes :=
  rs.filterMap fun r => (after? k r.1).map (·, r.2)

/-- The trie with a route entered after the other. -/
def trie (segment : Nat) (key : RouteKey) (rs : Routes) : RouteNode :=
  rs.foldl (fun n r => n.put r.2 r.1) (.leaf segment key)

section
variable {rs : Routes} {k : RouteKey} {keys rest : List RouteKey} {call : RouteCall}

@[simp] theorem after?_self : after? k (k :: rest) = some rest :=
  if_pos rfl

/-- Nothing comes after a key that is not the first one. -/
theorem after?_of_ne {k' : RouteKey} (h : k' ≠ k) : after? k (k' :: rest) = none :=
  if_neg h

/-- What comes after the first key. -/
theorem after?_eq_some_iff : after? k keys = some rest ↔ keys = k :: rest := by
  cases keys with
  | nil => simp [after?]
  | cons k' rest' =>
    rw [after?]
    split
    · next h => simp [h]
    · next h => simp [h]

/-- The routes below a key are those that begin with it. -/
theorem mem_below : (keys, call) ∈ below k rs ↔ (k :: keys, call) ∈ rs := by
  simp [below, after?_eq_some_iff]

/-- The call of the last route with the keys counts. -/
theorem call?_concat (rs : Routes) (keys' keys : List RouteKey) (call : RouteCall) :
    call? (rs ++ [(keys', call)]) keys = if keys = keys' then some call else call? rs keys := by
  rw [call?, call?, List.reverse_append, List.reverse_singleton, List.singleton_append,
    lookup_cons_ite]

/-- The call for some keys is that of a route. -/
theorem mem_of_call? (h : call? rs keys = some call) : (keys, call) ∈ rs :=
  List.mem_reverse.1 (mem_of_lookup h)

/-- The routes below a key, in two lists of routes. -/
theorem below_append (k : RouteKey) (rs rs' : Routes) :
    below k (rs ++ rs') = below k rs ++ below k rs' :=
  List.filterMap_append ..

/-- One more route is below a key if it begins with it. -/
theorem below_concat (rs : Routes) (k : RouteKey) (keys : List RouteKey) (call : RouteCall) :
    below k (rs ++ [(keys, call)]) = below k rs ++ ((after? k keys).map (·, call)).toList := by
  rw [below_append]
  cases h : after? k keys <;> simp [below, h]

/-- The last route with some keys is the last of those that begin with the first of them. -/
theorem call?_below (rs : Routes) (k : RouteKey) (keys : List RouteKey) :
    call? (below k rs) keys = call? rs (k :: keys) := by
  induction rs using List.reverseRecOn with
  | nil => rfl
  | append_singleton rs r ih =>
    obtain ⟨keys', call⟩ := r
    rw [below_concat, call?_concat, ← ih]
    cases h : after? k keys' with
    | none =>
      have hne : k :: keys ≠ keys' := by
        rintro rfl
        simp at h
      simp [hne]
    | some rest =>
      obtain rfl := after?_eq_some_iff.1 h
      simp only [Option.map_some, Option.toList_some, call?_concat, List.cons.injEq, true_and]

/-- One more route adds its first key, if it is new. -/
theorem firsts_concat (rs : Routes) (r : List RouteKey × RouteCall) :
    firsts (rs ++ [r]) = withFirst (firsts rs) r.1 := by
  rw [firsts, List.foldl_append]
  rfl

/-- A first key is added at the end. -/
theorem prefix_withFirst (keys keys' : List RouteKey) : keys <+: withFirst keys keys' := by
  cases keys' with
  | nil => exact List.prefix_rfl
  | cons k _ =>
    rw [withFirst]
    split
    · exact List.prefix_rfl
    · exact List.prefix_append ..

/-- Keys that come first later on stand behind those that came before. -/
theorem firsts_prefix_append (rs rs' : Routes) : firsts rs <+: firsts (rs ++ rs') := by
  induction rs' using List.reverseRecOn with
  | nil => simp
  | append_singleton rs' r ih =>
    rw [← List.append_assoc, firsts_concat]
    exact ih.trans (prefix_withFirst ..)

/-- The first key is among the keys once it is added. -/
theorem mem_withFirst {k' : RouteKey} :
    k ∈ withFirst keys (k' :: rest) ↔ k ∈ keys ∨ k = k' := by
  rw [withFirst]
  split
  · next h => exact ⟨.inl, fun hor => hor.elim id fun heq => heq ▸ h⟩
  · rw [List.mem_append, List.mem_singleton]

/-- The first keys are those that routes begin with. -/
theorem mem_firsts : k ∈ firsts rs ↔ ∃ rest call, (k :: rest, call) ∈ rs := by
  induction rs using List.reverseRecOn with
  | nil => simp [firsts]
  | append_singleton rs r ih =>
    obtain ⟨keys, call⟩ := r
    rw [firsts_concat]
    cases keys with
    | nil => simp [withFirst, ih]
    | cons k' rest =>
      rw [mem_withFirst, ih]
      constructor
      · rintro (⟨rest', call', h⟩ | rfl)
        · exact ⟨rest', call', List.mem_append_left _ h⟩
        · exact ⟨rest, call, by simp⟩
      · rintro ⟨rest', call', h⟩
        rcases List.mem_append.1 h with h | h
        · exact .inl ⟨rest', call', h⟩
        · cases List.mem_singleton.1 h
          exact .inr rfl

/-- No first key comes twice. -/
theorem nodup_firsts (rs : Routes) : (firsts rs).Nodup := by
  induction rs using List.reverseRecOn with
  | nil => exact .nil
  | append_singleton rs r ih =>
    rw [firsts_concat]
    obtain ⟨keys, call⟩ := r
    cases keys with
    | nil => exact ih
    | cons k rest =>
      rw [withFirst]
      split
      · exact ih
      · next hk => exact (List.perm_append_singleton _ _).nodup_iff.2 (List.nodup_cons.2 ⟨hk, ih⟩)

/-- No route goes on from a key with which none begins. -/
theorem below_eq_nil (h : k ∉ firsts rs) : below k rs = [] := by
  refine List.eq_nil_iff_forall_not_mem.2 fun r hr => h ?_
  exact mem_firsts.2 ⟨r.1, r.2, mem_below.1 hr⟩

/-- Induction on routes, with a hypothesis for those that go on from each key that comes first. -/
theorem recBelow {motive : Routes → Prop}
    (node : ∀ rs, (∀ k ∈ firsts rs, motive (below k rs)) → motive rs) (rs : Routes) :
    motive rs := by
  -- the routes that go on from a key are shorter by it
  have hwithin (depth : Nat) (rs : Routes) (h : ∀ r ∈ rs, r.1.length ≤ depth) : motive rs := by
    induction depth using Nat.strongRecOn generalizing rs with
    | ind depth ih =>
      refine node rs fun k hk => ?_
      obtain ⟨rest, call, hmem⟩ := mem_firsts.1 hk
      have hpos := h _ hmem
      simp only [List.length_cons] at hpos
      refine ih (depth - 1) (by omega) _ fun r hr => ?_
      have hlen := h _ (mem_below.1 hr)
      simp only [List.length_cons] at hlen
      omega
  exact hwithin (rs.map fun r => r.1.length).sum rs
    fun _ hr => List.le_sum_of_mem (List.mem_map_of_mem hr)

/-! ## The trie -/

/-- One more route is put into the trie. -/
theorem trie_concat (segment : Nat) (key : RouteKey) (rs : Routes)
    (r : List RouteKey × RouteCall) :
    trie segment key (rs ++ [r]) = (trie segment key rs).put r.2 r.1 := by
  rw [trie, List.foldl_append]
  rfl

@[simp] theorem trie_key (segment : Nat) (key : RouteKey) (rs : Routes) :
    (trie segment key rs).key = key := by
  induction rs using List.reverseRecOn with
  | nil => rfl
  | append_singleton rs r ih => rw [trie_concat, RouteNode.put_key, ih]

/-- The children of a kind `p` are those of the keys of this kind. -/
def children (p : RouteKey → Bool) (segment : Nat) (rs : Routes) : List RouteNode :=
  ((firsts rs).filter p).map fun k => trie segment k (below k rs)

/-- A route that begins with a key of another kind leaves the children as they are. -/
theorem children_concat_of_neg {p : RouteKey → Bool} (hp : p k = false) (segment : Nat) :
    children p segment (rs ++ [(k :: rest, call)]) = children p segment rs := by
  have hfirsts : (firsts (rs ++ [(k :: rest, call)])).filter p = (firsts rs).filter p := by
    rw [firsts_concat, withFirst]
    split
    · rfl
    · rw [List.filter_append, List.filter_cons_of_neg (by simp [hp]), List.filter_nil,
        List.append_nil]
  rw [children, hfirsts]
  refine List.map_congr_left fun k' hk' => ?_
  have hne : k ≠ k' := by
    rintro rfl
    rw [(List.mem_filter.1 hk').2] at hp
    cases hp
  rw [below_concat, after?_of_ne hne]
  simp

/-- A route that begins with a key of the kind is put below the child of that key. -/
theorem children_concat_of_pos {p : RouteKey → Bool} (hp : p k = true) (segment : Nat) :
    children p segment (rs ++ [(k :: rest, call)]) =
      RouteNode.adjust segment k (fun c => c.put call rest) (children p segment rs) := by
  have hkey : ∀ k', (trie segment k' (below k' rs)).key = k' := fun k' => trie_key ..
  have hold : ∀ k', k ≠ k' → below k' (rs ++ [(k :: rest, call)]) = below k' rs := by
    intro k' hne
    rw [below_concat, after?_of_ne hne]
    simp
  have hnew : below k (rs ++ [(k :: rest, call)]) = below k rs ++ [(rest, call)] := by
    simp [below_concat]
  rw [children, children, firsts_concat, withFirst]
  by_cases hk : k ∈ firsts rs
  · rw [if_pos hk, RouteNode.adjust_map_of_mem hkey ((nodup_firsts rs).filter _)
      (List.mem_filter.2 ⟨hk, hp⟩)]
    refine List.map_congr_left fun k' _ => ?_
    split
    · next heq => rw [heq, hnew, trie_concat]
    · next hne => rw [hold k' fun heq => hne heq.symm]
  · have hnot : k ∉ (firsts rs).filter p := fun h => hk (List.mem_filter.1 h).1
    rw [if_neg hk, RouteNode.adjust_map_of_not_mem hkey hnot, List.filter_append,
      List.filter_cons_of_pos hp, List.filter_nil, List.map_append, List.map_singleton, hnew,
      below_eq_nil hk]
    congr 1
    refine List.map_congr_left fun k' hk' => ?_
    rw [hold k' fun heq => hnot (heq ▸ hk')]

/-- A route that ends at a node adds no child. -/
theorem children_concat_nil (p : RouteKey → Bool) (segment : Nat) (rs : Routes)
    (call : RouteCall) : children p segment (rs ++ [([], call)]) = children p segment rs := by
  rw [children, firsts_concat]
  refine List.map_congr_left fun k _ => ?_
  rw [below_concat]
  simp [after?]

/-- A trie is a node with a child for each key that comes first, in the order in which these came:
the trie of the routes that begin with it. -/
theorem trie_eq (segment : Nat) (key : RouteKey) (rs : Routes) :
    trie segment key rs = .node segment key (children RouteKey.isLiteral (segment + 1) rs)
      (children (fun k => !k.isLiteral) (segment + 1) rs) (call? rs []) := by
  induction rs using List.reverseRecOn with
  | nil => rfl
  | append_singleton rs r ih =>
    obtain ⟨keys, call⟩ := r
    rw [trie_concat, ih, call?_concat]
    cases keys with
    | nil => rw [RouteNode.put, children_concat_nil, children_concat_nil]; rfl
    | cons k rest =>
      rw [RouteNode.put]
      split
      · next hk =>
        rw [children_concat_of_pos hk, children_concat_of_neg (by simp [hk])]
        rfl
      · next hk =>
        rw [Bool.not_eq_true] at hk
        rw [children_concat_of_neg hk, children_concat_of_pos (by simp [hk])]
        rfl

/-! ## Patterns -/

/-- The keys have a capture with this pattern. -/
def HasPattern (text : String) (keys : List RouteKey) : Prop :=
  ∃ name, .capture name (some text) ∈ keys

/-- The patterns of nodes are those of each. -/
theorem mem_patternsOf {text : String} {l : List RouteNode} :
    text ∈ RouteNode.patternsOf l ↔ ∃ n ∈ l, text ∈ n.patterns := by
  induction l with
  | nil => simp [RouteNode.patternsOf]
  | cons n rest ih => simp [RouteNode.patternsOf, ih]

/-- A pattern is that of the first key or of one that follows. -/
theorem hasPattern_cons {text : String} :
    HasPattern text (k :: keys) ↔ HasPattern text [k] ∨ HasPattern text keys := by
  simp only [HasPattern, List.mem_cons, List.not_mem_nil, or_false, exists_or]

/-- The patterns of a node are that of its key and those of its children. -/
theorem mem_patterns_node {text : String} {segment : Nat} {key : RouteKey}
    {literals captures : List RouteNode} {call? : Option RouteCall} :
    text ∈ (RouteNode.node segment key literals captures call?).patterns ↔
      HasPattern text [key] ∨ (∃ n ∈ literals, text ∈ n.patterns) ∨
        ∃ n ∈ captures, text ∈ n.patterns := by
  rw [← mem_patternsOf, ← mem_patternsOf]
  cases key with
  | root | literal _ => simp [RouteNode.patterns, HasPattern]
  | capture name requirement? =>
    cases requirement? with
    | none => simp [RouteNode.patterns, HasPattern]
    | some text' =>
      have hown : HasPattern text [.capture name (some text')] ↔ text = text' := by
        simp [HasPattern, eq_comm]
      simp [RouteNode.patterns, hown]

/-- The patterns of the children of a kind are those of the routes that begin with a key of it, if
this holds of each child. -/
theorem mem_patterns_children {text : String} {segment : Nat} (p : RouteKey → Bool)
    (hbelow : ∀ k ∈ firsts rs, text ∈ (trie segment k (below k rs)).patterns ↔
      HasPattern text [k] ∨ ∃ r ∈ below k rs, HasPattern text r.1) :
    (∃ n ∈ children p segment rs, text ∈ n.patterns) ↔
      ∃ r ∈ rs, ∃ k rest, r.1 = k :: rest ∧ p k = true ∧ HasPattern text r.1 := by
  constructor
  · rintro ⟨n, hn, ht⟩
    obtain ⟨k, hk, rfl⟩ := List.mem_map.1 hn
    obtain ⟨hk, hp⟩ := List.mem_filter.1 hk
    rcases (hbelow k hk).1 ht with hown | ⟨r, hr, hpat⟩
    · obtain ⟨rest, call, hmem⟩ := mem_firsts.1 hk
      exact ⟨_, hmem, k, rest, rfl, hp, hasPattern_cons.2 (.inl hown)⟩
    · exact ⟨_, mem_below.1 hr, k, r.1, rfl, hp, hasPattern_cons.2 (.inr hpat)⟩
  · rintro ⟨⟨keys, call⟩, hr, k, rest, rfl, hp, hpat⟩
    have hk : k ∈ firsts rs := mem_firsts.2 ⟨rest, call, hr⟩
    refine ⟨_, List.mem_map_of_mem (List.mem_filter.2 ⟨hk, hp⟩), (hbelow k hk).2 ?_⟩
    rcases hasPattern_cons.1 hpat with hown | hrest
    · exact .inl hown
    · exact .inr ⟨_, mem_below.2 hr, hrest⟩

/-- The patterns of a trie are those of its node and of its routes. -/
theorem mem_patterns_trie {text : String} {segment : Nat} {key : RouteKey} :
    text ∈ (trie segment key rs).patterns ↔
      HasPattern text [key] ∨ ∃ r ∈ rs, HasPattern text r.1 := by
  induction rs using recBelow generalizing segment key with
  | node rs ih =>
  have hbelow : ∀ k ∈ firsts rs, text ∈ (trie (segment + 1) k (below k rs)).patterns ↔
      HasPattern text [k] ∨ ∃ r ∈ below k rs, HasPattern text r.1 :=
    fun k hk => ih k hk
  rw [trie_eq, mem_patterns_node, mem_patterns_children _ hbelow, mem_patterns_children _ hbelow]
  refine or_congr_right ⟨?_, ?_⟩
  · rintro (⟨r, hr, _, _, _, _, hpat⟩ | ⟨r, hr, _, _, _, _, hpat⟩) <;> exact ⟨r, hr, hpat⟩
  · rintro ⟨⟨keys, call⟩, hr, hpat⟩
    cases keys with
    | nil => obtain ⟨_, hmem⟩ := hpat; cases hmem
    | cons k rest =>
      cases hk : k.isLiteral with
      | true => exact .inl ⟨_, hr, k, rest, rfl, hk, hpat⟩
      | false => exact .inr ⟨_, hr, k, rest, rfl, by simp [hk], hpat⟩

/-- The patterns of a whole trie are those of its routes. -/
theorem mem_patterns_root {text : String} :
    text ∈ (trie 0 .root rs).patterns ↔ ∃ r ∈ rs, HasPattern text r.1 := by
  have hroot : ¬ HasPattern text [.root] := by
    rintro ⟨name, hname⟩
    cases List.mem_singleton.1 hname
  rw [mem_patterns_trie]
  exact or_iff_right hroot

end

end Routes

end Wiring
