import Wiring.Plan.Router
import Wiring.Proofs.Descriptor.Codec

/-!
# Router plans are read back

A call of a route is read back from its record with `null` in place of each double that is none, and
so are a trie and a router plan (`RouterPlan.ofDatum?_toDatum`). The number of segments above a node
has to have 64 bits, and the tries have to stand in the order of their verbs (`RouterPlan.Regular`).
-/

namespace Wiring

/-! ## Calls -/

namespace RouteArgSource

/-- The source with the literal of a default changed. -/
def mapLiterals (f : Literal → Literal) : RouteArgSource → RouteArgSource
  | captured coerce? => captured coerce?
  | request => request
  | default value => default (value.mapLiteral f)
  | service id => service id

/-- The word for the kind of a source. -/
def kind : RouteArgSource → String
  | captured _ => "captured"
  | request => "request"
  | default _ => "default"
  | service _ => "service"

end RouteArgSource

namespace RouteArg

/-- The parameter with the literal of a default changed. -/
def mapLiterals (f : Literal → Literal) (a : RouteArg) : RouteArg :=
  { a with source := a.source.mapLiterals f }

/-- A parameter is written with values only. -/
theorem isReadable_toDatum (a : RouteArg) : a.toDatum.isReadable = true := by
  obtain ⟨name, source⟩ := a
  refine Datum.isReadable_record.2 ?_
  cases source with
  | captured coerce? =>
    rw [RouteArgSource.fields, List.forall_mem_append, List.forall_mem_append,
      Datum.forall_optionalField]
    exact ⟨by simp, by simp, fun k _ => by cases k <;> rfl⟩
  | request | default value | service id => simp [RouteArgSource.fields]

/-- What names the case of a source is found in the record of the parameter. -/
theorem tagged?_toDatum (style : Datum.Style) (a : RouteArg) :
    a.toDatum.tagged? style "from" RouteArgSource.cases = some a.source.kind := by
  have hreadable := a.isReadable_toDatum
  obtain ⟨name, source⟩ := a
  cases source <;>
    simp [toDatum, RouteArgSource.fields, RouteArgSource.kind, Datum.tagged?, Datum.tagName?]
      at hreadable ⊢ <;>
    exact hreadable

/-- A source is read back from the record that it shares with its parameter. -/
theorem source_ofDatum?_toDatum (a : RouteArg) :
    RouteArgSource.ofDatum? a.toDatum = some (a.source.mapLiterals .finite) := by
  rw [RouteArgSource.ofDatum?, tagged?_toDatum]
  obtain ⟨name, source⟩ := a
  cases source with
  | captured coerce? =>
    have hcoerce := Datum.optional_map_self (fun k => by cases k <;> exact nofun)
      (Primitive.ofDatum?_toDatum Datum.Style.json.aside) coerce?
    simp [toDatum, RouteArgSource.fields, RouteArgSource.kind, hcoerce, RouteArgSource.mapLiterals]
  | request => simp [RouteArgSource.kind, RouteArgSource.mapLiterals]
  | default value =>
    simp [toDatum, RouteArgSource.fields, RouteArgSource.kind, value.ofDatum?_toDatum,
      RouteArgSource.mapLiterals]
  | service id =>
    simp [toDatum, RouteArgSource.fields, RouteArgSource.kind, RouteArgSource.mapLiterals]

/-- A parameter is read back from its record. -/
theorem ofDatum?_toDatum (a : RouteArg) : ofDatum? a.toDatum = some (a.mapLiterals .finite) := by
  have hsource := a.source_ofDatum?_toDatum
  have hname : Datum.single? "name" a.source.fields = some none := by
    cases a.source <;> simp [RouteArgSource.fields]
  rw [toDatum, List.singleton_append] at hsource ⊢
  rw [ofDatum?]
  simp [hsource, hname, mapLiterals]

end RouteArg

namespace RouteCall

/-- The call with the literals of its arguments changed. -/
def mapLiterals (f : Literal → Literal) (c : RouteCall) : RouteCall :=
  { c with args := c.args.map (·.mapLiterals f) }

/-- A call is read back from its record. -/
theorem ofDatum?_toDatum (c : RouteCall) : ofDatum? c.toDatum = some (c.mapLiterals .finite) := by
  have hargs := Datum.listOf_map fun a (_ : a ∈ c.args) => a.ofDatum?_toDatum
  simp [toDatum, ofDatum?, hargs, mapLiterals]

end RouteCall

@[simp] theorem RouteKey.ofDatum?_toDatum (key : RouteKey) : ofDatum? key.toDatum = some key := by
  cases key with
  | root | literal text => rfl
  | capture name requirement? => cases requirement? <;> rfl

/-! ## Tries -/

namespace RouteNode

/-- Induction on a trie, with a hypothesis for each child. -/
theorem recData {motive : RouteNode → Prop}
    (node : ∀ segment key literals captures call?, (∀ n ∈ literals, motive n) →
      (∀ n ∈ captures, motive n) → motive (.node segment key literals captures call?)) :
    ∀ n, motive n
  | .node segment key literals captures call? => node segment key literals captures call?
    (fun n _ => recData node n) (fun n _ => recData node n)
termination_by n => sizeOf n
decreasing_by
  · have h := List.sizeOf_lt_of_mem ‹_ ∈ _›; simp; omega
  · have h := List.sizeOf_lt_of_mem ‹_ ∈ _›; simp; omega

mutual

/-- The trie with the literals of its calls changed. -/
def mapLiterals (f : Literal → Literal) : RouteNode → RouteNode
  | node segment key literals captures call? =>
    node segment key (mapAll f literals) (mapAll f captures) (call?.map (·.mapLiterals f))

/-- `mapLiterals` over some tries. -/
def mapAll (f : Literal → Literal) : List RouteNode → List RouteNode
  | [] => []
  | n :: rest => n.mapLiterals f :: mapAll f rest

end

/-- Changing the literals of nodes one by one. -/
theorem mapAll_eq (f : Literal → Literal) (ns : List RouteNode) :
    mapAll f ns = ns.map (mapLiterals f) := by
  induction ns with
  | nil => simp [mapAll]
  | cons n rest ih => simp [mapAll, ih]

/-- Nodes are written one by one. -/
theorem listToDatum_eq (ns : List RouteNode) : listToDatum ns = ns.map toDatum := by
  induction ns with
  | nil => simp [listToDatum]
  | cons n rest ih => simp [listToDatum, ih]

/-- The number of segments above each node has 64 bits. -/
inductive Numbered : RouteNode → Prop
  | node {segment : Nat} {key : RouteKey} {literals captures : List RouteNode}
      {call? : Option RouteCall} (hsegment : segment < 2 ^ 64)
      (hliterals : ∀ n ∈ literals, Numbered n) (hcaptures : ∀ n ∈ captures, Numbered n) :
      Numbered (.node segment key literals captures call?)

/-- Children are a field that is left out when there are none. -/
theorem childField_eq (name : String) (ns : List RouteNode) :
    childField name (listToDatum ns) = Datum.listField name toDatum ns := by
  cases ns <;> simp [listToDatum_eq, childField, Datum.listField]

/-- A natural number of 64 bits is read back. -/
theorem natOf?_int {n : Nat} (h : n < 2 ^ 64) : natOf? (.int n) = some n := by
  have hbounds : (0 : Int) ≤ n ∧ (n : Int) ≤ 0xFFFFFFFFFFFFFFFF := by omega
  rw [natOf?, Datum.intBetween?, if_pos hbounds]
  rfl

/-- A trie is read back from its record if the reader may go down as deep as that is high. -/
theorem ofDatumTo?_toDatum (n : RouteNode) : ∀ {depth : Nat}, n.Numbered →
    n.toDatum.height ≤ depth → ofDatumTo? depth n.toDatum = some (n.mapLiterals .finite) := by
  induction n using recData with
  | node segment key literals captures call? hliterals hcaptures =>
    rintro depth ⟨hsegment, hnumberedL, hnumberedC⟩ h
    obtain ⟨k, rfl, hfields⟩ := Datum.of_height_record_le h
    rw [childField_eq, childField_eq, List.forall_mem_append, List.forall_mem_append,
      List.forall_mem_append] at hfields
    obtain ⟨⟨⟨-, hheightsL⟩, hheightsC⟩, -⟩ := hfields
    have hreadL := Datum.listOf_map fun n hn =>
      hliterals n hn (hnumberedL n hn) (Datum.height_le_of_listField hheightsL n hn)
    have hreadC := Datum.listOf_map fun n hn =>
      hcaptures n hn (hnumberedC n hn) (Datum.height_le_of_listField hheightsC n hn)
    have hcall := Datum.optional_map fun c (_ : call? = some c) =>
      ⟨by simp [RouteCall.toDatum], c.ofDatum?_toDatum⟩
    rw [ofDatumTo?, toDatum, childField_eq, childField_eq]
    simp [natOf?_int hsegment, Datum.defaulting_unlessEmpty hreadL,
      Datum.defaulting_unlessEmpty hreadC, hcall, mapLiterals, mapAll_eq]

/-- A trie is read back from its record. -/
theorem ofDatum?_toDatum {n : RouteNode} (h : n.Numbered) :
    ofDatum? n.toDatum = some (n.mapLiterals .finite) :=
  n.ofDatumTo?_toDatum h (Nat.le_refl _)

end RouteNode

/-! ## Router plans -/

namespace StaticRoute

/-- The route with the literals of its call changed. -/
def mapLiterals (f : Literal → Literal) (r : StaticRoute) : StaticRoute :=
  { r with call := r.call.mapLiterals f }

/-- A route without captures is read back from its record. -/
theorem ofDatum?_toDatum (r : StaticRoute) : ofDatum? r.toDatum = some (r.mapLiterals .finite) := by
  simp [toDatum, ofDatum?, r.call.ofDatum?_toDatum, mapLiterals]

end StaticRoute

namespace RouterPlan

/-- The plan with the literals of all calls changed. -/
def mapLiterals (f : Literal → Literal) (p : RouterPlan) : RouterPlan where
  statics := p.statics.map (·.mapLiterals f)
  tries := p.tries.map fun t => (t.1, t.2.mapLiterals f)

/-- The tries of the plan stand in the order of their verbs, at most one for each, and the numbers
of segments have 64 bits. -/
structure Regular (p : RouterPlan) : Prop where
  sorted : (p.tries.map (·.1.ctorIdx)).Pairwise (· < ·)
  numbered : ∀ t ∈ p.tries, t.2.Numbered

/-- The trie of a verb that comes after all others is put at the end. -/
theorem placeTrie_of_lt {v : Verb} {n : RouteNode} {done : List (Verb × RouteNode)}
    (h : ∀ t ∈ done, t.1.ctorIdx < v.ctorIdx) : placeTrie v n done = done ++ [(v, n)] := by
  induction done with
  | nil => rfl
  | cons t rest ih =>
    obtain ⟨w, m⟩ := t
    obtain ⟨hw, hrest⟩ := List.forall_mem_cons.1 h
    have hne : v ≠ w := fun heq => Nat.lt_irrefl _ (heq ▸ hw)
    rw [placeTrie, if_neg hne, if_neg (Nat.lt_asymm hw), ih hrest, List.cons_append]

/-- Tries are read back in the order of their verbs. -/
theorem tries?_record {p : RouterPlan} (h : p.Regular) :
    tries? (.record (p.tries.map fun t => (t.1.name, t.2.toDatum))) =
      some (p.tries.map fun t => (t.1, t.2.mapLiterals .finite)) := by
  rw [tries?, List.foldlM_map]
  refine Datum.foldlM_concat fun before t after heq => ?_
  have hbefore : ∀ t' ∈ before.map fun t => (t.1, t.2.mapLiterals .finite),
      t'.1.ctorIdx < t.1.ctorIdx := by
    have hsorted := h.sorted
    rw [heq, List.map_append, List.map_cons] at hsorted
    intro t' ht'
    obtain ⟨t'', ht'', rfl⟩ := List.mem_map.1 ht'
    exact (List.pairwise_append.1 hsorted).2.2 _ (List.mem_map_of_mem ht'') _ (.head _)
  have hread := RouteNode.ofDatum?_toDatum (h.numbered t (heq ▸ List.mem_append_right _ (.head _)))
  simp [Verb.ofToken?_name, hread, placeTrie_of_lt hbefore]

/-- A router plan is read back from its record. -/
theorem ofDatum?_toDatum {p : RouterPlan} (h : p.Regular) :
    ofDatum? p.toDatum = some (p.mapLiterals .finite) := by
  have hstatics := Datum.listOf_map fun r (_ : r ∈ p.statics) => r.ofDatum?_toDatum
  simp [toDatum, ofDatum?, hstatics, tries?_record h, mapLiterals]

end RouterPlan

end Wiring
