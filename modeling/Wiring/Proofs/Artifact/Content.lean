import Wiring.Proofs.Artifact.Load
import Wiring.Proofs.Config.Codec
import Wiring.Proofs.Route.Codec

/-!
# What artifacts hold is read back

Every plan, manifest and configuration is read back from the tree that it is written as
(`ofDatum?_toDatum_of_regular`), with `null` in place of each double that is infinite or no number.
-/

namespace Wiring

/-- Plans, manifests and configurations are read back from their trees, with `null` in place of each
double that is infinite or no number. What is sorted by a key has to be, and numbers must have the
width that they are written with. -/
theorem ofDatum?_toDatum_of_regular :
    (∀ p : ContainerPlan, ContainerPlan.ofDatum? p.toDatum = some (p.mapLiterals .finite)) ∧
    (∀ p : RouterPlan, p.Regular → RouterPlan.ofDatum? p.toDatum = some (p.mapLiterals .finite)) ∧
    (∀ p : MiddlewarePlan, MiddlewarePlan.ofDatum? p.toDatum = some p) ∧
    (∀ t : ListenerTable, ListenerTable.ofDatum? t.toDatum = some t) ∧
    (∀ m : Manifest, m.format ≤ Envelope.maxFormat → Manifest.ofDatum? m.toDatum = some m) ∧
    ∀ c : Config, c.Regular → Config.ofDatum? c.toDatum = some (c.mapLiterals .finite) :=
  ⟨ContainerPlan.ofDatum?_toDatum, fun _ => RouterPlan.ofDatum?_toDatum,
    MiddlewarePlan.ofDatum?_toDatum, ListenerTable.ofDatum?_toDatum,
    fun _ => Manifest.ofDatum?_toDatum, fun _ => Config.ofDatumAs?_toDatum .json⟩

/-- A router of two verbs, with a trie of two levels. -/
def memberRoutes : RouterPlan where
  tries := [
    (.get, .node 0 .root [
      .node 1 (.literal "members") [] [
        .node 2 (.capture "id" (some "[0-9]+")) [] [] (some
          { className := "Members", method := "show", path := "/members/{id}"
            args := [⟨"id", .captured (some .int)⟩, ⟨"page", .default (.literal .null)⟩] })] none]
      [] none),
    (.delete, .node 0 .root [] [.leaf 1 (.capture "id" none)] none)]

/-- A configuration with two overridden parameters and a pattern. -/
def memberConfig : Config where
  services := [{ id := "Members"
                 params := [("limit", .literal (.int 5)),
                   ("store", .service "Store" (some .skip))] }]
  routes := [{ verb := .get, path := "/members/{id}", target := "Members::show"
               requirements := [("id", "[0-9]+")] }]

/-- The routes of the members are regular. -/
theorem regular_memberRoutes : memberRoutes.Regular where
  sorted := by decide
  numbered := by
    have hleaf (segment : Nat) (hsegment : segment < 2 ^ 64) (key : RouteKey)
      (call? : Option RouteCall) :
        (RouteNode.node segment key [] [] call?).Numbered := .node hsegment nofun nofun
    intro t ht
    simp only [memberRoutes, List.mem_cons, List.not_mem_nil, or_false] at ht
    rcases ht with rfl | rfl
    · refine .node (by decide) (fun n hn => ?_) nofun
      rw [List.mem_singleton.1 hn]
      refine .node (by decide) nofun fun n hn => ?_
      rw [List.mem_singleton.1 hn]
      exact hleaf 2 (by decide) _ _
    · refine .node (by decide) nofun fun n hn => ?_
      rw [List.mem_singleton.1 hn]
      exact hleaf 1 (by decide) _ _

/-- The routes, a manifest and a configuration of the members are read back from what they are
written as. -/
theorem ofDatum?_toDatum_members :
    (memberRoutes.Regular ∧
      RouterPlan.ofDatum? memberRoutes.toDatum = some (memberRoutes.mapLiterals .finite)) ∧
    (((⟨formatVersion, []⟩ : Manifest).format : Int) ≤ Envelope.maxFormat ∧
      Manifest.ofDatum? (⟨formatVersion, []⟩ : Manifest).toDatum = some ⟨formatVersion, []⟩) ∧
    memberConfig.Regular ∧
      Config.ofDatum? memberConfig.toDatum = some (memberConfig.mapLiterals .finite) := by
  have hconfig : memberConfig.Regular :=
    ⟨List.forall_mem_singleton.2 (by decide), List.forall_mem_singleton.2 (by decide)⟩
  have hformat : ((⟨formatVersion, []⟩ : Manifest).format : Int) ≤ Envelope.maxFormat := by decide
  obtain ⟨-, hrouter, -, -, hmanifest, hread⟩ := ofDatum?_toDatum_of_regular
  exact ⟨⟨regular_memberRoutes, hrouter _ regular_memberRoutes⟩, ⟨hformat, hmanifest _ hformat⟩,
    hconfig, hread _ hconfig⟩

end Wiring
