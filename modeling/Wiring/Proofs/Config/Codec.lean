import Wiring.Config.Codec
import Wiring.Proofs.Binding.Codec
import Wiring.Proofs.Plan.Codec

/-!
# Configurations are read back

A configuration is read back from its record with `null` in place of each double that is none
(`Config.ofDatumAs?_toDatum`), in any style. What is declared by name has to stand in the order of
the names, each of them once (`Config.Regular`).
-/

namespace Wiring

variable (style : Datum.Style)

/-- The settings of an artifact are read back from what they are written as. -/
theorem ArtifactConfig.ofDatum?_toDatum (a : ArtifactConfig) :
    ofDatum? style a.toDatum = some a := by
  simp [toDatum, ofDatum?]

/-- The output settings are read back from what they are written as. -/
theorem OutputConfig.ofDatum?_toDatum (o : OutputConfig) : ofDatum? style o.toDatum = some o := by
  simp [toDatum, ofDatum?, ArtifactConfig.ofDatum?_toDatum]

/-- The names of capabilities are read back from what they are written as. -/
theorem CapabilityConfig.ofDatum?_toDatum (c : CapabilityConfig) :
    ofDatum? style c.toDatum = some c := by
  simp [toDatum, ofDatum?]

namespace ServiceDeclaration

/-- The declaration with the literals of its bindings changed. -/
def mapLiterals (f : Literal → Literal) (s : ServiceDeclaration) : ServiceDeclaration :=
  { s with
    arguments? := s.arguments?.map fun bs => bs.map fun p => (p.1, p.2.mapLiterals f)
    params := s.params.map fun p => (p.1, p.2.mapLiterals f) }

/-- A declaration is read back from its record. -/
theorem ofDatum?_toDatum (s : ServiceDeclaration) (h : (s.params.map (·.1)).Pairwise (· < ·)) :
    ofDatum? style s.toDatum = some (s.mapLiterals .finite) := by
  have harguments := Datum.optional_map fun bs (_ : s.arguments? = some bs) =>
    ⟨by exact nofun, Binding.listOf_named (show "binding" ≠ "name" by decide) style
      fun p (_ : p ∈ bs) => p.2.ofDatumAs?_toDatum style⟩
  have hparams := Datum.defaulting_unlessEmpty
    (Datum.mapOf_record h fun p _ => p.2.ofDatumAs?_toDatum style)
  have haliases := Datum.defaulting_unlessEmpty_self
    (Datum.listOf_map_self Datum.text?_text s.aliases)
  simp [toDatum, ofDatum?, Binding.paramsToDatum_eq, harguments, hparams, haliases, mapLiterals]

end ServiceDeclaration

namespace RouteDeclaration

/-- A declaration is read back from its record. -/
theorem ofDatum?_toDatum (r : RouteDeclaration) (h : (r.requirements.map (·.1)).Pairwise (· < ·)) :
    ofDatum? style r.toDatum = some r := by
  have hrequirements := Datum.defaulting_unlessEmpty
    (Datum.mapOf_record (f := id) h fun p _ => Datum.text?_text p.2)
  simp [toDatum, ofDatum?, hrequirements]

end RouteDeclaration

/-- A declared middleware is read back from what it is written as. -/
theorem MiddlewareDeclaration.ofDatum?_toDatum (m : MiddlewareDeclaration) :
    ofDatum? style m.toDatum = some m := by
  simp [toDatum, ofDatum?, Annotation.priority?_int]

/-- A declared listener is read back from what it is written as. -/
theorem ListenerDeclaration.ofDatum?_toDatum (l : ListenerDeclaration) :
    ofDatum? style l.toDatum = some l := by
  simp [toDatum, ofDatum?]

namespace Config

/-- The configuration with the literals of all declared bindings changed. -/
def mapLiterals (f : Literal → Literal) (c : Config) : Config :=
  { c with services := c.services.map (·.mapLiterals f) }

/-- What is declared by name stands in the order of the names, each of them once. -/
structure Regular (c : Config) : Prop where
  params : ∀ s ∈ c.services, (s.params.map (·.1)).Pairwise (· < ·)
  requirements : ∀ r ∈ c.routes, (r.requirements.map (·.1)).Pairwise (· < ·)

/-- A configuration is read back from its record. -/
theorem ofDatumAs?_toDatum {c : Config} (h : c.Regular) :
    ofDatumAs? style c.toDatum = some (c.mapLiterals .finite) := by
  have hpasses := Datum.listOf_map_self Datum.text?_text c.passes
  have hservices := Datum.listOf_map fun s (hs : s ∈ c.services) =>
    s.ofDatum?_toDatum style (h.params s hs)
  have hroutes := Datum.listOf_map (f := id) fun r (hr : r ∈ c.routes) =>
    r.ofDatum?_toDatum style (h.requirements r hr)
  have hmiddlewares := Datum.listOf_map_self (MiddlewareDeclaration.ofDatum?_toDatum style)
    c.middlewares
  have hlisteners := Datum.listOf_map_self (ListenerDeclaration.ofDatum?_toDatum style) c.listeners
  simp [toDatum, ofDatumAs?, OutputConfig.ofDatum?_toDatum, CapabilityConfig.ofDatum?_toDatum,
    hpasses, hservices, hroutes, hmiddlewares, hlisteners, mapLiterals]

end Config

end Wiring
