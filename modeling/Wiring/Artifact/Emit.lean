import Wiring.Artifact.Batch
import Wiring.Artifact.Manifest
import Wiring.Compilation

/-!
# Writing artifacts

All artifacts are rendered before the first file is touched. Then the manifest of the last
compilation is removed, the artifacts are written as a batch, and the new manifest is its last file.
So whoever finds a manifest finds the artifacts that it lists.
-/

namespace Wiring

/-- What the container artifact holds: the plan and the configuration it was made with. -/
structure ContainerContent where
  plan : ContainerPlan
  config : Config
  deriving Inhabited

namespace ContainerContent

/-- The content as a record. -/
def toDatum (c : ContainerContent) : Datum :=
  .record [("plan", c.plan.toDatum), ("config", c.config.toDatum)]

/-- The content that a record stands for. -/
def ofDatum? (d : Datum) : Option ContainerContent := do
  match ← d.columns? ["plan", "config"] with
  | [plan, config] =>
    return {
      plan := ← Datum.required ContainerPlan.ofDatum? plan
      config := ← Datum.required Config.ofDatum? config }
  | _ => none

end ContainerContent

namespace Plans

/-- The content of the artifact of a kind. -/
def content (p : Plans) (config : Config) : ArtifactKind → Datum
  | .container => (ContainerContent.mk p.container config).toDatum
  | .router => p.router.toDatum
  | .middleware => p.middleware.toDatum
  | .listeners => p.listeners.toDatum

/-- The text of the artifact of a kind. -/
def artifactText (p : Plans) (isPretty : Bool) (config : Config) (kind : ArtifactKind) : String :=
  (Envelope.mk formatVersion (kind.settings config).module (p.content config kind)).render isPretty

/-- The entry of a kind in the manifest. -/
def manifestEntry (p : Plans) (isPretty : Bool) (config : Config) (kind : ArtifactKind) :
    ManifestEntry :=
  let settings := kind.settings config
  ⟨kind, settings.file, settings.module, Sha256.ofText (p.artifactText isPretty config kind)⟩

/-- The manifest of the artifacts of some plans. -/
def manifest (p : Plans) (isPretty : Bool) (config : Config) : Manifest :=
  { artifacts := ArtifactKind.all.map (p.manifestEntry isPretty config) }

end Plans

/-- The text of the artifact that a manifest is written as. -/
def Manifest.text (m : Manifest) (isPretty : Bool) : String :=
  (Envelope.mk formatVersion "manifest" m.toDatum).render isPretty

namespace Config

/-- Where the manifest is written. -/
def manifestPath (c : Config) : Disk.Path :=
  c.outputDir.join c.output.manifest

/-- Removes the manifest of the last compilation, if there is one. -/
def invalidate (c : Config) : Disk.Job (Except CompileError Unit) := do
  match ← Disk.Job.remove c.manifestPath with
  | .ok () | .error .missing => return .ok ()
  | .error .unsuitable => return .error (.io c.manifestPath)

end Config

namespace Plans

/-- Writes the artifacts of some plans. Every run has a name that its staging files carry. -/
def emit (p : Plans) (run : String) (isPretty : Bool) (config : Config) :
    Disk.Job (Except CompileError Manifest) := do
  let files := ArtifactKind.all.map fun kind =>
    ((kind.settings config).file, p.artifactText isPretty config kind)
  let manifest := p.manifest isPretty config
  match ← config.invalidate with
  | .error e => return .error e
  | .ok () =>
    match ← Batch.prepare run config.outputDir files with
    | .error e => return .error e
    | .ok staged =>
      match ← Batch.publish run config.outputDir staged config.output.manifest
          (manifest.text isPretty) with
      | .error e => return .error e
      | .ok _ => return .ok manifest

end Plans

end Wiring
