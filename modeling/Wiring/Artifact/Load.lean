import Wiring.Artifact.Emit
import Wiring.Datum.Json.Reader

/-!
# Loading artifacts

The manifest says which files hold the artifacts. An artifact whose digest is not the one in the
manifest is stale and refused, so what is loaded comes from one compilation.
-/

namespace Wiring

/-- The artifacts of one compilation, loaded. -/
structure LoadedArtifacts where
  dir : Disk.Path
  manifest : Manifest
  plans : Plans
  /-- The configuration that the plans were made with. -/
  config : Config
  deriving Inhabited

namespace LoadedArtifacts

/-- Where the artifact of a kind is. -/
def path (a : LoadedArtifacts) (kind : ArtifactKind) : Disk.Path :=
  match a.manifest.find? kind with
  | some e => a.dir.join e.file
  | none => a.dir

/-- The content of an artifact with a text. What the artifact has besides its known fields is passed
over, whatever its value. -/
def decode {α : Type} (read : Datum → Option α) (path : Disk.Path) (text : String) :
    Except ServeError α :=
  match Json.parse? text >>= fun d => do
      let e ← Envelope.ofDatum? d
      return (e.format, ← read e.content) with
  | none => .error (.artifactInvalid path .content)
  | some (format, content) =>
    if format = formatVersion then .ok content else .error (.artifactInvalid path (.format format))

/-- The error of a file that cannot be read. -/
def unreadable (path : Disk.Path) : Disk.Fault → ServeError
  | .missing => .artifactMissing path
  | .unsuitable => .artifactInvalid path .content

/-- Reads a file. -/
def readFile (path : Disk.Path) : ExceptT ServeError Disk.Job String := do
  match ← Disk.Job.read path with
  | .ok text => return text
  | .error fault => throw (unreadable path fault)

/-- Reads the artifact of a kind and checks it against the manifest. -/
def readArtifact {α : Type} (dir : Disk.Path) (manifest : Manifest) (kind : ArtifactKind)
    (read : Datum → Option α) : ExceptT ServeError Disk.Job α := do
  match manifest.find? kind with
  | none => throw (.artifactMissing (dir.join kind.name))
  | some entry =>
    let path := dir.join entry.file
    let text ← readFile path
    if Sha256.ofText text = entry.sha256 then decode read path text
    else throw (.artifactStale path)

/-- Loads the artifacts of a project. -/
def load (config : Config) : ExceptT ServeError Disk.Job LoadedArtifacts := do
  let dir := config.outputDir
  let manifest ← decode Manifest.ofDatum? config.manifestPath (← readFile config.manifestPath)
  let content ← readArtifact dir manifest .container ContainerContent.ofDatum?
  let router ← readArtifact dir manifest .router RouterPlan.ofDatum?
  let middleware ← readArtifact dir manifest .middleware MiddlewarePlan.ofDatum?
  let listeners ← readArtifact dir manifest .listeners ListenerTable.ofDatum?
  return { dir, manifest, config := content.config,
           plans := { container := content.plan, router, middleware, listeners } }

end LoadedArtifacts

end Wiring
