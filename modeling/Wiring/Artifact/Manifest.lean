import Wiring.Config.Codec
import Wiring.Datum.Json.Writer
import Wiring.Digest.Sha256
import Wiring.Serve.Error

/-!
# Artifacts and their manifest

Each plan is written into a file of its own, as a record that names the format and the module that
the artifact belongs to. The manifest lists the files of one compilation with their digests.
-/

namespace Wiring

/-- The kinds of artifacts. -/
inductive ArtifactKind where
  | container | router | middleware | listeners
  deriving DecidableEq, Repr, Inhabited

namespace ArtifactKind

/-- All kinds, in the order in which they are written and read. -/
def all : List ArtifactKind :=
  [container, router, middleware, listeners]

/-- The name of a kind. -/
def name : ArtifactKind → String
  | container => "container"
  | router => "router"
  | middleware => "middleware"
  | listeners => "listeners"

/-- The kind with this name. -/
def ofName? (s : String) : Option ArtifactKind :=
  all.find? (·.name == s)

/-- Where artifacts of a kind are written. -/
def settings (c : Config) : ArtifactKind → ArtifactConfig
  | container => c.output.container
  | router => c.output.router
  | middleware => c.output.middleware
  | listeners => c.output.listeners

end ArtifactKind

/-- The record that an artifact is written as. -/
structure Envelope where
  format : Nat
  module : String
  content : Datum
  deriving Inhabited

namespace Envelope

/-- The record as a data tree. -/
def toDatum (e : Envelope) : Datum :=
  .record [("format", .int e.format), ("module", .text e.module), ("content", e.content)]

/-- The bound of a format. -/
def maxFormat : Int := 0xFFFFFFFF

/-- The record that a data tree stands for. -/
def ofDatum? (d : Datum) : Option Envelope := do
  match ← d.columns? ["format", "module", "content"] with
  | [format, module, content] =>
    return {
      format := (← Datum.required (Datum.intBetween? 0 maxFormat) format).toNat
      module := ← Datum.required Datum.text? module
      content := ← content }
  | _ => none

/-- The text of a record, on many lines or on one. -/
def render (isPretty : Bool) (e : Envelope) : String :=
  (if isPretty then Json.pretty e.toDatum else Json.compact e.toDatum) ++ "\n"

end Envelope

/-- One artifact of a compilation. -/
structure ManifestEntry where
  kind : ArtifactKind
  file : String
  module : String
  /-- The digest of the file. -/
  sha256 : String
  deriving DecidableEq, Repr, Inhabited

/-- The artifacts of one compilation. -/
structure Manifest where
  format : Nat := formatVersion
  artifacts : List ManifestEntry
  deriving DecidableEq, Repr, Inhabited

namespace ManifestEntry

/-- The entry as a record. -/
def toDatum (e : ManifestEntry) : Datum :=
  .record [("kind", .text e.kind.name), ("file", .text e.file), ("module", .text e.module),
    ("sha256", .text e.sha256)]

/-- The entry that a record stands for. -/
def ofDatum? (d : Datum) : Option ManifestEntry := do
  match ← d.columns? ["kind", "file", "module", "sha256"] with
  | [kind, file, module, sha256] =>
    return {
      kind := ← kind >>= Datum.caseName? .json >>= ArtifactKind.ofName?
      file := ← Datum.required Datum.text? file
      module := ← Datum.required Datum.text? module
      sha256 := ← Datum.required Datum.text? sha256 }
  | _ => none

end ManifestEntry

namespace Manifest

/-- The first entry of a kind. -/
def find? (m : Manifest) (kind : ArtifactKind) : Option ManifestEntry :=
  m.artifacts.find? (·.kind = kind)

/-- The manifest as a record. -/
def toDatum (m : Manifest) : Datum :=
  .record [("format", .int m.format), ("artifacts", .list (m.artifacts.map ManifestEntry.toDatum))]

/-- The manifest that a record stands for. -/
def ofDatum? (d : Datum) : Option Manifest := do
  match ← d.columns? ["format", "artifacts"] with
  | [format, artifacts] =>
    return {
      format := (← Datum.required (Datum.intBetween? 0 Envelope.maxFormat) format).toNat
      artifacts := ← Datum.required (Datum.listOf ManifestEntry.ofDatum?) artifacts }
  | _ => none

end Manifest

end Wiring
