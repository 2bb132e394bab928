import Wiring.Artifact.Load
import Wiring.Proofs.Artifact.Emit
import Wiring.Proofs.Datum.Json

/-!
# Loading the artifacts of a manifest

A manifest that was written is read back (`decode_render`), so loading reads the files that it lists
and no others. When the files that a compilation writes are there, what is loaded are the contents
of exactly these texts (`run_load`); when there is no manifest, nothing is loaded.
-/

namespace Wiring

namespace ManifestEntry

/-- An entry is read back from its record. -/
theorem ofDatum?_toDatum (e : ManifestEntry) : ofDatum? e.toDatum = some e := by
  obtain ⟨kind, file, module, sha256⟩ := e
  have hname : ArtifactKind.ofName? kind.name = some kind := by cases kind <;> decide
  simp [toDatum, ofDatum?, Datum.columns?, Datum.columnsAs?, Datum.single?, Datum.required,
    Datum.text?, Datum.caseName?, hname]

/-- An entry of a manifest is written with numbers that are read back exactly. -/
theorem exact_toDatum (e : ManifestEntry) : Json.Exact e.toDatum := by
  simp [toDatum]

/-- An entry of a manifest holds nothing that is nested. -/
theorem nesting_toDatum (e : ManifestEntry) : e.toDatum.nesting = 1 := rfl

end ManifestEntry

namespace Manifest

variable {m : Manifest}

/-- A manifest is read back from its record. -/
theorem ofDatum?_toDatum (hm : m.format ≤ Envelope.maxFormat) : ofDatum? m.toDatum = some m := by
  obtain ⟨format, artifacts⟩ := m
  have hartifacts : (artifacts.map ManifestEntry.toDatum).mapM ManifestEntry.ofDatum? =
      some artifacts := by
    clear hm
    induction artifacts with
    | nil => rfl
    | cons e rest ih => rw [List.map_cons, List.mapM_cons, ManifestEntry.ofDatum?_toDatum, ih]; rfl
  simp only at hm
  simp [toDatum, ofDatum?, Datum.columns?, Datum.columnsAs?, Datum.single?, Datum.required,
    Datum.intBetween?, Datum.listOf, hartifacts, hm]

/-- A manifest is written with numbers that are read back exactly. -/
theorem exact_toDatum (hm : m.format ≤ Envelope.maxFormat) : Json.Exact m.toDatum := by
  have hformat : (m.format : Int) < 2 ^ 64 := by
    rw [Envelope.maxFormat] at hm
    omega
  simp [toDatum, ManifestEntry.exact_toDatum]
  omega

/-- A manifest is nested three deep at most. -/
theorem nesting_toDatum_le (m : Manifest) : m.toDatum.nesting ≤ 3 := by
  have hartifacts : (Datum.list (m.artifacts.map ManifestEntry.toDatum)).nesting ≤ 2 :=
    Datum.nesting_list_le.2 (List.forall_mem_map.2 fun e _ => e.nesting_toDatum.le)
  refine Datum.nesting_record_le.2 (List.forall_mem_cons.2 ⟨Nat.zero_le 2, ?_⟩)
  exact List.forall_mem_singleton.2 hartifacts

end Manifest

namespace LoadedArtifacts

/-- What is decoded from an artifact is what its content stands for, cut off where the reader stops.
-/
theorem decode_render_within {α : Type} {read : Datum → Option α} {content : Datum}
    (hd : Json.Exact content) (path : Disk.Path) (module : String) (isPretty : Bool) :
    decode read path ((Envelope.mk formatVersion module content).render isPretty) =
      match read (content.within (Json.depthLimit - 2)) with
      | some a => .ok a
      | none => .error (.artifactInvalid path .content) := by
  have hexact : Json.Exact (Envelope.mk formatVersion module content).toDatum := by
    simp [Envelope.toDatum, formatVersion, hd]
  have hparse : Json.parse? ((Envelope.mk formatVersion module content).render isPretty) =
      some ((Envelope.mk formatVersion module content).toDatum.within (Json.depthLimit - 1)) := by
    cases isPretty
    · exact Json.parse?_compact hexact
    · exact Json.parse?_pretty hexact
  have henvelope : Envelope.ofDatum?
      ((Envelope.mk formatVersion module content).toDatum.within (Json.depthLimit - 1)) =
        some ⟨formatVersion, module, content.within (Json.depthLimit - 2)⟩ := by
    simp [Envelope.toDatum, Envelope.ofDatum?, Json.depthLimit, Datum.intBetween?,
      Envelope.maxFormat, formatVersion]
  rw [decode, hparse]
  simp only [Option.bind_eq_bind, Option.bind_some, henvelope]
  cases read (content.within (Json.depthLimit - 2)) <;> simp

/-- A content that is read back from its tree is read back from the artifact it is written as, if it
is not nested too deep. -/
theorem decode_render {α : Type} {read : Datum → Option α} {content : Datum} {a : α}
    (hd : Json.Exact content) (hnesting : content.nesting + 1 < Json.depthLimit)
    (hread : read content = some a) (path : Disk.Path) (module : String) (isPretty : Bool) :
    decode read path ((Envelope.mk formatVersion module content).render isPretty) = .ok a := by
  rw [decode_render_within hd, Datum.within_of_nesting_le (by omega), hread]

variable {m : Disk.Machine} {c : Config} {p : Plans}

/-- The manifest of some artifacts lists each of them. -/
theorem find?_manifest (p : Plans) (isPretty : Bool) (c : Config) (kind : ArtifactKind) :
    (p.manifest isPretty c).find? kind = some (p.manifestEntry isPretty c kind) := by
  cases kind <;> rfl

/-- The manifest of some plans is read back from its text. -/
theorem decode_manifest (p : Plans) (isPretty : Bool) (c : Config) (path : Disk.Path) :
    decode Manifest.ofDatum? path ((p.manifest isPretty c).text isPretty) =
      .ok (p.manifest isPretty c) := by
  have hformat : (p.manifest isPretty c).format ≤ Envelope.maxFormat := by
    show (1 : Int) ≤ 0xFFFFFFFF
    decide
  have hnesting := (p.manifest isPretty c).nesting_toDatum_le
  exact decode_render (Manifest.exact_toDatum hformat) (by rw [Json.depthLimit]; omega)
    (Manifest.ofDatum?_toDatum hformat) path "manifest" isPretty

/-- Reading a file tells what the tree has there and changes nothing. -/
theorem run_readFile (m : Disk.Machine) (path : Disk.Path) :
    m.run (readFile path).run = ((m.tree.read path).mapError (unreadable path), m) := by
  have hread : m.run (ExceptT.lift (Disk.Job.read path) : ExceptT ServeError Disk.Job _).run =
      (.ok (m.tree.read path), m) := rfl
  rw [readFile]
  refine (Disk.run_bind_ok hread).trans ?_
  cases m.tree.read path with
  | ok text | error fault => rfl

/-- An artifact that is there as it was written is what its text stands for. -/
theorem run_readArtifact {α : Type} (h : c.Published p m) (kind : ArtifactKind)
    (read : Datum → Option α) :
    m.run (readArtifact c.outputDir (p.manifest true c) kind read).run =
      (decode read (c.outputDir.join (kind.settings c).file) (p.artifactText true c kind), m) := by
  have hfile : m.run (readFile (c.outputDir.join (kind.settings c).file)).run =
      (.ok (p.artifactText true c kind), m) := by
    rw [run_readFile, h.artifact]
    rfl
  have hdigest : Sha256.ofText (p.artifactText true c kind) =
      (p.manifestEntry true c kind).sha256 := rfl
  rw [readArtifact, find?_manifest]
  refine (Disk.run_bind_ok hfile).trans ?_
  rw [if_pos hdigest]
  rfl

/-- Where the files of a compilation are, loading is reading the texts of its artifacts. -/
theorem run_load (h : c.Published p m) : m.run (load c).run = ((do
    let content ← decode ContainerContent.ofDatum?
      (c.outputDir.join c.output.container.file) (p.artifactText true c .container)
    let router ← decode RouterPlan.ofDatum?
      (c.outputDir.join c.output.router.file) (p.artifactText true c .router)
    let middleware ← decode MiddlewarePlan.ofDatum?
      (c.outputDir.join c.output.middleware.file) (p.artifactText true c .middleware)
    let listeners ← decode ListenerTable.ofDatum?
      (c.outputDir.join c.output.listeners.file) (p.artifactText true c .listeners)
    return {
      dir := c.outputDir, manifest := p.manifest true c, config := content.config,
      plans := { container := content.plan, router, middleware, listeners } }), m) := by
  have hfile : m.run (readFile c.manifestPath).run = (.ok ((p.manifest true c).text true), m) := by
    rw [run_readFile, h.manifest]
    rfl
  have hmanifest : m.run (liftM (decode Manifest.ofDatum? c.manifestPath
      ((p.manifest true c).text true)) : ExceptT ServeError Disk.Job Manifest).run =
      (.ok (p.manifest true c), m) := by
    rw [decode_manifest]
    rfl
  rw [load]
  refine (Disk.run_bind_ok hfile).trans ((Disk.run_bind_ok hmanifest).trans ?_)
  refine Disk.run_bind_of (run_readArtifact h .container _) fun content => ?_
  refine Disk.run_bind_of (run_readArtifact h .router _) fun router => ?_
  refine Disk.run_bind_of (run_readArtifact h .middleware _) fun middleware => ?_
  exact Disk.run_bind_of (run_readArtifact h .listeners _) fun listeners => rfl

/-- Where there is no manifest, nothing is loaded. -/
theorem run_load_unpublished (h : c.Unpublished m) :
    ∃ e, m.run (load c).run = (.error e, m) := by
  cases hread : m.tree.read c.manifestPath with
  | ok text => exact absurd hread h.read_ne_ok
  | error fault =>
    have hfile : m.run (readFile c.manifestPath).run =
        (.error (unreadable c.manifestPath fault), m) := by
      rw [run_readFile, hread]
      rfl
    exact ⟨_, Disk.run_bind_error hfile⟩

/-- What is loaded are the contents of some texts, and these stand in the files that it is from. -/
structure ReadFrom (a : LoadedArtifacts) (m : Disk.Machine) (text : ArtifactKind → String) :
    Prop where
  files : ∀ kind, m.tree.read (a.path kind) = .ok (text kind)
  container : decode ContainerContent.ofDatum? (a.path .container) (text .container) =
    .ok ⟨a.plans.container, a.config⟩
  router : decode RouterPlan.ofDatum? (a.path .router) (text .router) = .ok a.plans.router
  middleware : decode MiddlewarePlan.ofDatum? (a.path .middleware) (text .middleware) =
    .ok a.plans.middleware
  listeners : decode ListenerTable.ofDatum? (a.path .listeners) (text .listeners) =
    .ok a.plans.listeners

/-- Where the files of a compilation are, nothing but its artifacts is loaded. -/
theorem readFrom_of_published {a : LoadedArtifacts} (h : c.Published p m)
    (ha : (m.run (load c).run).1 = .ok a) : a.ReadFrom m (p.artifactText true c) := by
  rw [run_load h] at ha
  obtain ⟨content, hcontainer, ha⟩ := Result.bind_eq_ok.1 ha
  obtain ⟨router, hrouter, ha⟩ := Result.bind_eq_ok.1 ha
  obtain ⟨middleware, hmiddleware, ha⟩ := Result.bind_eq_ok.1 ha
  obtain ⟨listeners, hlisteners, ha⟩ := Result.bind_eq_ok.1 ha
  cases ha
  exact ⟨fun kind => by cases kind <;> exact h.artifact _, hcontainer, hrouter,
    hmiddleware, hlisteners⟩

end LoadedArtifacts

end Wiring
