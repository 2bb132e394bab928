import Wiring.Binding.Codec
import Wiring.Descriptor.Annotation
import Wiring.Disk.Path

/-!
# Configuration

Everything the compiler needs besides the descriptors of classes: where artifacts go, which
identifiers have a special meaning, and the services, routes, middlewares and listeners that are
declared by hand. Every field has a value that stands when the file does not give one.
-/

namespace Wiring

/-- A target written `Class::method`, cut at the last pair of colons. -/
def splitTarget (target : String) : Option (String × String) :=
  (Text.cutLast? "::" target).filter fun (owner, method) => owner ≠ "" && method ≠ ""

/-- Where one artifact is written, and the module that it says it is. -/
structure ArtifactConfig where
  file : String
  module : String
  deriving DecidableEq, Repr, Inhabited

/-- Where artifacts are written. -/
structure OutputConfig where
  /-- The directory of the artifacts, seen from the project root. -/
  dir : Disk.Path := "target/prewire"
  container : ArtifactConfig := ⟨"container.json", "app::container"⟩
  router : ArtifactConfig := ⟨"router.json", "app::router"⟩
  middleware : ArtifactConfig := ⟨"middleware.json", "app::middleware"⟩
  listeners : ArtifactConfig := ⟨"listeners.json", "app::listeners"⟩
  manifest : String := "manifest.json"
  deriving DecidableEq, Repr, Inhabited

/-- Identifiers with a special meaning. -/
structure CapabilityConfig where
  /-- What the container itself is registered as. -/
  container : String := "prewire::Container"
  /-- What the configuration is registered as. -/
  config : String := "prewire::Config"
  /-- The type of a route parameter that gets the request. -/
  request : String := "Request"
  /-- The capability of events that can be stopped. -/
  stoppableEvent : String := "StoppableEvent"
  deriving DecidableEq, Repr, Inhabited

/-- A service declared by hand. -/
structure ServiceDeclaration where
  id : String
  /-- The class to build; the identifier if it is not given. -/
  class? : Option String := none
  /-- A static method that builds the service. -/
  factory? : Option String := none
  /-- All arguments, in place of those found by type. -/
  arguments? : Option (List (String × Binding)) := none
  /-- Bindings for single parameters, sorted by parameter. -/
  params : List (String × Binding) := []
  aliases : List String := []
  singleton? : Option Bool := none
  deriving BEq, Repr, Inhabited

namespace ServiceDeclaration

/-- The class to build. -/
def className (d : ServiceDeclaration) : String :=
  d.class?.getD d.id

/-- The factory, cut into class and method. -/
def factoryTarget? (d : ServiceDeclaration) : Option (String × String) :=
  d.factory? >>= splitTarget

end ServiceDeclaration

/-- A route declared by hand. -/
structure RouteDeclaration where
  verb : Verb
  path : String
  target : String
  /-- Patterns of captures, sorted by capture. -/
  requirements : List (String × String) := []
  name? : Option String := none
  deriving DecidableEq, Repr, Inhabited

/-- A middleware declared by hand. -/
structure MiddlewareDeclaration where
  className : String
  priority : Int32 := 0
  deriving DecidableEq, Repr, Inhabited

/-- A listener declared by hand. -/
structure ListenerDeclaration where
  event : String
  target : String
  /-- Whether the method is static, for methods that are not known. -/
  isStatic : Bool := false
  deriving DecidableEq, Repr, Inhabited

/-- The configuration of a project. -/
structure Config where
  projectRoot : Disk.Path := "."
  output : OutputConfig := {}
  capabilities : CapabilityConfig := {}
  /-- Whether services are built once if nothing else is said. -/
  defaultSingleton : Bool := true
  /-- Whether two routes on one place are an error. -/
  strictRoutes : Bool := false
  /-- Passes that run after the standard ones, in this order. -/
  passes : List String := []
  services : List ServiceDeclaration := []
  routes : List RouteDeclaration := []
  middlewares : List MiddlewareDeclaration := []
  listeners : List ListenerDeclaration := []
  deriving BEq, Repr, Inhabited

namespace Config

/-- The directory of the artifacts. -/
def outputDir (c : Config) : Disk.Path :=
  c.projectRoot.join c.output.dir

/-- The file names of the four artifacts and the manifest. -/
def artifactFiles (c : Config) : List String :=
  [c.output.container.file, c.output.router.file, c.output.middleware.file, c.output.listeners.file,
    c.output.manifest]

/-- The paths of the four artifacts and the manifest. -/
def artifactPaths (c : Config) : List Disk.Path :=
  c.artifactFiles.map c.outputDir.join

end Config

end Wiring
