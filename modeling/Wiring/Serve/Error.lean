import Wiring.Disk.Path

/-!
# Errors at run time

What can go wrong while a compiled project is loaded and served. Each error has a wording and the
status of the response that it becomes.
-/

namespace Wiring

/-- Why an artifact cannot be read. -/
inductive ArtifactFault where
  /-- The artifact was written in another format. -/
  | format (found : Nat)
  /-- The artifact is no text, no data tree, or not the tree of its kind of artifact. -/
  | content
  /-- A requirement of the router artifact is no pattern. -/
  | requirement
  deriving DecidableEq, Repr, Inhabited

/-- An error of a project that is served. -/
inductive ServeError where
  | serviceNotFound (id : String)
  | missingConstructor (className : String)
  | missingCallable (target : String)
  | missingConstant (name : String)
  | missingEnv (key : String)
  | missingArgument (name : String)
  | argumentType (name expected : String)
  | artifactMissing (path : Disk.Path)
  | artifactStale (path : Disk.Path)
  | artifactInvalid (path : Disk.Path) (fault : ArtifactFault)
  /-- An error of the application itself, with its status. -/
  | handler (message : String) (status : Nat)
  /-- Building a service would need itself. Plans that were compiled contain no such service. -/
  | endless (id : String)
  deriving DecidableEq, Repr, Inhabited

/-- The format of artifacts. -/
def formatVersion : Nat := 1

/-- The wording of a fault. What was wrong inside a text of another format is not told. -/
def ArtifactFault.message : ArtifactFault → String
  | format found =>
    "format " ++ toString found ++ " is not supported, expected " ++ toString formatVersion
  | content => ""
  | requirement => ""

namespace ServeError

/-- The word for the kind of an error. -/
def kind : ServeError → String
  | serviceNotFound _ => "ServiceNotFound"
  | missingConstructor _ => "MissingConstructor"
  | missingCallable _ => "MissingCallable"
  | missingConstant _ => "MissingConstant"
  | missingEnv _ => "MissingEnv"
  | missingArgument _ => "MissingArgument"
  | argumentType _ _ => "ArgumentType"
  | artifactMissing _ => "ArtifactMissing"
  | artifactStale _ => "ArtifactStale"
  | artifactInvalid _ _ => "ArtifactInvalid"
  | handler _ _ => "Handler"
  | endless _ => "Endless"

/-- The wording of an error. -/
def message : ServeError → String
  | serviceNotFound id => "Service '" ++ id ++ "' not registered in container"
  | missingConstructor name => "No constructor registered for '" ++ name ++ "'"
  | missingCallable target => "No callable registered for '" ++ target ++ "'"
  | missingConstant name => "Constant '" ++ name ++ "' is not registered"
  | missingEnv key => "Environment variable '" ++ key ++ "' is not set"
  | missingArgument name => "Missing argument '" ++ name ++ "'"
  | argumentType name expected => "Argument '" ++ name ++ "' is not a " ++ expected
  | artifactMissing path => "Artifact " ++ path ++ " is missing"
  | artifactStale path => "Artifact " ++ path ++ " is stale"
  | artifactInvalid path fault => "Artifact " ++ path ++ " is unreadable: " ++ fault.message
  | handler message _ => message
  | endless id => "Service '" ++ id ++ "' needs itself"

/-- The status of the response that an error becomes. -/
def status : ServeError → Nat
  | handler _ status => status
  | missingArgument _ | argumentType _ _ => 400
  | _ => 500

end ServeError

end Wiring
