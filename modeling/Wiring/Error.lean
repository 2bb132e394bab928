import Wiring.Disk.Path
import Wiring.Http.Verb
import Wiring.Binding.Basic

/-!
# Errors that end compiling

Each error is a value that says what was wrong; `message` is its wording.
-/

namespace Wiring

/-- What is wrong with a declaration. -/
inductive Fault where
  | emptyIdentifier
  | declaredTwice
  | factoryForm
  | misplacedSkip (why : Binding.Misplaced)
  | pathStart
  | targetForm
  | listenerTargetForm
  | listenerTarget (target : String)
  | notInstantiable (className : String)
  | factoryNotStatic (owner method : String)
  | unknownOverride (param : String)
  | routePathStart (path : String)
  | capturedTwice (param : String)
  | requirementNotInPath (param : String)
  deriving DecidableEq, Repr

/-- What is wrong with a configuration. -/
inductive ConfigFault where
  | emptyCapability (field : String)
  | artifactFile (name : String)
  | passFailed (message : String)
  deriving DecidableEq, Repr

/-- An error that ends compiling. -/
inductive CompileError where
  | config (fault : ConfigFault)
  /-- The text of a configuration file was refused. -/
  | configText
  | declaration (subject : String) (fault : Fault)
  | routeConflict (verb : Verb) (path existing replacement : String)
  | invalidRequirement (path param : String)
  | unknownPass (name : String)
  /-- A source file was refused, with the reason if it is one of the analyzer's own. -/
  | source (path : Disk.Path) (reason? : Option String)
  | io (path : Disk.Path)
  deriving DecidableEq, Repr

namespace Fault

/-- The wording of a fault. -/
def message : Fault → String
  | emptyIdentifier => "empty identifier"
  | declaredTwice => "service declared more than once"
  | factoryForm => "factory must have the form Class::method"
  | misplacedSkip why => why.message
  | pathStart => "path must start with '/'"
  | targetForm => "target must have the form Class::method"
  | listenerTargetForm => "listener target must have the form Class::method"
  | listenerTarget target => "listener target '" ++ target ++ "' must have the form Class::method"
  | notInstantiable name => "class '" ++ name ++ "' cannot be instantiated"
  | factoryNotStatic owner method => "factory " ++ owner ++ "::" ++ method ++ " is not static"
  | unknownOverride param => "override for unknown parameter '" ++ param ++ "'"
  | routePathStart path => "route path '" ++ path ++ "' must start with '/'"
  | capturedTwice param => "parameter '" ++ param ++ "' captured twice"
  | requirementNotInPath param => "requirement for '" ++ param ++ "' which is not in the path"

end Fault

namespace ConfigFault

/-- The wording of a fault. -/
def message : ConfigFault → String
  | emptyCapability field => field ++ " must not be empty"
  | artifactFile name => "artifact file name '" ++ name ++ "' is empty or used twice"
  | passFailed message => message

end ConfigFault

namespace CompileError

/-- The wording of an error. What was wrong inside a text of another format is not told. -/
def message : CompileError → String
  | config fault => "Configuration error: " ++ fault.message
  | configText => "Configuration error: "
  | declaration subject fault => "Invalid declaration '" ++ subject ++ "': " ++ fault.message
  | routeConflict verb path existing replacement =>
    "Conflicting route " ++ verb.name ++ " " ++ path ++ ": " ++ existing ++ " and " ++ replacement
  | invalidRequirement path param =>
    "Invalid requirement for '" ++ param ++ "' in route " ++ path ++ ": "
  | unknownPass name => "Unknown compiler pass '" ++ name ++ "'"
  | source path reason? => "Source error in " ++ path ++ ": " ++ reason?.getD ""
  | io path => "I/O error on " ++ path ++ ": "

end CompileError

end Wiring
