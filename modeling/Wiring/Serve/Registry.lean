import Wiring.Serve.Response
import Wiring.Serve.World

/-!
# Registered functions

Plans refer to the functions of the application by name: constructors and middleware by class,
factories, handlers and listeners by `Class::method`, constants and closures by names of their own.
Of several functions that are registered under one name the latest counts.
-/

namespace Wiring

/-- An event on its way through its listeners. -/
inductive Event where
  /-- An event that never says that it is stopped. -/
  | plain
  /-- An event that can be stopped by a listener. -/
  | stoppable (stopped : Bool)
  deriving DecidableEq, Repr, Inhabited

/-- Whether an event says that no further listener gets it. -/
def Event.isStopped : Event → Bool
  | plain => false
  | stoppable stopped => stopped

/-- The type and the label of an object that was constructed. -/
structure Product where
  type : String
  label : String
  deriving DecidableEq, Repr, Inhabited

/-- Constructs an object, given its serial number. It has the state of the application to itself and
does not get services while it runs: an instance that it is given, the container among them, is no
more than a name to it. -/
abbrev Constructor (τ : Type) := Nat → Args → Acting τ Product

/-- Answers a request. A static handler gets no instance. -/
abbrev Handler (τ : Type) := Option Instance → Request → Args → Acting τ Response

/-- Hears an event, which it may change. A static listener gets no instance. -/
abbrev Listener (τ : Type) := Option Instance → ExceptT ServeError (StateT Event (StateM τ)) Unit

/-- Answers a request, perhaps by handing it on to what comes next. -/
abbrev Middleware (τ : Type) :=
  Instance → Request → (Request → Serving τ Response) → Serving τ Response

/-- Answers a call of a closure. -/
abbrev ClosureBody (τ : Type) := Args → Acting τ Value

/-- The functions of an application. -/
structure Registry (τ : Type) where
  constructors : List (String × Constructor τ) := []
  factories : List (String × Constructor τ) := []
  handlers : List (String × Handler τ) := []
  listeners : List (String × Listener τ) := []
  middlewares : List (String × Middleware τ) := []
  constants : List (String × Value) := []
  closures : List (String × ClosureBody τ) := []

/-- A function to be registered. -/
inductive Callable (τ : Type) where
  | constructor (f : Constructor τ)
  | factory (f : Constructor τ)
  | handler (f : Handler τ)
  | listener (f : Listener τ)
  | middleware (f : Middleware τ)
  | constant (v : Value)
  | closure (f : ClosureBody τ)

namespace Registry

/-- The registry with one more function, which takes the place of one with the same name. -/
def register {τ : Type} (r : Registry τ) (name : String) : Callable τ → Registry τ
  | .constructor f => { r with constructors := (name, f) :: r.constructors }
  | .factory f => { r with factories := (name, f) :: r.factories }
  | .handler f => { r with handlers := (name, f) :: r.handlers }
  | .listener f => { r with listeners := (name, f) :: r.listeners }
  | .middleware f => { r with middlewares := (name, f) :: r.middlewares }
  | .constant v => { r with constants := (name, v) :: r.constants }
  | .closure f => { r with closures := (name, f) :: r.closures }

/-- The entry with a name, or an error. -/
def entry {α : Type} (missing : String → ServeError) (entries : List (String × α)) (name : String) :
    Except ServeError α :=
  match entries.lookup name with
  | some a => .ok a
  | none => .error (missing name)

/-- The constructor of a class. -/
def constructor {τ : Type} (r : Registry τ) (className : String) :
    Except ServeError (Constructor τ) :=
  entry .missingConstructor r.constructors className

/-- The factory with a target. -/
def factory {τ : Type} (r : Registry τ) (target : String) : Except ServeError (Constructor τ) :=
  entry .missingCallable r.factories target

/-- The handler with a target. -/
def handler {τ : Type} (r : Registry τ) (target : String) : Except ServeError (Handler τ) :=
  entry .missingCallable r.handlers target

/-- The listener with a target. -/
def listener {τ : Type} (r : Registry τ) (target : String) : Except ServeError (Listener τ) :=
  entry .missingCallable r.listeners target

/-- The middleware of a class. -/
def middleware {τ : Type} (r : Registry τ) (className : String) :
    Except ServeError (Middleware τ) :=
  entry .missingCallable r.middlewares className

/-- The value of a constant. -/
def constant {τ : Type} (r : Registry τ) (name : String) : Except ServeError Value :=
  entry .missingConstant r.constants name

/-- The body of a closure. -/
def closure {τ : Type} (r : Registry τ) (source : String) : Except ServeError (ClosureBody τ) :=
  entry .missingCallable r.closures source

/-- Calls a closure. -/
def call {τ : Type} (r : Registry τ) (source : String) (args : Args) : Acting τ Value := do
  (← r.closure source) args

end Registry

end Wiring
