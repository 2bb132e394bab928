import Wiring.Binding.Choice
import Wiring.Config.Basic
import Wiring.Descriptor.Class
import Wiring.Diagnostic
import Wiring.Error

/-!
# Registering services

Identifiers are registered in four rounds: concrete classes under their own names, their
capabilities and parents, the services declared by hand, which replace what was there, and the
builtin services where their identifier is still free. A capability of one class is an alias of it,
one of several classes is ambiguous; the name of a class is never taken over by a capability.

Then the parameters of every service get their bindings. A service with a parameter that has none is
reported and left out.
-/

namespace Wiring

/-- Where the parameters of a registered service are found. -/
inductive ParamSource where
  | discovered (c : ClassDescriptor)
  /-- A declaration, with the parameters of its constructor or factory if that is known. -/
  | manual (d : ServiceDeclaration) (params? : Option (List Parameter))
  | builtin

/-- Registered identifiers, with the sources of their parameters. -/
structure Registrations where
  map : ServiceMap := {}
  sources : List (String × ParamSource) := []

namespace Registrations

/-- Registers a service together with the source of its parameters. -/
def addService (r : Registrations) (id : String) (s : ServiceDescriptor) (source : ParamSource) :
    Registrations :=
  ⟨r.map.insert id (.service s), (id, source) :: r.sources⟩

/-- Registers an entry that has no parameters. -/
def addEntry (r : Registrations) (id : String) (entry : ServiceEntry) : Registrations :=
  ⟨r.map.insert id entry, r.sources.filter (·.1 != id)⟩

/-- Registers a concrete class under its own name. -/
def addClass (singleton : Bool) (r : Registrations) (c : ClassDescriptor) : Registrations :=
  r.addService c.name
    { className := c.name, singleton := c.singletonHint?.getD singleton } (.discovered c)

/-- What an identifier stands for once a class claims it as well; `none` if nothing changes. -/
def claimed? (className : String) : Option ServiceEntry → Option ServiceEntry
  | none => some (.alias className)
  | some (.service _) => none
  | some (.alias existing) =>
    if existing = className then none else some (.ambiguous [existing, className])
  | some (.ambiguous candidates) =>
    if candidates.contains className then none else some (.ambiguous (candidates ++ [className]))

/-- Registers a class for one of its capabilities or parents. -/
def claim (className : String) (r : Registrations) (id : String) : Registrations :=
  match claimed? className (r.map.get? id) with
  | some entry => { r with map := r.map.insert id entry }
  | none => r

/-- Registers a class for all its capabilities and parents. -/
def addCapabilities (r : Registrations) (c : ClassDescriptor) : Registrations :=
  (c.capabilities ++ c.parents).foldl (claim c.name) r

/-- The first class with this name. -/
def class? (classes : List ClassDescriptor) (name : String) : Option ClassDescriptor :=
  classes.find? (·.name == name)

/-- The method that a factory names, if its class and method are known. -/
def factoryMethod? (classes : List ClassDescriptor) (f : Factory) : Option Method :=
  class? classes f.owner >>= (·.method? f.method)

/-- What a declaration says its service is. -/
def manualService (config : Config) (classes : List ClassDescriptor) (d : ServiceDeclaration) :
    Except CompileError ServiceDescriptor := do
  let known := class? classes d.className
  let factory? := d.factoryTarget?.map fun (owner, method) => Factory.mk owner method
  match factory?, known with
  | none, some c =>
    if !c.kind.isInstantiable then throw (.declaration d.id (.notInstantiable c.name))
  | _, _ => pure ()
  if let some f := factory? then
    if let some m := factoryMethod? classes f then
      if !m.isStatic then throw (.declaration d.id (.factoryNotStatic f.owner f.method))
  return {
    className := d.className
    singleton := (d.singleton?.or (known.bind (·.singletonHint?))).getD config.defaultSingleton
    factory? := factory?
    origin := .manual }

/-- The parameters of the factory or else of the constructor of a declared service. -/
def manualParams? (classes : List ClassDescriptor) (s : ServiceDescriptor) :
    Option (List Parameter) :=
  match s.factory? with
  | some f => (factoryMethod? classes f).map (·.params)
  | none => (class? classes s.className).map (·.constructor)

/-- Registers a declared service and its aliases. -/
def addDeclaration (config : Config) (classes : List ClassDescriptor) (r : Registrations)
    (d : ServiceDeclaration) : Except CompileError Registrations := do
  let s ← manualService config classes d
  let r := r.addService d.id s (.manual d (manualParams? classes s))
  return d.aliases.foldl (fun r name => r.addEntry name (.alias d.id)) r

/-- Registers a builtin service if its identifier is free. -/
def addBuiltin (r : Registrations) (id : String) (which : Builtin) : Registrations :=
  if r.map.contains id then r
  else r.addService id { className := id, origin := .builtin which } .builtin

/-- Registers everything; the services have no parameters yet. -/
def register (config : Config) (classes : List ClassDescriptor) :
    Except CompileError Registrations := do
  let concrete := classes.filter (·.kind.isInstantiable)
  let r := concrete.foldl (addClass config.defaultSingleton) {}
  let r := concrete.foldl addCapabilities r
  let r ← config.services.foldlM (addDeclaration config classes) r
  return (r.addBuiltin config.capabilities.container .container).addBuiltin
    config.capabilities.config .config

/-- The identifiers declared by hand, aliases included. -/
def manualIds (config : Config) : List String :=
  config.services.flatMap fun d => d.id :: d.aliases

/-- The bindings of the parameters of a service, or the name of the first parameter without one. -/
def bindings (choice : BindingChoice) (id : String) :
    Option ParamSource → Except CompileError (Except String (List (String × Binding)))
  | none | some .builtin => .ok (.ok [])
  | some (.discovered c) => .ok (choice.chooseAll [] c.constructor)
  | some (.manual d params?) =>
    match d.arguments? with
    | some arguments => .ok (.ok arguments)
    | none =>
      let params := params?.getD []
      match d.params.find? fun (name, _) => !params.any (·.name == name) with
      | some (name, _) => .error (.declaration id (.unknownOverride name))
      | none => .ok (choice.chooseAll d.params params)

/-- Adds one registered entry, with its bindings, to the map that goes to the graph. -/
def complete (r : Registrations) (choice : BindingChoice) (done : ServiceMap × List Diagnostic)
    (entry : String × ServiceEntry) : Except CompileError (ServiceMap × List Diagnostic) := do
  let (map, diagnostics) := done
  let (id, entry) := entry
  match entry with
  | .ambiguous candidates =>
    return (map.insert id entry, diagnostics ++ [.warning id (.ambiguous candidates)])
  | .alias _ => return (map.insert id entry, diagnostics)
  | .service s =>
    match ← bindings choice id (r.sources.lookup id) with
    | .ok params => return (map.insert id (.service { s with params }), diagnostics)
    | .error param => return (map, diagnostics ++ [.error id (.unresolvableParameter param)])

/-- The service map of a project, with what was left out or is ambiguous. -/
def build (config : Config) (classes : List ClassDescriptor) :
    Except CompileError (ServiceMap × List Diagnostic) := do
  let r ← register config classes
  let choice : BindingChoice := ⟨r.map, manualIds config⟩
  r.map.entries.foldlM (r.complete choice) ({}, [])

end Registrations

end Wiring
