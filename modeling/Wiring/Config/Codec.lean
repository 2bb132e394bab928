import Wiring.Config.Basic

/-!
# Configuration as a data tree

Fields that no configuration has are refused, also in the nested records. A configuration is read
from JSON or from a configuration file.
-/

namespace Wiring

namespace ArtifactConfig

/-- The place of an artifact as a record. -/
def toDatum (a : ArtifactConfig) : Datum :=
  .record [("file", .text a.file), ("module", .text a.module)]

/-- The place of an artifact that a record stands for. -/
def ofDatum? (style : Datum.Style) (d : Datum) : Option ArtifactConfig := do
  match ← d.strictColumns? style ["file", "module"] with
  | [file, module] =>
    return ⟨← Datum.required Datum.text? file, ← Datum.required Datum.text? module⟩
  | _ => none

end ArtifactConfig

namespace OutputConfig

/-- The places of the artifacts as a record. -/
def toDatum (o : OutputConfig) : Datum :=
  .record [("dir", .text o.dir), ("container", o.container.toDatum), ("router", o.router.toDatum),
    ("middleware", o.middleware.toDatum), ("listeners", o.listeners.toDatum),
    ("manifest", .text o.manifest)]

/-- The places of the artifacts that a record stands for. -/
def ofDatum? (style : Datum.Style) (d : Datum) : Option OutputConfig := do
  let std : OutputConfig := {}
  match ← d.strictColumns? style ["dir", "container", "router", "middleware", "listeners",
    "manifest"] with
  | [dir, container, router, middleware, listeners, manifest] =>
    return {
      dir := ← Datum.defaulting std.dir Datum.text? dir
      container := ← Datum.defaulting std.container (ArtifactConfig.ofDatum? style) container
      router := ← Datum.defaulting std.router (ArtifactConfig.ofDatum? style) router
      middleware := ← Datum.defaulting std.middleware (ArtifactConfig.ofDatum? style) middleware
      listeners := ← Datum.defaulting std.listeners (ArtifactConfig.ofDatum? style) listeners
      manifest := ← Datum.defaulting std.manifest Datum.text? manifest }
  | _ => none

end OutputConfig

namespace CapabilityConfig

/-- The special identifiers as a record. -/
def toDatum (c : CapabilityConfig) : Datum :=
  .record [("container", .text c.container), ("config", .text c.config),
    ("request", .text c.request), ("stoppable_event", .text c.stoppableEvent)]

/-- The special identifiers that a record stands for. -/
def ofDatum? (style : Datum.Style) (d : Datum) : Option CapabilityConfig := do
  let std : CapabilityConfig := {}
  match ← d.strictColumns? style ["container", "config", "request", "stoppable_event"] with
  | [container, config, request, stoppableEvent] =>
    return {
      container := ← Datum.defaulting std.container Datum.text? container
      config := ← Datum.defaulting std.config Datum.text? config
      request := ← Datum.defaulting std.request Datum.text? request
      stoppableEvent := ← Datum.defaulting std.stoppableEvent Datum.text? stoppableEvent }
  | _ => none

end CapabilityConfig

namespace ServiceDeclaration

/-- The declaration as a record. -/
def toDatum (s : ServiceDeclaration) : Datum :=
  .record <| [("id", .text s.id)] ++ Datum.optionalField "class" .text s.class? ++
    Datum.optionalField "factory" .text s.factory? ++
    Datum.optionalField "arguments" (fun bs => .list (Binding.paramsToDatum bs)) s.arguments? ++
    Datum.mapField "params" Binding.toDatum s.params ++
    Datum.listField "aliases" .text s.aliases ++
    Datum.optionalField "singleton" .bool s.singleton?

/-- The declaration that a record stands for. -/
def ofDatum? (style : Datum.Style) (d : Datum) : Option ServiceDeclaration := do
  match ← d.strictColumns? style ["id", "class", "factory", "arguments", "params", "aliases",
    "singleton"] with
  | [id, class?, factory?, arguments?, params, aliases, singleton?] =>
    let readArgument := Binding.named? style "binding" (Binding.ofDatumAs? style)
    return {
      id := ← Datum.required Datum.text? id
      class? := ← Datum.optional Datum.text? class?
      factory? := ← Datum.optional Datum.text? factory?
      arguments? :=
        ← Datum.optional (Datum.listOf readArgument) arguments?
      params := ← Datum.defaulting [] (Datum.mapOf (Binding.ofDatumAs? style)) params
      aliases := ← Datum.defaulting [] (Datum.listOf Datum.text?) aliases
      singleton? := ← Datum.optional Datum.bool? singleton? }
  | _ => none

end ServiceDeclaration

namespace RouteDeclaration

/-- The declaration as a record. -/
def toDatum (r : RouteDeclaration) : Datum :=
  .record <| [("method", ToDatum.toDatum r.verb), ("path", .text r.path),
    ("target", .text r.target)] ++
    Datum.mapField "requirements" .text r.requirements ++ Datum.optionalField "name" .text r.name?

/-- The declaration that a record stands for. -/
def ofDatum? (style : Datum.Style) (d : Datum) : Option RouteDeclaration := do
  match ← d.strictColumns? style ["method", "path", "target", "requirements", "name"] with
  | [verb, path, target, requirements, name?] =>
    return {
      verb := ← Datum.required (Verb.ofDatum? style) verb
      path := ← Datum.required Datum.text? path
      target := ← Datum.required Datum.text? target
      requirements := ← Datum.defaulting [] (Datum.mapOf Datum.text?) requirements
      name? := ← Datum.optional Datum.text? name? }
  | _ => none

end RouteDeclaration

namespace MiddlewareDeclaration

/-- The declaration as a record. -/
def toDatum (m : MiddlewareDeclaration) : Datum :=
  .record [("class", .text m.className), ("priority", .int m.priority.toInt)]

/-- The declaration that a record stands for. -/
def ofDatum? (style : Datum.Style) (d : Datum) : Option MiddlewareDeclaration := do
  match ← d.strictColumns? style ["class", "priority"] with
  | [className, priority] =>
    return {
      className := ← Datum.required Datum.text? className
      priority := ← Datum.defaulting 0 Annotation.priority? priority }
  | _ => none

end MiddlewareDeclaration

namespace ListenerDeclaration

/-- The declaration as a record. -/
def toDatum (l : ListenerDeclaration) : Datum :=
  .record [("event", .text l.event), ("target", .text l.target), ("static", .bool l.isStatic)]

/-- The declaration that a record stands for. -/
def ofDatum? (style : Datum.Style) (d : Datum) : Option ListenerDeclaration := do
  match ← d.strictColumns? style ["event", "target", "static"] with
  | [event, target, isStatic] =>
    return {
      event := ← Datum.required Datum.text? event
      target := ← Datum.required Datum.text? target
      isStatic := ← Datum.defaulting false Datum.bool? isStatic }
  | _ => none

end ListenerDeclaration

namespace Config

/-- The configuration as a record. -/
def toDatum (c : Config) : Datum :=
  .record [("project_root", .text c.projectRoot), ("output", c.output.toDatum),
    ("capabilities", c.capabilities.toDatum), ("default_singleton", .bool c.defaultSingleton),
    ("strict_routes", .bool c.strictRoutes), ("passes", .list (c.passes.map .text)),
    ("services", .list (c.services.map ServiceDeclaration.toDatum)),
    ("routes", .list (c.routes.map RouteDeclaration.toDatum)),
    ("middlewares", .list (c.middlewares.map MiddlewareDeclaration.toDatum)),
    ("listeners", .list (c.listeners.map ListenerDeclaration.toDatum))]

/-- The configuration that a record of a style stands for. -/
def ofDatumAs? (style : Datum.Style) (d : Datum) : Option Config := do
  let std : Config := {}
  match ← d.strictColumns? style ["project_root", "output", "capabilities", "default_singleton",
    "strict_routes", "passes", "services", "routes", "middlewares", "listeners"] with
  | [root, output, capabilities, defaultSingleton, strictRoutes, passes, services, routes,
      middlewares, listeners] =>
    return {
      projectRoot := ← Datum.defaulting std.projectRoot Datum.text? root
      output := ← Datum.defaulting std.output (OutputConfig.ofDatum? style) output
      capabilities :=
        ← Datum.defaulting std.capabilities (CapabilityConfig.ofDatum? style) capabilities
      defaultSingleton := ← Datum.defaulting std.defaultSingleton Datum.bool? defaultSingleton
      strictRoutes := ← Datum.defaulting std.strictRoutes Datum.bool? strictRoutes
      passes := ← Datum.defaulting [] (Datum.listOf Datum.text?) passes
      services := ← Datum.defaulting [] (Datum.listOf (ServiceDeclaration.ofDatum? style)) services
      routes := ← Datum.defaulting [] (Datum.listOf (RouteDeclaration.ofDatum? style)) routes
      middlewares :=
        ← Datum.defaulting [] (Datum.listOf (MiddlewareDeclaration.ofDatum? style)) middlewares
      listeners :=
        ← Datum.defaulting [] (Datum.listOf (ListenerDeclaration.ofDatum? style)) listeners }
  | _ => none

/-- The configuration that a record stands for. -/
def ofDatum? (d : Datum) : Option Config :=
  ofDatumAs? .json d

instance : ToDatum Config := ⟨toDatum⟩

instance : FromDatum Config := ⟨ofDatum?⟩

end Config

end Wiring
