import Wiring.Source.Grammar.Function

/-!
# Reading declarations

A file is a list of declarations, and so is the content of a module. Of a type only its attributes,
its name and whether it is generic are kept, of a trait what it extends, and of an implementation
its functions. A declaration that has no standard form of its own is written as it stands.
-/

namespace Wiring.Source.Grammar

open Reader

/-- Where a call that is expanded to declarations may start. -/
def expandedStart : Look :=
  .any [.name, .words ["self", "super", "crate"], .sign "::"]

/-- Reads a call that is expanded to declarations; a name may stand in front of its arguments if
that is allowed. -/
def expandedItem (allowsName : Bool) : Reader Unit := do
  let _ ← modulePath
  sign "!"
  if allowsName then discard (accept (.any [.name, .word "try"]) 1)
  let (d, _) ← anyGroup
  if d != .brace then sign ";"

/-- Reads a constant, and says whether it has the usual form: a value, and no parameters or
conditions. In a trait the value may be left out. -/
def constantItem (g : Grammar) (needsValue : Bool) : Reader Bool := do
  word "const"
  let _ ← nameOrBlank
  let isGeneric ← sees (.sign "<")
  let _ ← genericParams g
  sign ":"
  let _ ← g.type true
  let hasValue ← acceptSign "="
  if hasValue then discard (g.expr true)
  let isConditional ← conditions g
  sign ";"
  return (hasValue || !needsValue) && !isGeneric && !isConditional

/-- Reads bounds, with a plus sign between each two, up to where a look holds. -/
def boundsUntil (g : Grammar) (stop : Look) : Reader (List Bound) :=
  separatedUntil stop "+" (g.bound .conditional)

/-- Where the conditions of the declaration of a type may stand. -/
inductive ConditionPlace where
  | beforeType
  | afterType
  | anywhere
  deriving DecidableEq

/-- What the declaration of a type consists of. -/
structure TypeParts where
  isVisible : Bool
  hasBounds : Bool
  hasType : Bool

/-- Reads a type that is declared by another, or is to be declared. -/
def typeItem (g : Grammar) (allowsDefault : Bool) (place : ConditionPlace) : Reader TypeParts := do
  let isVisible ← visibility
  if allowsDefault then discard (acceptWord "default")
  word "type"
  let _ ← name
  let _ ← genericParams g
  let hasBounds ← sees (.sign ":")
  let _ ← boundsAfterColon (boundsUntil g (.any [.word "where", .sign "=", .sign ";"]))
  let isConditional ← if place = .afterType then pure false else conditions g
  let hasType ← acceptSign "="
  if hasType then discard (g.type true)
  if place ≠ .beforeType && !isConditional then discard (conditions g)
  sign ";"
  return { isVisible, hasBounds, hasType }

/-- The word that makes a declaration a default. -/
def defaultWord : Look := .both (.word "default") (.no (.after 1 (.sign "!")))

/-- Reads a declaration in an implementation, and gives it if it is a function with a body. -/
def implItem (g : Grammar) : Reader (Option Function) :=
  verbatimIf do
    let (outer, attributeTrees) ← captured (attributes g)
    let (isVisible, visibilityTrees) ← captured visibility
    let (isDefault, defaultTrees) ← captured (accept defaultWord 1)
    let front := visibilityTrees ++ defaultTrees
    if ← sees functionStart then
      let (signature, _) ← signature g false
      if ← acceptSign ";" then return (none, true)
      else
        let f ← functionBody g outer front signature
        write f.trees
        return (some f, false)
    else
      write (attributeTrees ++ front)
      if ← sees (.word "const") then
        let isUsual ← constantItem g true
        return (none, !isUsual)
      else if ← sees (.word "type") then
        let parts ← typeItem g true .afterType
        return (none, parts.hasBounds || !parts.hasType)
      else if !isVisible && !isDefault && (← sees expandedStart) then
        expandedItem false
        return (none, false)
      else malformed

/-- Reads a declaration in a trait. -/
def traitItem (g : Grammar) : Reader Unit :=
  verbatimIf do
    let _ ← attributes g
    let isVisible ← visibility
    let isDefault ← acceptWord "default"
    let isVerbatim := isVisible || isDefault
    if ← sees functionStart then
      let (signature, _) ← signature g false
      write signature.trees
      if !(← acceptSign ";") then discard (openBlock g)
      return ((), isVerbatim)
    else if ← sees (.word "const") then
      let isUsual ← constantItem g false
      return ((), isVerbatim || !isUsual)
    else if ← sees (.any [.word "type"]) then
      let parts ← typeItem g false .afterType
      return ((), isVerbatim || parts.isVisible)
    else if !isVerbatim && (← sees expandedStart) then
      expandedItem false
      return ((), false)
    else malformed

/-- Reads a field with a name. A blank may stand for the fields of a type without a name. -/
def namedField (g : Grammar) (fields : Reader Unit) : Reader Unit := do
  let _ ← attributes g
  let _ ← visibility
  if ← acceptWord "_" then
    sign ":"
    if ← sees (.any [.word "struct", .both (.word "union") (.after 1 (.group .brace))]) then
      verbatim do
        skip 1
        fields
    else discard (g.type true)
  else
    let _ ← name
    sign ":"
    discard (g.type true)

/-- Reads fields between braces, with at most so many types without a name around each other. -/
def namedFields (g : Grammar) : Nat → Reader Unit
  | 0 => malformed
  | n + 1 => discard (group .brace (commaSeparated (namedField g (namedFields g n))))

/-- Reads fields between braces. -/
def bracedFields (g : Grammar) : Reader Unit := do
  namedFields g (Tree.sizeOfAll (← get).rest)

/-- Reads fields between parentheses. -/
def placedFields (g : Grammar) : Reader Unit :=
  discard <| group .parenthesis <| commaSeparated do
    let _ ← attributes g
    let _ ← visibility
    g.type true

/-- Reads what follows the name of a type with fields and its parameters. -/
def structRest (g : Grammar) : Reader Unit := do
  let isConditional ← conditions g
  if !isConditional && (← sees (.group .parenthesis)) then
    placedFields g
    let _ ← conditions g
    sign ";"
  else if ← sees (.group .brace) then bracedFields g
  else sign ";"

/-- Reads an alternative of a type. How far it can be seen is not written. -/
def variant (g : Grammar) : Reader Unit := do
  let _ ← attributes g
  let _ ← silently visibility
  let _ ← name
  if ← sees (.group .brace) then bracedFields g
  else if ← sees (.group .parenthesis) then placedFields g
  if ← acceptSign "=" then discard (g.expr true)

/-- Reads what is imported. -/
def importTree : Nat → Bool → Reader Unit
  | 0, _ => malformed
  | n + 1, allowsRoot => do
    if ← sees (.any [.name, .words ["self", "super", "crate", "try"]]) then
      skip 1
      if ← acceptSign "::" then importTree n false
      else if ← acceptWord "as" then discard nameOrBlank
    else if ← acceptSign "*" then pure ()
    else
      discard <| group .brace <| commaSeparated do
        let isRooted ← if allowsRoot then acceptSign "::" else pure false
        importTree n (allowsRoot && !isRooted)

/-- Reads an import. -/
def importItem : Reader Unit := do
  word "use"
  let isRooted ← acceptSign "::"
  importTree (Tree.sizeOfAll (← get).rest + 1) (!isRooted)
  sign ";"

/-- Reads the rest of a trait after its name and parameters. -/
def traitRest (g : Grammar) : Reader (List Bound) := do
  let supertraits ← boundsAfterColon (boundsUntil g (.any [.word "where", .group .brace]))
  let _ ← conditions g
  discard <| group .brace do
    let _ ← innerAttributes g
    manyWhile (.no .nothing) (traitItem g)
  return supertraits

/-- Reads a trait, or another name for traits. -/
def traitDeclaration (g : Grammar) : Reader Item := do
  let isUnsafe ← acceptWord "unsafe"
  let isAuto ← acceptWord "auto"
  word "trait"
  let name ← name
  let _ ← genericParams g
  if !isUnsafe && !isAuto && (← acceptSign "=") then
    let _ ← boundsUntil g (.any [.word "where", .sign ";"])
    let _ ← conditions g
    sign ";"
    return .other
  else return .trait name (← traitRest g)

/-- Reads an implementation, and says whether it is written as it stands. That is so for one that
says how far it can be seen, is for constants, or whose trait is none; it is not looked at
further. -/
def implDeclaration (g : Grammar) (isVisible : Bool) : Reader (Item × Bool) := do
  let _ ← acceptWord "default"
  let _ ← acceptWord "unsafe"
  word "impl"
  if ← sees .generics then discard (genericParams g)
  let isConst ← sees (.any [.word "const", .both (.sign "?") (.after 1 (.word "const"))])
  if isConst then
    let _ ← acceptSign "?"
    skip 1
  let isNegative ← accept (.both (.sign "!") (.no (.after 1 (.group .brace)))) 1
  let first ← g.type true
  let isFor ← acceptWord "for"
  if isNegative && !isFor then malformed
  let owner ← if isFor then g.type true else pure first
  let _ ← conditions g
  let functions ← group .brace do
    let _ ← innerAttributes g
    manyWhile (.no .nothing) (implItem g)
  let functions := functions.filterMap id
  let isLeftOut := isVisible || isConst
  match isLeftOut, isFor, first with
  | false, true, .path root names _ =>
    return if root = .qualified then (.other, true)
      else (.impl owner (some names) functions, false)
  | false, false, _ => return (.impl owner none functions, false)
  | _, _, _ => return (.other, true)

/-- A variable that is defined elsewhere comes next. -/
def foreignStatic : Look :=
  .any [.word "static", .both (.words ["unsafe", "safe"]) (.after 1 (.word "static"))]

/-- A function that is defined elsewhere comes next. -/
def foreignFunction : Look := fun ts =>
  let past (w : String) (ts : List Tree) := if Look.word w ts then ts.drop 1 else ts
  functionStart ts || functionStart (past "safe" (past "async" (past "const" ts)))

/-- Reads a declaration of what is defined elsewhere. -/
def foreignItem (g : Grammar) : Reader Unit :=
  verbatimIf do
    let _ ← attributes g
    let isVisible ← visibility
    if ← sees foreignFunction then
      let (signature, isSafe) ← signature g true
      write signature.trees
      let hasBody ← sees (.group .brace)
      if hasBody then discard (openBlock g) else sign ";"
      return ((), isSafe || hasBody)
    else if ← sees foreignStatic then
      let isMarked ← accept (.words ["unsafe", "safe"]) 1
      word "static"
      let _ ← acceptWord "mut"
      let _ ← name
      sign ":"
      let _ ← g.type true
      let hasValue ← acceptSign "="
      if hasValue then discard (g.expr true)
      sign ";"
      return ((), isMarked || hasValue)
    else if ← sees (.word "type") then
      let parts ← typeItem g false .anywhere
      return ((), parts.hasBounds || parts.hasType)
    else if !isVisible && (← sees expandedStart) then
      expandedItem false
      return ((), false)
    else malformed

/-- Reads the declarations of what is defined elsewhere. -/
def foreignItems (g : Grammar) : Reader Unit := do
  let _ ← acceptWord "unsafe"
  word "extern"
  let _ ← accept .text 1
  discard <| group .brace do
    let _ ← innerAttributes g
    manyWhile (.no .nothing) (foreignItem g)

/-- Reads a package that is made known. -/
def packageItem : Reader Unit := do
  word "extern"
  word "crate"
  expect (.any [.name, .word "self"]) 1
  if ← acceptWord "as" then discard nameOrBlank
  sign ";"

/-- Reads a variable of the program, and says whether it has a type and a value. -/
def staticItem (g : Grammar) : Reader Bool := do
  word "static"
  let _ ← acceptWord "mut"
  let _ ← name
  let hasType ← acceptSign ":"
  if hasType then discard (g.type true)
  let hasValue ← if hasType && (← sees (.sign ";")) then pure false else do sign "="; pure true
  if hasValue then discard (g.expr true)
  sign ";"
  return hasType && hasValue

/-- Reads a rule for calls that are expanded. -/
def expansionRule : Reader Unit := do
  word "macro"
  let _ ← name
  let _ ← accept (.group .parenthesis) 1
  expect (.group .brace) 1

/-- Reads a module; the content of one that is declared only is elsewhere. -/
def moduleItem (g : Grammar) : Reader Item := do
  let _ ← acceptWord "unsafe"
  word "mod"
  expect (.any [.name, .word "try"]) 1
  if ← acceptSign ";" then return .module []
  else
    return .module (← group .brace do
      let _ ← innerAttributes g
      manyWhile (.no .nothing) g.item)

/-- Reads what follows the attributes of a declaration and how far it can be seen, and says whether
it is written as it stands. -/
def itemRest (g : Grammar) (outer : List Attribute) (isVisible : Bool) : Reader (Item × Bool) := do
  let usual (item : Item) : Item × Bool := (item, false)
  let isTrait : Look := .any [.word "trait", .both (.word "auto") (.after 1 (.word "trait"))]
  if ← sees functionStart then
    let (signature, _) ← signature g false
    if ← acceptSign ";" then return (.other, true)
    else
      write (← functionBody g [] [] signature).trees
      return usual .other
  else if ← sees (.word "extern") then
    if ← sees (.after 1 (.word "crate")) then packageItem
    else if isVisible then malformed
    else foreignItems g
    return usual .other
  else if ← sees (.word "use") then
    importItem
    return usual .other
  else if ← sees (.word "static") then
    let isUsual ← staticItem g
    return (.other, !isUsual)
  else if ← sees (.word "const") then
    let isUsual ← constantItem g true
    return (.other, !isUsual)
  else if ← sees (.word "unsafe") then
    if ← sees (.after 1 isTrait) then return usual (← traitDeclaration g)
    else if ← sees (.after 1 (.word "impl")) then implDeclaration g isVisible
    else if ← sees (.after 1 (.word "mod")) then return usual (← moduleItem g)
    else if isVisible then malformed
    else
      foreignItems g
      return usual .other
  else if ← sees (.word "mod") then return usual (← moduleItem g)
  else if ← sees (.word "type") then
    let parts ← typeItem g false .beforeType
    return (.other, parts.hasBounds || !parts.hasType)
  else if ← sees (.word "struct") then
    skip 1
    let name ← name
    let n ← genericParams g
    structRest g
    return usual (.struct outer name (n != 0))
  else if ← sees (.word "enum") then
    skip 1
    let _ ← name
    let _ ← genericParams g
    let _ ← conditions g
    let _ ← group .brace (commaSeparated (variant g))
    return usual .enum
  else if ← sees (.both (.word "union") (.after 1 .name)) then
    skip 2
    let _ ← genericParams g
    let _ ← conditions g
    bracedFields g
    return usual .other
  else if ← sees isTrait then return usual (← traitDeclaration g)
  else if ← sees (.any [.word "impl", defaultWord]) then implDeclaration g isVisible
  else if ← sees (.word "macro") then
    expansionRule
    return (.other, true)
  else if !isVisible && (← sees expandedStart) then
    expandedItem true
    return usual .other
  else malformed

/-- Reads a declaration with the grammar for what is inside it. -/
def itemStep (g : Grammar) : Reader Item :=
  verbatimIf do
    let outer ← attributes g
    let isVisible ← visibility
    itemRest g outer isVisible

/-- Reads the declarations of a file. -/
def file (g : Grammar) : Reader (List Item) := do
  let _ ← innerAttributes g
  manyWhile (.no .nothing) g.item

end Wiring.Source.Grammar
