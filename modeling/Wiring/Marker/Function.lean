import Wiring.Discovery.Attribute
import Wiring.Source.Read

/-!
# Functions that carry a mark

A marked function is given back in its standard form, without the hints on its parameters, which
say something to wiring alone. Each hint is checked before it is taken away.
-/

namespace Wiring.Marker

open Source Source.Reader

/-- The names of hints. -/
def hintNames : List String :=
  ["default", "env", "inject"]

/-- Whether an attribute is a hint. -/
def isHint (a : Attribute) : Bool :=
  hintNames.any a.path.isWord

/-- Checks an attribute of a parameter if it is a hint. -/
def checkHint (a : Attribute) : Except Flaw Unit := do
  if a.path.isWord "default" then discard (a.read (·.expr true))
  else if a.path.isWord "env" then
    let key ← a.read fun _ => text
    if key.isEmpty then throw (.complaint "environment key is empty")
  else if a.path.isWord "inject" then discard (a.read Discovery.serviceName)

/-- A parameter without its hints. -/
def withoutHints (p : Param) : Except Flaw Param := do
  if p.isTyped then
    p.attributes.forM checkHint
    return { p with attributes := p.attributes.filter fun a => !isHint a }
  else return p

/-- The function that some trees spell. -/
def readFunction (item : List Tree) : Except Flaw Source.Function :=
  readTrees Grammar.function item

/-- A function in its standard form, without the hints on its parameters. -/
def functionItem (item : List Tree) : Except Flaw (List Tree) := do
  let f ← readFunction item
  let params ← f.signature.params.mapM withoutHints
  return { f with signature := { f.signature with params } }.trees

end Wiring.Marker
