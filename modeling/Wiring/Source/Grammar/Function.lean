import Wiring.Source.Grammar.Statement

/-!
# Reading functions

The parts of a function are given in their standard form and not written, since parameters may lose
attributes before the function is written.
-/

namespace Wiring.Source

/-- The head of a function in its standard form. -/
def Signature.trees (s : Signature) : List Tree :=
  s.headTrees
    ++ [.group .parenthesis (Reader.joined s.endsWithComma (s.params.map Param.allTrees))]
    ++ s.tailTrees

/-- A function in its standard form. -/
def Function.trees (f : Function) : List Tree :=
  f.outer.flatMap (·.trees) ++ f.frontTrees ++ f.signature.trees ++ f.bodyTrees

namespace Grammar

open Reader

/-- Reads how far a declaration can be seen, and says whether that is written. -/
def visibility : Reader Bool := do
  if ← acceptWord "pub" then
    match (← get).rest with
    | .group .parenthesis [.leaf (.word w)] :: _ =>
      if ["crate", "self", "super"].contains w then skip 1
    | .group .parenthesis (.leaf (.word "in") :: _) :: _ =>
      discard (group .parenthesis (do word "in"; modulePath))
    | _ => pure ()
    return true
  else return false

/-- The value that a method is called on comes next. -/
def receiverStart : Look := fun ts =>
  let past (l : Look) (ts : List Tree) := if l ts then ts.drop 1 else ts
  let ts := if Look.sign "&" ts then past .lifetime (ts.drop 1) else ts
  Look.both (.word "self") (.no (.after 1 (.sign "::"))) (past (.word "mut") ts)

/-- Reads the value that a method is called on. -/
def receiver (g : Grammar) : Reader Unit := do
  let isReference ← acceptSign "&"
  if isReference then discard (accept .lifetime 1)
  let _ ← acceptWord "mut"
  word "self"
  if !isReference then
    if ← acceptSign ":" then discard (g.type true)

/-- Reads what a parameter of a function is. A generic type alone stands for a parameter whose value
is not used. -/
def paramForm (g : Grammar) : Reader ParamForm := do
  if ← acceptSign "..." then return .variadic
  else if ← sees receiverStart then
    receiver g
    return .receiver
  else if ← sees (.both .name (.after 1 (.sign "<"))) then
    write [.leaf (.word "_"), signTree ':']
    return .typed none (← g.type true)
  else
    let pattern ← g.pattern
    sign ":"
    if ← acceptSign "..." then return .variadic
    else
      let type ← g.type true
      match pattern with
      | .name text => return .typed (some text) type
      | _ => return .typed none type

/-- Reads a parameter of a function. -/
def param (g : Grammar) : Reader Param := do
  let (attributes, _) ← captured (attributes g)
  let (form, trees) ← captured (paramForm g)
  return { attributes, form, trees }

/-- Reads the parameters of a function, and whether a comma follows the last of them. Only the first
may be what a method is called on, and only the last may stand for any number of arguments. -/
def params (g : Grammar) : Reader (List Param × Bool) := do
  go (← remaining) true
where
  /-- At most so many parameters. -/
  go : Nat → Bool → Reader (List Param × Bool)
    | 0, isFirst => return ([], !isFirst)
    | n + 1, isFirst => do
      if ← sees .nothing then return ([], !isFirst)
      else
        let p ← param g
        if p.isReceiver && !isFirst then malformed
        else if ← sees .nothing then return ([p], false)
        else
          sign ","
          if p.isVariadic then return ([p], true)
          else
            let (ps, endsWithComma) ← go n false
            return (p :: ps, endsWithComma)

/-- Reads the qualifiers of a function. One that is no keyword may stand for being safe where that
is allowed, and is said to be there. -/
def qualifiers (allowsSafe : Bool) : Reader Bool := do
  let _ ← acceptWord "const"
  let _ ← acceptWord "async"
  let isSafe ← if allowsSafe then acceptWord "safe" else pure false
  if !isSafe then discard (acceptWord "unsafe")
  if ← acceptWord "extern" then discard (accept .text 1)
  return isSafe

/-- Reads the head of a function, and whether it is said to be safe. -/
def signature (g : Grammar) (allowsSafe : Bool) : Reader (Signature × Bool) := do
  let ((isSafe, name), headTrees) ← captured do
    let isSafe ← qualifiers allowsSafe
    word "fn"
    let name ← name
    let _ ← genericParams g
    return (isSafe, name)
  let ((params, endsWithComma), _) ← captured (group .parenthesis (params g))
  let (output?, tailTrees) ← captured do
    let output? ← output g true
    let _ ← conditions g
    return output?
  return ({ name, params, output?, headTrees, endsWithComma, tailTrees }, isSafe)

/-- Reads the body of a function after what stands in front of it. -/
def functionBody (g : Grammar) (outer : List Attribute) (frontTrees : List Tree)
    (signature : Signature) : Reader Function := do
  let (inner, bodyTrees) ← captured (openBlock g)
  return { outer, inner, frontTrees, signature, bodyTrees }

/-- Reads a function that stands alone. -/
def function (g : Grammar) : Reader Function := do
  let (attributes, _) ← captured (attributes g)
  let (_, frontTrees) ← captured visibility
  let (signature, _) ← signature g false
  functionBody g attributes frontTrees signature

end Grammar

end Wiring.Source
