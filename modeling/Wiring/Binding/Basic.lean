import Wiring.Descriptor.Literal

/-!
# Parameter bindings

A binding says how one constructor parameter gets its value. Most kinds of binding carry a fallback,
which makes a binding a chain of links that is tried from its head. A literal, a constant or a skip
always gives a value, so nothing can follow it.
-/

namespace Wiring

/-- The key of an entry of an array. -/
inductive ArrayKey where
  | index (n : Int64)
  | name (s : String)
  deriving DecidableEq, Repr, Inhabited

/-- How one parameter gets its value. -/
inductive Binding where
  | literal (value : Literal)
  | constant (reference : String)
  /-- An environment variable, read when the object is built. -/
  | env (key : String) (fallback : Option Binding)
  | service (id : String) (fallback : Option Binding)
  /-- The parameter is left out of the call. -/
  | skip
  | array (entries : List (Option ArrayKey × Binding)) (fallback : Option Binding)
  /-- A registered function that builds a closure, with the bindings of its own parameters. -/
  | closure (source : String) (params : List (String × Binding)) (fallback : Option Binding)
  deriving Inhabited, BEq, Repr

namespace Binding

/-- The link after the head. -/
def fallback? : Binding → Option Binding
  | literal _ | constant _ | skip => none
  | env _ f | service _ f | array _ f | closure _ _ f => f

/-- The word for the kind of the head. -/
def kind : Binding → String
  | literal _ => "literal"
  | constant _ => "named_constant"
  | env _ _ => "env_lookup"
  | service _ _ => "injected_service"
  | skip => "skip_if_absent"
  | array _ _ => "array_literal"
  | closure _ _ _ => "closure_literal"

/-- The chain with `next` after its last link. When the last link cannot carry a fallback it ends
the chain, and `next` is dropped. -/
def or : (b next : Binding) → Binding
  | literal v, _ => literal v
  | constant r, _ => constant r
  | skip, _ => skip
  | env k none, next => env k (some next)
  | env k (some f), next => env k (some (f.or next))
  | service id none, next => service id (some next)
  | service id (some f), next => service id (some (f.or next))
  | array es none, next => array es (some next)
  | array es (some f), next => array es (some (f.or next))
  | closure s ps none, next => closure s ps (some next)
  | closure s ps (some f), next => closure s ps (some (f.or next))

/-- The links from the head on, each as the chain that starts with it. -/
def chain : Binding → List Binding
  | literal v => [literal v]
  | constant r => [constant r]
  | skip => [skip]
  | env k none => [env k none]
  | env k (some f) => env k (some f) :: f.chain
  | service id none => [service id none]
  | service id (some f) => service id (some f) :: f.chain
  | array es none => [array es none]
  | array es (some f) => array es (some f) :: f.chain
  | closure s ps none => [closure s ps none]
  | closure s ps (some f) => closure s ps (some f) :: f.chain

/-- Whether a binding leaves its parameter out. -/
def isSkip : Binding → Bool
  | skip => true
  | _ => false

/-- Whether the chain ends by leaving the parameter out. -/
def isSkippable (b : Binding) : Bool :=
  (b.chain.getLast?.map isSkip).getD false

/-- What is wrong with where a binding leaves its parameter out. -/
inductive Misplaced where
  /-- A skip that is nobody's fallback. -/
  | alone
  /-- A skip as the fallback of something other than a service. -/
  | after (kind : String)
  deriving DecidableEq, Repr

namespace Misplaced

/-- The message for a misplaced skip. -/
def message : Misplaced → String
  | alone => "skip_if_absent is only allowed as the fallback of a service"
  | after kind => "skip_if_absent cannot be the fallback of " ++ kind

end Misplaced

mutual

/-- Checks the links of a chain, whose head may be anything: a skip may only be the fallback of a
service, and the bindings inside an array or closure are checked as chains of their own. -/
def checkLinks : Binding → Except Misplaced Unit
  | literal _ | constant _ | skip => .ok ()
  | env _ f => checkFallback "env_lookup" f
  | service _ f =>
    match f with
    | none | some skip => .ok ()
    | some b => b.checkLinks
  | array entries f => do
    checkFallback "array_literal" f
    checkEntries entries
  | closure _ params f => do
    checkFallback "closure_literal" f
    checkParams params

/-- Checks the fallback of a link of a kind that no skip may follow. -/
def checkFallback (kind : String) : Option Binding → Except Misplaced Unit
  | none => .ok ()
  | some skip => .error (.after kind)
  | some b => b.checkLinks

/-- Checks each entry of an array as a binding of its own. -/
def checkEntries : List (Option ArrayKey × Binding) → Except Misplaced Unit
  | [] => .ok ()
  | (_, skip) :: _ => .error .alone
  | (_, b) :: rest => do
    b.checkLinks
    checkEntries rest

/-- Checks each parameter of a closure as a binding of its own. -/
def checkParams : List (String × Binding) → Except Misplaced Unit
  | [] => .ok ()
  | (_, skip) :: _ => .error .alone
  | (_, b) :: rest => do
    b.checkLinks
    checkParams rest

end

/-- Checks where a binding leaves its parameter out: only as the fallback of a service. -/
def check : Binding → Except Misplaced Unit
  | skip => .error .alone
  | b => b.checkLinks

/-- The head of a chain as messages show it. -/
def headText : Binding → String
  | literal v => v.text
  | constant r => "const " ++ r
  | env k _ => "env(" ++ k ++ ")"
  | service id _ => "@" ++ id
  | skip => "skip"
  | array es _ => "array[" ++ toString es.length ++ "]"
  | closure s _ _ => "closure " ++ s

/-- The chain as messages show it. -/
def text (b : Binding) : String :=
  " ?? ".intercalate (b.chain.map headText)

end Binding

end Wiring
