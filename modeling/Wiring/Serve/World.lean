import Wiring.Config.Environment
import Wiring.Serve.Args

/-!
# The state of a project that is served

Serving reads the environment's variables, remembers singletons and counts the objects constructed.
The application keeps a state of its own, of any type, which only its own functions see. An error
ends what is being done and keeps the state as it was left.
-/

namespace Wiring

/-- The state of a project that is served, with the application's own state. -/
structure World (τ : Type) where
  env : Variables := {}
  /-- The singletons built so far, by identifier. -/
  singletons : List (String × Instance) := []
  /-- The number of objects constructed so far. -/
  built : Nat := 0
  own : τ

/-- What a function of the application does: it may fail, and it changes its own state. -/
abbrev Acting (τ α : Type) := ExceptT ServeError (StateM τ) α

/-- What the library does on behalf of a request. -/
abbrev Serving (τ α : Type) := ExceptT ServeError (StateM (World τ)) α

namespace Serving

/-- Runs a function of the application. -/
def act {τ α : Type} (f : Acting τ α) : Serving τ α :=
  fun w =>
    let (result, own) := f w.own
    (result, { w with own })

/-- The value of a variable. -/
def envValue? {τ : Type} (key : String) : Serving τ (Option String) :=
  fun w => (.ok (w.env.get? key), w)

/-- The singleton of an identifier, if it was built. -/
def singleton? {τ : Type} (id : String) : Serving τ (Option Instance) :=
  fun w => (.ok (w.singletons.lookup id), w)

/-- Remembers a singleton. The first one that is remembered stays. -/
def remember {τ : Type} (id : String) (i : Instance) : Serving τ Instance :=
  fun w =>
    match w.singletons.lookup id with
    | some first => (.ok first, w)
    | none => (.ok i, { w with singletons := w.singletons ++ [(id, i)] })

end Serving

end Wiring
