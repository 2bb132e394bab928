import Wiring.Proofs.Source.Grammar.Expr

/-!
# Grammars within other grammars: declarations

A grammar for fewer levels of nesting is within one for more levels (`Grammar.upTo_within`): more
levels than are needed change nothing.
-/

namespace Wiring.Source

namespace Reader.Within

open Grammar

set_option synthInstance.maxSize 100000

variable {g g' : Grammar} [g.Within g']

/-! ## Functions -/

instance visibility : Within visibility visibility := by
  unfold Grammar.visibility
  refine seq inferInstance fun isVisible => ite ?_ inferInstance
  refine get (fun s => ?_) fun s t h => by simp only [h]
  split <;> infer_instance

instance receiver : Within (receiver g) (receiver g') := by
  unfold Grammar.receiver; infer_instance

instance paramForm : Within (paramForm g) (paramForm g') := by
  unfold Grammar.paramForm
  refine seq inferInstance fun isVariadic => ite inferInstance ?_
  refine seq inferInstance fun isReceiver => ite inferInstance ?_
  refine seq inferInstance fun isBareType => ite inferInstance ?_
  refine seq inferInstance fun pattern => seq inferInstance fun _ => ?_
  refine seq inferInstance fun isVariadic => ite inferInstance ?_
  refine seq inferInstance fun type => ?_
  split <;> infer_instance

instance param : Within (param g) (param g') := by
  unfold Grammar.param; infer_instance

instance paramsGo (n : Nat) (b : Bool) : Within (params.go g n b) (params.go g' n b) := by
  induction n generalizing b with
  | zero | succ n ih => unfold params.go; infer_instance

instance params : Within (params g) (params g') := by
  unfold Grammar.params; infer_instance

instance qualifiers (b : Bool) : Within (qualifiers b) (qualifiers b) := by
  unfold Grammar.qualifiers; infer_instance

instance signature (b : Bool) : Within (signature g b) (signature g' b) := by
  unfold Grammar.signature; infer_instance

instance functionBody (as : List Attribute) (ts : List Tree) (s : Signature) :
    Within (functionBody g as ts s) (functionBody g' as ts s) := by
  unfold Grammar.functionBody; infer_instance

/-! ## Items -/

instance expandedItem (b : Bool) : Within (expandedItem b) (expandedItem b) := by
  unfold Grammar.expandedItem; infer_instance

instance constantItem (b : Bool) : Within (constantItem g b) (constantItem g' b) := by
  unfold Grammar.constantItem; infer_instance

instance boundsUntil (stop : Look) : Within (boundsUntil g stop) (boundsUntil g' stop) := by
  unfold Grammar.boundsUntil; infer_instance

instance typeItem (b : Bool) (place : ConditionPlace) :
    Within (typeItem g b place) (typeItem g' b place) := by
  unfold Grammar.typeItem; infer_instance

instance implItem : Within (implItem g) (implItem g') := by
  unfold Grammar.implItem; infer_instance

instance traitItem : Within (traitItem g) (traitItem g') := by
  unfold Grammar.traitItem; infer_instance

instance namedField {r r' : Reader Unit} [Within r r'] :
    Within (namedField g r) (namedField g' r') := by
  unfold Grammar.namedField; infer_instance

instance namedFields (n : Nat) : Within (namedFields g n) (namedFields g' n) := by
  induction n with
  | zero | succ n ih => unfold Grammar.namedFields; infer_instance

instance bracedFields : Within (bracedFields g) (bracedFields g') := by
  unfold Grammar.bracedFields
  exact get (fun s => inferInstance) fun s t h => by simp only [h]

instance placedFields : Within (placedFields g) (placedFields g') := by
  unfold Grammar.placedFields; infer_instance

instance structRest : Within (structRest g) (structRest g') := by
  unfold Grammar.structRest; infer_instance

instance variant : Within (variant g) (variant g') := by
  unfold Grammar.variant; infer_instance

instance importTree (n : Nat) (b : Bool) : Within (importTree n b) (importTree n b) := by
  induction n generalizing b with
  | zero | succ n ih => unfold Grammar.importTree; infer_instance

instance importItem : Within importItem importItem := by
  unfold Grammar.importItem
  refine seq inferInstance fun _ => seq inferInstance fun isRooted => ?_
  exact get (fun s => inferInstance) fun s t h => by simp only [h]

instance traitRest : Within (traitRest g) (traitRest g') := by
  unfold Grammar.traitRest; infer_instance

instance traitDeclaration : Within (traitDeclaration g) (traitDeclaration g') := by
  unfold Grammar.traitDeclaration; infer_instance

instance implDeclaration (b : Bool) : Within (implDeclaration g b) (implDeclaration g' b) := by
  unfold Grammar.implDeclaration
  dsimp only
  -- what is read by cases at the end of each way is the same for both
  repeat' first
    | infer_instance
    | refine seq inferInstance fun _ => ?_
    | refine ite ?_ ?_
    | split

instance foreignItem : Within (foreignItem g) (foreignItem g') := by
  unfold Grammar.foreignItem; infer_instance

instance foreignItems : Within (foreignItems g) (foreignItems g') := by
  unfold Grammar.foreignItems; infer_instance

instance packageItem : Within packageItem packageItem := by
  unfold Grammar.packageItem; infer_instance

instance staticItem : Within (staticItem g) (staticItem g') := by
  unfold Grammar.staticItem; infer_instance

instance expansionRule : Within expansionRule expansionRule := by
  unfold Grammar.expansionRule; infer_instance

instance moduleItem : Within (moduleItem g) (moduleItem g') := by
  unfold Grammar.moduleItem; infer_instance

instance itemRest (as : List Attribute) (b : Bool) :
    Within (itemRest g as b) (itemRest g' as b) := by
  unfold Grammar.itemRest
  dsimp only
  -- one kind of declaration after the other
  repeat' first
    | infer_instance
    | refine seq inferInstance fun _ => ite ?_ ?_

instance itemStep : Within (itemStep g) (itemStep g') := by
  unfold Grammar.itemStep; infer_instance

end Reader.Within

namespace Grammar

/-- The grammar that reads nothing is within every other one. -/
theorem Within.empty (g : Grammar) : Grammar.empty.Within g where
  type _ := inferInstanceAs (Reader.Within Reader.malformed _)
  bound _ := inferInstanceAs (Reader.Within Reader.malformed _)
  pattern := inferInstanceAs (Reader.Within Reader.malformed _)
  operand _ := inferInstanceAs (Reader.Within Reader.malformed _)
  expr _ := inferInstanceAs (Reader.Within Reader.malformed _)
  body := inferInstanceAs (Reader.Within Reader.malformed _)
  statements := inferInstanceAs (Reader.Within Reader.malformed _)
  item := inferInstanceAs (Reader.Within Reader.malformed _)

/-- One more level of a grammar is within that of a larger one. -/
theorem Within.step {g g' : Grammar} (h : g.Within g') : g.step.Within g'.step where
  type b := inferInstanceAs (Reader.Within (typeStep g b) (typeStep g' b))
  bound rules := inferInstanceAs (Reader.Within (boundStep g rules) (boundStep g' rules))
  pattern := inferInstanceAs (Reader.Within (patternStep g) (patternStep g'))
  operand b := inferInstanceAs (Reader.Within (operandStep g b) (operandStep g' b))
  expr b := inferInstanceAs (Reader.Within (exprStep g b) (exprStep g' b))
  body := inferInstanceAs (Reader.Within (bodyStep g) (bodyStep g'))
  statements := inferInstanceAs (Reader.Within (statementsStep g) (statementsStep g'))
  item := inferInstanceAs (Reader.Within (itemStep g) (itemStep g'))

/-- More levels of nesting than are needed change nothing. -/
theorem upTo_within {m n : Nat} (h : m ≤ n) : (upTo m).Within (upTo n) := by
  induction m generalizing n with
  | zero => exact .empty (upTo n)
  | succ m ih =>
    obtain ⟨n, rfl⟩ := Nat.exists_eq_add_of_lt h
    exact .step (ih (by omega))

end Grammar

end Wiring.Source
