import Wiring.Proofs.Source.Within
import Wiring.Source.Read

/-!
# Grammars within other grammars: names and types

A grammar is within another one if each of its readers is within that of the other. The readers for
paths, attributes, generic parameters and types then are so too: each is put together from others.
-/

namespace Wiring.Source

/-- A grammar is within another one that reads whatever it reads, with the same outcome. -/
class Grammar.Within (g g' : Grammar) : Prop where
  type (b : Bool) : Reader.Within (g.type b) (g'.type b)
  bound (rules : BoundRules) : Reader.Within (g.bound rules) (g'.bound rules)
  pattern : Reader.Within g.pattern g'.pattern
  operand (b : Bool) : Reader.Within (g.operand b) (g'.operand b)
  expr (b : Bool) : Reader.Within (g.expr b) (g'.expr b)
  body : Reader.Within g.body g'.body
  statements : Reader.Within g.statements g'.statements
  item : Reader.Within g.item g'.item

attribute [instance] Grammar.Within.type Grammar.Within.bound Grammar.Within.pattern
  Grammar.Within.operand Grammar.Within.expr Grammar.Within.body Grammar.Within.statements
  Grammar.Within.item

namespace Reader.Within

open Grammar

set_option synthInstance.maxSize 100000

instance anyLiteral : Within anyLiteral anyLiteral := by
  unfold Reader.anyLiteral; infer_instance

instance writePositions (ps : List Nat) : Within (writePositions ps) (writePositions ps) := by
  unfold Reader.writePositions; infer_instance

instance position : Within position position := by
  unfold Reader.position
  refine get (fun s => ?_) fun s t h => by simp only [h]
  split
  · split <;> infer_instance
  · infer_instance

instance member : Within member member := by
  unfold Reader.member; infer_instance

instance pathWord : Within modulePath.pathWord modulePath.pathWord := by
  unfold modulePath.pathWord; infer_instance

instance modulePath : Within modulePath modulePath := by
  unfold Grammar.modulePath; infer_instance

variable {g g' : Grammar} [g.Within g']

instance block : Within (block g) (block g') := by
  unfold Grammar.block; infer_instance

instance attributeValue : Within (attributeValue g) (attributeValue g') := by
  unfold Grammar.attributeValue; infer_instance

instance attributeContent : Within (attributeContent g) (attributeContent g') := by
  unfold Grammar.attributeContent; infer_instance

instance singleAttribute (n : Nat) : Within (singleAttribute g n) (singleAttribute g' n) := by
  unfold Grammar.singleAttribute; infer_instance

instance attributes : Within (attributes g) (attributes g') := by
  unfold Grammar.attributes; infer_instance

instance innerAttributes : Within (innerAttributes g) (innerAttributes g') := by
  unfold Grammar.innerAttributes; infer_instance

instance openBlock : Within (openBlock g) (openBlock g') := by
  unfold Grammar.openBlock; infer_instance

instance valueArgument : Within (valueArgument g) (valueArgument g') := by
  unfold Grammar.valueArgument; infer_instance

instance genericArgument : Within (genericArgument g) (genericArgument g') := by
  unfold Grammar.genericArgument
  refine seq inferInstance fun isLifetime => ite inferInstance ?_
  refine seq inferInstance fun isValue => ite inferInstance ?_
  refine seq inferInstance fun type => ?_
  split <;> infer_instance

instance genericArguments : Within (genericArguments g) (genericArguments g') := by
  unfold Grammar.genericArguments; infer_instance

instance segment (b : Bool) : Within (segment g b) (segment g' b) := by
  unfold Grammar.segment; infer_instance

instance plainPath (b : Bool) : Within (plainPath g b) (plainPath g' b) := by
  unfold Grammar.plainPath; infer_instance

instance qualifiedPath (b : Bool) : Within (qualifiedPath g b) (qualifiedPath g' b) := by
  unfold Grammar.qualifiedPath; infer_instance

instance output (b : Bool) : Within (output g b) (output g' b) := by
  unfold Grammar.output; infer_instance

instance functionForm (p : Path) : Within (functionForm g p) (functionForm g' p) := by
  unfold Grammar.functionForm; infer_instance

instance boundsAfterColon {α : Type} {r r' : Reader (List α)} [Within r r'] :
    Within (boundsAfterColon r) (boundsAfterColon r') := by
  unfold Grammar.boundsAfterColon; infer_instance

instance genericParam (b : Bool) : Within (genericParam g b) (genericParam g' b) := by
  unfold Grammar.genericParam; infer_instance

instance genericParams : Within (genericParams g) (genericParams g') := by
  unfold Grammar.genericParams; infer_instance

instance binder : Within (binder g) (binder g') := by
  unfold Grammar.binder; infer_instance

instance condition : Within (condition g) (condition g') := by
  unfold Grammar.condition; infer_instance

instance conditions : Within (conditions g) (conditions g') := by
  unfold Grammar.conditions; infer_instance

instance expansion (p : Path) : Within (expansion p) (expansion p) := by
  unfold Grammar.expansion; infer_instance

instance builtin : Within builtin builtin := by
  unfold Grammar.builtin; infer_instance

instance traitBound (rules : BoundRules) : Within (traitBound g rules) (traitBound g' rules) := by
  unfold Grammar.traitBound; infer_instance

instance boundStep (rules : BoundRules) : Within (boundStep g rules) (boundStep g' rules) := by
  unfold Grammar.boundStep; infer_instance

instance moreBounds (rules : BoundRules) : Within (moreBounds g rules) (moreBounds g' rules) := by
  unfold Grammar.moreBounds; infer_instance

instance bounds (b : Bool) (rules : BoundRules) :
    Within (bounds g b rules) (bounds g' b rules) := by
  unfold Grammar.bounds; infer_instance

instance traitObject (b : Bool) : Within (traitObject g b) (traitObject g' b) := by
  unfold Grammar.traitObject; infer_instance

instance enclosed : Within (enclosed g) (enclosed g') := by
  unfold Grammar.enclosed; infer_instance

instance parenthesizedType (b : Bool) :
    Within (parenthesizedType g b) (parenthesizedType g' b) := by
  unfold Grammar.parenthesizedType
  refine seq inferInstance fun content => ?_
  cases content with
  | closed t | bound b => infer_instance
  | type t =>
    dsimp only
    split <;> infer_instance

instance pathType (b c : Bool) : Within (pathType g b c) (pathType g' b c) := by
  unfold Grammar.pathType; infer_instance

instance functionTypeParam (b : Bool) :
    Within (functionTypeParam g b) (functionTypeParam g' b) := by
  unfold Grammar.functionTypeParam; infer_instance

instance functionTypeParamsGo (n : Nat) (b : Bool) :
    Within (functionTypeParams.go g n b) (functionTypeParams.go g' n b) := by
  induction n generalizing b with
  | zero | succ n ih => unfold functionTypeParams.go; infer_instance

instance functionTypeParams : Within (functionTypeParams g) (functionTypeParams g') := by
  unfold Grammar.functionTypeParams; infer_instance

instance functionType : Within (functionType g) (functionType g') := by
  unfold Grammar.functionType; infer_instance

instance bracketedType : Within (bracketedType g) (bracketedType g') := by
  unfold Grammar.bracketedType; infer_instance

instance dynamicType (b : Bool) : Within (dynamicType g b) (dynamicType g' b) := by
  unfold Grammar.dynamicType; infer_instance

instance typeStep (b : Bool) : Within (typeStep g b) (typeStep g' b) := by
  unfold Grammar.typeStep; infer_instance

end Reader.Within

end Wiring.Source
