import Wiring.Proofs.Source.Grammar.Type

/-!
# Grammars within other grammars: patterns and expressions
-/

namespace Wiring.Source.Reader.Within

open Grammar

set_option synthInstance.maxSize 100000

variable {g g' : Grammar} [g.Within g']

/-! ## Patterns -/

instance alternatives : Within (alternatives g) (alternatives g') := by
  unfold Grammar.alternatives; infer_instance

instance rangeEnd : Within (rangeEnd g) (rangeEnd g') := by
  unfold Grammar.rangeEnd; infer_instance

instance rangeSign (b : Bool) : Within (rangeSign b) (rangeSign b) := by
  unfold Grammar.rangeSign; infer_instance

instance rangeRest : Within (rangeRest g) (rangeRest g') := by
  unfold Grammar.rangeRest; infer_instance

instance fieldPattern : Within (fieldPattern g) (fieldPattern g') := by
  unfold Grammar.fieldPattern; infer_instance

instance fieldPatternsGo (n : Nat) : Within (fieldPatterns.go g n) (fieldPatterns.go g' n) := by
  induction n with
  | zero | succ n ih => unfold fieldPatterns.go; infer_instance

instance fieldPatterns : Within (fieldPatterns g) (fieldPatterns g') := by
  unfold Grammar.fieldPatterns; infer_instance

instance pathPattern : Within (pathPattern g) (pathPattern g') := by
  unfold Grammar.pathPattern; infer_instance

instance namePattern : Within (namePattern g) (namePattern g') := by
  unfold Grammar.namePattern; infer_instance

instance elementPattern : Within (elementPattern g) (elementPattern g') := by
  unfold Grammar.elementPattern; infer_instance

instance patternStep : Within (patternStep g) (patternStep g') := by
  unfold Grammar.patternStep; infer_instance

/-! ## Operands -/

instance arguments : Within (arguments g) (arguments g') := by
  unfold Grammar.arguments; infer_instance

instance namedMember (e : Expr) : Within (namedMember g e) (namedMember g' e) := by
  unfold Grammar.namedMember; infer_instance

instance memberOf (e : Expr) : Within (memberOf g e) (memberOf g' e) := by
  unfold Grammar.memberOf
  refine get (fun s => ?_) fun s t h => by simp only [h]
  split
  · split <;> infer_instance
  · infer_instance

instance trailers (n : Nat) (e : Expr) : Within (trailers g n e) (trailers g' n e) := by
  induction n generalizing e with
  | zero | succ n ih => unfold Grammar.trailers; infer_instance

instance recordField : Within (recordField g) (recordField g') := by
  unfold Grammar.recordField; infer_instance

instance recordFieldsGo (n : Nat) : Within (recordFields.go g n) (recordFields.go g' n) := by
  induction n with
  | zero | succ n ih => unfold recordFields.go; infer_instance

instance recordFields : Within (recordFields g) (recordFields g') := by
  unfold Grammar.recordFields; infer_instance

instance pathOperand (b : Bool) : Within (pathOperand g b) (pathOperand g' b) := by
  unfold Grammar.pathOperand
  refine seq inferInstance fun path => seq inferInstance fun isBraced? => ?_
  cases isBraced? <;> infer_instance

instance parenthesizedOperand : Within (parenthesizedOperand g) (parenthesizedOperand g') := by
  unfold Grammar.parenthesizedOperand; infer_instance

instance bracketedOperand : Within (bracketedOperand g) (bracketedOperand g') := by
  unfold Grammar.bracketedOperand; infer_instance

instance closureParam : Within (closureParam g) (closureParam g') := by
  unfold Grammar.closureParam; infer_instance

instance closure (b : Bool) : Within (closure g b) (closure g' b) := by
  unfold Grammar.closure; infer_instance

instance bodyAttributes : Within (bodyAttributes g) (bodyAttributes g') := by
  unfold Grammar.bodyAttributes; infer_instance

instance breakValue (b : Bool) : Within (breakValue g b) (breakValue g' b) := by
  unfold Grammar.breakValue; infer_instance

instance ifChain (n : Nat) : Within (ifChain g n) (ifChain g' n) := by
  induction n with
  | zero | succ n ih => unfold Grammar.ifChain; infer_instance

instance arm : Within (arm g) (arm g') := by
  unfold Grammar.arm; infer_instance

instance blockForm : Within (blockForm g) (blockForm g') := by
  unfold Grammar.blockForm; infer_instance

/-! ## Expressions -/

/-- The readers of a chain need each other, with a step less each. -/
theorem chains (b : Bool) (n : Nat) :
    (∀ base e, Within (chain g b n base e) (chain g' b n base e)) ∧
    (∀ p, Within (rightSide g b n p) (rightSide g' b n p)) ∧
    (∀ p e, Within (tighten g b n p e) (tighten g' b n p e)) ∧
    Within (rangeTail g b n) (rangeTail g' b n) := by
  induction n with
  | zero =>
    refine ⟨fun base e => ?_, fun p => ?_, fun p e => ?_, ?_⟩
    · unfold chain; infer_instance
    · unfold rightSide; infer_instance
    · unfold tighten; infer_instance
    · unfold rangeTail; infer_instance
  | succ n ih =>
    obtain ⟨hchain, hright, htighten, hrange⟩ := ih
    refine ⟨fun base e => ?_, fun p => ?_, fun p e => ?_, ?_⟩
    · unfold chain
      refine get (fun s => ite inferInstance ?_) fun s t h => by simp only [h]
      split <;> infer_instance
    · unfold rightSide; infer_instance
    · unfold tighten
      exact get (fun s => inferInstance) fun s t h => by simp only [h]
    · unfold rangeTail; infer_instance

instance chain (b : Bool) (n : Nat) (p : Precedence) (e : Expr) :
    Within (chain g b n p e) (chain g' b n p e) :=
  (chains b n).1 p e

instance rangeTail (b : Bool) (n : Nat) : Within (rangeTail g b n) (rangeTail g' b n) :=
  (chains b n).2.2.2

instance chainSteps : Within chainSteps chainSteps := by
  unfold Grammar.chainSteps; infer_instance

instance wholeChain (b : Bool) (p : Precedence) (e : Expr) :
    Within (wholeChain g b p e) (wholeChain g' b p e) := by
  unfold Grammar.wholeChain; infer_instance

instance letForm (b : Bool) : Within (letForm g b) (letForm g' b) := by
  unfold Grammar.letForm; infer_instance

instance keywordOperand (b : Bool) : Within (keywordOperand g b) (keywordOperand g' b) := by
  unfold Grammar.keywordOperand
  refine seq inferInstance fun word => ?_
  split <;> infer_instance

instance atom (b : Bool) : Within (atom g b) (atom g' b) := by
  unfold Grammar.atom
  refine get (fun s => ?_) fun s t h => by simp only [h]
  split <;> infer_instance

instance trailedAtom (b c : Bool) : Within (trailedAtom g b c) (trailedAtom g' b c) := by
  unfold Grammar.trailedAtom; infer_instance

instance operandStep (b : Bool) : Within (operandStep g b) (operandStep g' b) := by
  unfold Grammar.operandStep; infer_instance

instance exprStep (b : Bool) : Within (exprStep g b) (exprStep g' b) := by
  unfold Grammar.exprStep; infer_instance

instance bodyStep : Within (bodyStep g) (bodyStep g') := by
  unfold Grammar.bodyStep; infer_instance

/-! ## Statements -/

instance letStatement : Within (letStatement g) (letStatement g') := by
  unfold Grammar.letStatement; infer_instance

instance callStatement? : Within callStatement? callStatement? := by
  unfold Grammar.callStatement?
  exact orAhead (fun a s => by dsimp only; infer_instance) (fun a s t h => by simp only [h])
    (by dsimp only; infer_instance)

instance statement : Within (statement g) (statement g') := by
  unfold Grammar.statement
  refine whereAhead inferInstance (fun a s => ?_) (fun a s t h => ?_) rfl
  · dsimp only
    split <;> infer_instance
  · dsimp only
    rw [h]
    rcases run_cases callStatement? h with ⟨kind?, s', t', hs, ht⟩ | ⟨e, e', hs, ht⟩ <;> rw [hs, ht]

instance statementsUpTo (n : Nat) : Within (statementsUpTo g n) (statementsUpTo g' n) := by
  induction n with
  | zero | succ n ih => unfold Grammar.statementsUpTo; infer_instance

instance statementsStep : Within (statementsStep g) (statementsStep g') := by
  unfold Grammar.statementsStep; infer_instance

end Wiring.Source.Reader.Within
