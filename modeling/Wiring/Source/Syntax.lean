import Wiring.Source.Token

/-!
# Syntax of declarations

What is kept of a source text once it is read: types, expressions, attributes, functions and items.
Of a form that nothing is ever asked of, it is only known that it was there.
-/

namespace Wiring.Source

/-- Where a path starts. -/
inductive PathRoot where
  /-- With its first name. -/
  | plain
  /-- With the sign between names. -/
  | rooted
  /-- With a type in angle brackets. -/
  | qualified
  deriving DecidableEq, Repr

/-- One bound of a type. -/
inductive Bound where
  /-- A trait, by the names of its path. -/
  | trait (names : List String)
  | lifetime
  /-- What a type captures. -/
  | capture
  /-- A trait that is there only where it can be used in constants. -/
  | conditional
  deriving DecidableEq, Repr

/-- A type. -/
inductive Ty where
  | reference (target : Ty)
  | parenthesized (inner : Ty)
  /-- In a group without brackets, as it comes out of an expansion. No text has one. -/
  | grouped (inner : Ty)
  /-- Bounds; whether there is one alone, to which others may be added once it is in parentheses. -/
  | traitObject (isSingle : Bool) (bounds : List Bound)
  /-- An array, a slice or a tuple. -/
  | sequence
  /-- A path, with the type arguments of its last name. -/
  | path (root : PathRoot) (names : List String) (arguments : List Ty)
  | other
  deriving Repr

/-- The last name of a path type. -/
def Ty.name? : Ty → Option String
  | path _ names _ => names.getLast?
  | _ => none

/-- A path. -/
structure Path where
  root : PathRoot
  names : List String
  /-- The type arguments of the last name. -/
  arguments : List Ty := []
  /-- Whether any name has arguments. -/
  isGeneric : Bool := false
  /-- Whether the last name has arguments. -/
  endsGeneric : Bool := false
  deriving Repr

namespace Path

/-- Whether a path is one bare word. -/
def isWord (p : Path) (word : String) : Bool :=
  p.root == .plain && p.names == [word] && !p.isGeneric

/-- Whether a path is made of names alone. -/
def isBare (p : Path) : Bool :=
  p.root != .qualified && !p.isGeneric

/-- The last name of a path. -/
def last (p : Path) : String :=
  p.names.getLast?.getD ""

end Path

/-- A pattern. -/
inductive PatternForm where
  | name (text : String)
  /-- A range without a lower or without an upper end. -/
  | openRange
  | other
  deriving DecidableEq, Repr

/-- An expression. -/
inductive Expr where
  | literal (value : LiteralValue)
  | truth (b : Bool)
  | negated (inner : Expr)
  | path (path : Path)
  | array (items : List Expr)
  | call (function : Expr) (arguments : List Expr)
  | methodCall (receiver : Expr) (arguments : List Expr)
  | parenthesized (inner : Expr)
  | range
  | comparison
  /-- A block, a loop or a choice: it is a statement without a semicolon after it. -/
  | block
  /-- A call that is expanded, and whether its arguments stand in braces. -/
  | expansion (isBraced : Bool)
  | other
  deriving Repr

namespace Expr

/-- Whether an expression is a range. -/
def isRange : Expr → Bool
  | range => true
  | _ => false

/-- Whether an expression is a comparison. -/
def isComparison : Expr → Bool
  | comparison => true
  | _ => false

/-- Whether an expression is a statement without a semicolon after it, but no expanded call. -/
def isBlock : Expr → Bool
  | block => true
  | _ => false

/-- Whether an expression needs a semicolon to be a statement. -/
def needsSemicolon : Expr → Bool
  | block | expansion true => false
  | _ => true

end Expr

/-- What follows the path of an attribute. -/
inductive AttributeForm where
  | bare
  /-- The content of a group in any brackets. -/
  | list (content : List Tree)
  /-- An equals sign and a value. -/
  | value
  deriving Repr

/-- An attribute. -/
structure Attribute where
  path : Path
  form : AttributeForm
  /-- The attribute in its standard form. -/
  trees : List Tree
  deriving Repr

/-- What a parameter of a function is. -/
inductive ParamForm where
  /-- The value that a method is called on. -/
  | receiver
  /-- A pattern with a type; the name is there if the pattern is a name. -/
  | typed (name? : Option String) (type : Ty)
  /-- Any number of further arguments. -/
  | variadic
  deriving Repr

/-- A parameter of a function. -/
structure Param where
  attributes : List Attribute
  form : ParamForm
  /-- The parameter in its standard form, without its attributes. -/
  trees : List Tree
  deriving Repr

namespace Param

/-- Whether a parameter is the value that a method is called on. -/
def isReceiver (p : Param) : Bool :=
  match p.form with
  | .receiver => true
  | _ => false

/-- Whether a parameter has a pattern and a type. -/
def isTyped (p : Param) : Bool :=
  match p.form with
  | .typed _ _ => true
  | _ => false

/-- Whether a parameter stands for any number of arguments. -/
def isVariadic (p : Param) : Bool :=
  match p.form with
  | .variadic => true
  | _ => false

/-- A parameter in its standard form. -/
def allTrees (p : Param) : List Tree :=
  p.attributes.flatMap (·.trees) ++ p.trees

end Param

/-- The head of a function, its parts in their standard form where they are kept as trees. -/
structure Signature where
  name : String
  params : List Param
  output? : Option Ty
  /-- What stands before the parameters. -/
  headTrees : List Tree
  /-- Whether a comma follows the last parameter. -/
  endsWithComma : Bool
  /-- What stands after the parameters. -/
  tailTrees : List Tree
  deriving Repr

/-- A function with a body. -/
structure Function where
  /-- The attributes in front of it. -/
  outer : List Attribute
  /-- The attributes at the start of its body. -/
  inner : List Attribute
  /-- What stands between the attributes and the head. -/
  frontTrees : List Tree
  signature : Signature
  /-- The body with its braces. -/
  bodyTrees : List Tree
  deriving Repr

/-- All attributes of a function. -/
def Function.attributes (f : Function) : List Attribute :=
  f.outer ++ f.inner

/-- A declaration. -/
inductive Item where
  /-- A type with fields. -/
  | struct (attributes : List Attribute) (name : String) (isGeneric : Bool)
  | trait (name : String) (supertraits : List Bound)
  /-- The functions of a type, or of a trait for a type; functions without a body are left out. -/
  | impl (owner : Ty) (trait? : Option (List String)) (functions : List Function)
  | module (items : List Item)
  /-- A type with alternatives. -/
  | enum
  | other
  deriving Repr

end Wiring.Source
