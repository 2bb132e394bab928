import Wiring.Pattern.Basic

/-!
# Patterns in their simplest form

The same texts can be asked for in several ways. Sequences, choices and repetitions are built in a
form without needless parts (`sequence`, `choice`, `repeated`), and the size of a pattern is
measured in that form: a choice among single characters is a set, what all branches of a choice
begin with stands in front of it, and nothing is repeated that has no length.
-/

namespace Wiring.Pattern

/-! ## Parts -/

/-- The parts of a sequence; another pattern is its own only part. -/
def parts : Pattern → List Pattern
  | empty => []
  | seq a b => a :: parts b
  | p => [p]

/-- The branches of a choice; another pattern is its own only branch. -/
def branches : Pattern → List Pattern
  | alt a b => a :: branches b
  | p => [p]

/-- The pattern that a set of characters is: a text if it has one member. -/
def ofCharset (s : Charset) : Pattern :=
  match s.only? with
  | some c => text [c]
  | none => set s

/-- Puts a part in front of others; texts side by side are one text. -/
def consPart : Pattern → List Pattern → List Pattern
  | text a, text b :: rest => text (a ++ b) :: rest
  | p, rest => p :: rest

/-- The sequence of some parts that are no sequences. -/
def ofParts : List Pattern → Pattern
  | [] => empty
  | [p] => p
  | p :: rest => seq p (ofParts rest)

/-- The sequence of some patterns. -/
def sequence (ps : List Pattern) : Pattern :=
  ofParts ((ps.flatMap parts).foldr consPart [])

/-- The choice among some branches that are no choices; without a branch nothing matches. -/
def ofBranches : List Pattern → Pattern
  | [] => set .empty
  | [p] => p
  | p :: rest => alt p (ofBranches rest)

/-! ## Lengths -/

/-- Whether every match has no length. A pattern without a match is none of those. -/
def isWidthless : Pattern → Bool
  | empty | place _ => true
  | text chars => chars.isEmpty
  | set _ => false
  | group _ a => a.isWidthless
  | seq a b | alt a b => a.isWidthless && b.isWidthless
  | rep a _ most? => most?.isSome && a.isWidthless

/-- A lower bound of the number of characters in a match; none if a part cannot match. -/
def leastLength? : Pattern → Option Nat
  | empty | place _ => some 0
  | text chars => some chars.length
  | set s => if s.isEmpty then none else some 1
  | group _ a => a.leastLength?
  | seq a b => do return (← a.leastLength?) + (← b.leastLength?)
  | alt a b => do return min (← a.leastLength?) (← b.leastLength?)
  | rep a least _ => a.leastLength?.map (· * least)

/-- Whether each match has a length. -/
def isSolid (p : Pattern) : Bool :=
  p.leastLength?.any (0 < ·)

/-- Whether a place is asked for in front of every match. -/
def opensWith (q : Place) : Pattern → Bool
  | place p => p = q
  | group _ a => a.opensWith q
  | seq a b => a.opensWith q || (a.isWidthless && b.opensWith q)
  | alt a b => a.opensWith q && b.opensWith q
  | rep a least _ => 0 < least && a.opensWith q
  | _ => false

/-- Whether a place is asked for behind every match. -/
def closesWith (q : Place) : Pattern → Bool
  | place p => p = q
  | group _ a => a.closesWith q
  | seq a b => b.closesWith q || (b.isWidthless && a.closesWith q)
  | alt a b => a.closesWith q && b.closesWith q
  | rep a least _ => 0 < least && a.closesWith q
  | _ => false

/-! ## Repetitions -/

/-- A pattern a number of times. What has no length is wanted once at most. -/
def repeated (a : Pattern) (least : Nat) (most? : Option Nat) : Pattern :=
  let (least, most?) :=
    if a.isWidthless then (min least 1, some ((most?.map (min 1)).getD 1)) else (least, most?)
  match least, most? with
  | 0, some 0 => empty
  | 1, some 1 => a
  | least, most? => rep a least most?

/-! ## Choices -/

/-- The set that branches are if each is a single character, or if each is a set. -/
def merged? (ps : List Pattern) : Option Charset :=
  let singles? := ps.mapM fun p => match p with
    | text [c] => some (Charset.single c)
    | _ => none
  let sets? := ps.mapM fun p => match p with
    | set s => some s
    | _ => none
  (singles?.or sets?).map Charset.unions

/-- What two lists begin with. -/
def commonStart : List Pattern → List Pattern → List Pattern
  | p :: ps, q :: qs => if p = q then p :: commonStart ps qs else []
  | _, _ => []

/-- The parts that all branches begin with; none if a branch is no sequence. -/
def sharedStart : List Pattern → List Pattern
  | [] => []
  | p :: ps =>
    if (p :: ps).all fun q => match q with
      | seq _ _ => true
      | _ => false
    then ps.foldl (fun start q => commonStart start q.parts) p.parts else []

/-- The choice among some patterns. The number bounds how often something is taken to the front. -/
def choiceWithin : (bound : Nat) → List Pattern → Pattern
  | 0, ps => ofBranches ps
  | bound + 1, ps =>
    let ps := ps.flatMap branches
    match ps with
    | [] | [_] => ofBranches ps
    | ps =>
      match merged? ps with
      | some s => ofCharset s
      | none =>
        match sharedStart ps with
        | [] => ofBranches ps
        | start =>
          let rests := ps.map fun p => sequence (p.parts.drop start.length)
          sequence (start ++ [choiceWithin bound rests])

/-- The number of parts of a pattern, which bounds how deep its parts lie. -/
def weight : Pattern → Nat
  | group _ a => a.weight + 1
  | seq a b | alt a b => a.weight + b.weight + 1
  | rep a _ _ => a.weight + 1
  | _ => 1

/-- The choice among some patterns. -/
def choice (ps : List Pattern) : Pattern :=
  choiceWithin (ps.foldl (fun n p => n + p.weight) 1) ps

end Wiring.Pattern
