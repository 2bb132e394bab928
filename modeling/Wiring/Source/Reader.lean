import Wiring.Source.Token

/-!
# Reading token trees

A reader takes trees from the front of a list and gives what they spell; it fails with a flaw. What
comes next is decided by looking at the trees without taking them.

While it reads, a reader writes down the standard form of what it takes. Mostly that is what is
taken, tree by tree; a reader may also pass over trees without writing them, or write others in
their place. A group is read by a reader for its content. Where that stops before the end of the
group, reading goes on after the group, but the text as a whole is refused in the end.
-/

namespace Wiring.Source

/-- Why a text is refused. -/
inductive Flaw where
  /-- The text is not in the language. -/
  | malformed
  /-- The text breaks a rule that has a wording of its own. -/
  | complaint (text : String)
  deriving DecidableEq, Repr

/-- How far a reader has come. -/
structure Reading where
  /-- The trees that are left. -/
  rest : List Tree
  /-- What is written so far, newest first. -/
  written : List Tree := []
  /-- Whether a group was left before its end. -/
  hasSurplus : Bool := false

/-- A reader of token trees. -/
abbrev Reader (α : Type) : Type := StateT Reading (Except Flaw) α

/-- A question about the trees that come next. -/
abbrev Look : Type := List Tree → Bool

/-- Words that are no names. -/
def keywords : List String :=
  ["_", "abstract", "as", "async", "await", "become", "box", "break", "const", "continue", "crate",
    "do", "dyn", "else", "enum", "extern", "false", "final", "fn", "for", "if", "impl", "in", "let",
    "loop", "macro", "match", "mod", "move", "mut", "override", "priv", "pub", "ref", "return",
    "Self", "self", "static", "struct", "super", "trait", "true", "try", "type", "typeof", "unsafe",
    "unsized", "use", "virtual", "where", "while", "yield"]

/-- Whether a word is a name. -/
def isName (word : String) : Bool :=
  !keywords.contains word

namespace Look

/-- Nothing comes next. -/
def nothing : Look := List.isEmpty

/-- The signs of a text come next; only the last of them may stand apart from what follows. -/
def sign (text : String) : Look :=
  go text.toList
where
  /-- The same for a list of signs. -/
  go : List Char → List Tree → Bool
    | [], _ => true
    | [c], .leaf (.sign mark _) :: _ => mark == c
    | c :: cs, .leaf (.sign mark isJoint) :: ts => mark == c && isJoint && go cs ts
    | _ :: _, _ => false

/-- The given word comes next. -/
def word (text : String) : Look
  | .leaf (.word w) :: _ => w == text
  | _ => false

/-- A word comes next, a keyword perhaps. -/
def anyWord : Look
  | .leaf (.word _) :: _ => true
  | _ => false

/-- A name comes next. -/
def name : Look
  | .leaf (.word w) :: _ => isName w
  | _ => false

/-- A lifetime comes next. -/
def lifetime : Look
  | .leaf (.lifetime _) :: _ => true
  | _ => false

/-- A literal comes next: a truth value and a number with a minus sign are literals too. -/
def literal : Look
  | .leaf (.literal _ _) :: _ => true
  | .leaf (.word w) :: _ => w == "true" || w == "false"
  | .leaf (.sign '-' _) :: .leaf (.literal _ (.natural _)) :: _ => true
  | .leaf (.sign '-' _) :: .leaf (.literal _ (.decimal _)) :: _ => true
  | _ => false

/-- A text in quotes comes next. -/
def text : Look
  | .leaf (.literal _ (.text _)) :: _ => true
  | _ => false

/-- A group in the given brackets comes next. -/
def group (d : Delimiter) : Look
  | .group d' _ :: _ => d == d'
  | _ => false

/-- A group in any brackets comes next. -/
def anyGroup : Look
  | .group _ _ :: _ => true
  | _ => false

/-- What is asked holds after some trees are passed over. -/
def after (n : Nat) (l : Look) : Look := fun ts => l (ts.drop n)

/-- One of several looks holds. -/
def any (ls : List Look) : Look := fun ts => ls.any fun l => l ts

/-- Both looks hold. -/
def both (l m : Look) : Look := fun ts => l ts && m ts

/-- The look does not hold. -/
def no (l : Look) : Look := fun ts => !l ts

/-- One of several words comes next. -/
def words (texts : List String) : Look := any (texts.map word)

end Look

namespace Reader

/-- Refuses the text. -/
def malformed {α : Type} : Reader α := throw .malformed

/-- Refuses the text with a wording. -/
def complain {α : Type} (text : String) : Reader α := throw (.complaint text)

/-- Whether a look holds here. -/
def sees (l : Look) : Reader Bool := return l (← get).rest

/-- How many trees are left. -/
def remaining : Reader Nat := return (← get).rest.length

/-- Writes trees. -/
def write (ts : List Tree) : Reader Unit :=
  modify fun s => { s with written := ts.reverse ++ s.written }

/-- Passes over some trees without writing them. -/
def drop (n : Nat) : Reader Unit := modify fun s => { s with rest := s.rest.drop n }

/-- Takes some trees. -/
def skip (n : Nat) : Reader Unit := do
  write ((← get).rest.take n)
  drop n

/-- Takes some trees if a look holds, and fails otherwise. -/
def expect (l : Look) (n : Nat) : Reader Unit := do
  if ← sees l then skip n else malformed

/-- Takes signs. -/
def sign (text : String) : Reader Unit := expect (.sign text) text.length

/-- Takes a word. -/
def word (text : String) : Reader Unit := expect (.word text) 1

/-- Takes some trees if a look holds, and says whether it did. -/
def accept (l : Look) (n : Nat) : Reader Bool := do
  if ← sees l then
    skip n
    return true
  else
    return false

/-- Takes signs if they come next. -/
def acceptSign (text : String) : Reader Bool := accept (.sign text) text.length

/-- Takes a word if it comes next. -/
def acceptWord (text : String) : Reader Bool := accept (.word text) 1

/-- Takes a word, a keyword perhaps. -/
def anyWord : Reader String := do
  match (← get).rest with
  | .leaf (.word w) :: _ =>
    skip 1
    return w
  | _ => malformed

/-- Takes a name. -/
def name : Reader String := do
  if ← sees .name then anyWord else malformed

/-- Takes a name or the blank that stands for one. -/
def nameOrBlank : Reader String := do
  if ← sees (.any [.name, .word "_"]) then anyWord else malformed

/-- Takes a lifetime. -/
def lifetime : Reader Unit := expect .lifetime 1

/-- Takes a text in quotes. -/
def text : Reader String := do
  match (← get).rest with
  | .leaf (.literal _ (.text s)) :: _ =>
    skip 1
    return s
  | _ => malformed

/-- Reads all of some trees, and gives what is written of them as well. -/
def wholeWritten {α : Type} (r : Reader α) (ts : List Tree) : Except Flaw (α × List Tree) := do
  let (a, s) ← r.run { rest := ts }
  if s.rest.isEmpty && !s.hasSurplus then pure (a, s.written.reverse) else throw .malformed

/-- Reads all of some trees. -/
def whole {α : Type} (r : Reader α) (ts : List Tree) : Except Flaw α :=
  return (← wholeWritten r ts).1

/-- Reads the content of a group. -/
def group {α : Type} (d : Delimiter) (r : Reader α) : Reader α := do
  let s ← get
  match s.rest with
  | .group d' content :: rest =>
    if d = d' then
      let (a, inner) ← (r.run { rest := content } : Except Flaw (α × Reading))
      set { s with
        rest
        written := .group d inner.written.reverse :: s.written
        hasSurplus := s.hasSurplus || inner.hasSurplus || !inner.rest.isEmpty }
      return a
    else malformed
  | _ => malformed

/-- Takes a group in any brackets as it stands, and gives its content. -/
def anyGroup : Reader (Delimiter × List Tree) := do
  match (← get).rest with
  | .group d content :: _ =>
    skip 1
    return (d, content)
  | _ => malformed

/-- Reads as another reader does, and gives what that writes instead of writing it. -/
def captured {α : Type} (r : Reader α) : Reader (α × List Tree) := do
  let before ← get
  set { before with written := [] }
  let a ← r
  let after ← get
  set { after with written := before.written }
  return (a, after.written.reverse)

/-- Reads as another reader does and writes nothing. -/
def silently {α : Type} (r : Reader α) : Reader α := Prod.fst <$> captured r

/-- Reads as another reader does; what is taken is written as it stands if the reader says so. -/
def verbatimIf {α : Type} (r : Reader (α × Bool)) : Reader α := do
  let before ← get
  let (a, isVerbatim) ← r
  if isVerbatim then
    let after ← get
    let taken := before.rest.take (before.rest.length - after.rest.length)
    set { after with written := taken.reverse ++ before.written }
  return a

/-- Reads as another reader does and writes what is taken as it stands. -/
def verbatim {α : Type} (r : Reader α) : Reader α := verbatimIf do return (← r, true)

/-- Reads something if it is there, and gives it with what is written of it. -/
def ahead {α : Type} (r : Reader α) : Reader (Option (α × Reading)) := do
  match r.run (← get) with
  | .ok found => return some found
  | .error _ => return none

/-- Reads items as long as a look holds. -/
def manyWhile {α : Type} (l : Look) (r : Reader α) : Reader (List α) := do
  go (← remaining)
where
  /-- At most so many items. -/
  go : Nat → Reader (List α)
    | 0 => return []
    | n + 1 => do
      if ← sees l then
        let a ← r
        return a :: (← go n)
      else return []

/-- Reads items up to where a look holds, a sign between each two; it may also follow the last. -/
def separatedUntil {α : Type} (stop : Look) (mark : String) (r : Reader α) : Reader (List α) := do
  go (← remaining)
where
  /-- At most so many items. -/
  go : Nat → Reader (List α)
    | 0 => do if ← sees stop then return [] else malformed
    | n + 1 => do
      if ← sees stop then return []
      else
        let a ← r
        if ← sees stop then return [a]
        else
          sign mark
          return a :: (← go n)

/-- Reads items with a sign between each two, and ends where no sign follows an item or where a look
holds. -/
def separatedWhile {α : Type} (stop : Look) (mark : String) (r : Reader α) : Reader (List α) := do
  go (← remaining)
where
  /-- At most so many items. -/
  go : Nat → Reader (List α)
    | 0 => return []
    | n + 1 => do
      if ← sees stop then return []
      else
        let a ← r
        if ← acceptSign mark then return a :: (← go n)
        else return [a]

/-- Reads items with commas between them to the end; a comma may also follow the last. -/
def commaSeparated {α : Type} (r : Reader α) : Reader (List α) :=
  separatedUntil .nothing "," r

/-- The tree of a sign that stands apart. -/
def signTree (c : Char) : Tree :=
  .leaf (.sign c false)

/-- Lists of trees with commas between them, and perhaps after the last. -/
def joined (endsWithComma : Bool) (pieces : List (List Tree)) : List Tree :=
  let comma := [signTree ',']
  (pieces.intersperse comma).flatten ++ if endsWithComma then comma else []

/-- Reads items between angle brackets with commas between them. In the standard form some stand
before the others, and each keeps its comma. -/
def angled {α : Type} (isFirst : α → Bool) (r : Reader α) : Reader (List α) := do
  sign "<"
  let (items, commas) ← captured (separatedUntil (.sign ">") "," (captured r))
  let isMoved := items.getLast?.any (isFirst ·.1) && items.any (!isFirst ·.1)
  let ordered := items.filter (isFirst ·.1) ++ items.filter (!isFirst ·.1)
  let endsWithComma := items.length ≤ commas.length && !items.isEmpty
  write (joined (endsWithComma || isMoved) (ordered.map (·.2)))
  sign ">"
  return items.map (·.1)

/-- Writes nothing of what a reader writes if that gives an empty list. -/
def writtenIfFilled {α : Type} (r : Reader (List α)) : Reader (List α) := do
  let (items, trees) ← captured r
  if !items.isEmpty then write trees
  return items

end Reader

end Wiring.Source
