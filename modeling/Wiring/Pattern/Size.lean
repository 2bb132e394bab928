import Wiring.Decimal.Nearest
import Wiring.Pattern.Encoding
import Wiring.Pattern.Shape

/-!
# The size of a pattern

A pattern is run by an automaton that reads bytes, once forwards and once backwards, and must not
take more than `sizeLimit` bytes in either direction (`Pattern.fits`). The parts of an automaton are
counted (`Automaton`) without building it.

Forwards, states for characters are shared where the same byte sequences follow, and a counted group
has a state at either end (`forwards`). Backwards, states are shared where the same byte ranges came
before, as far as a table of shared states remembers them (`backwards`).
-/

namespace Wiring.Pattern

/-- What an automaton consists of. -/
structure Automaton where
  states : Nat
  /-- Transitions on byte ranges that are kept in a list. -/
  edges : Nat
  /-- Transitions without a byte that are kept in a list. -/
  forks : Nat
  deriving DecidableEq, Repr

namespace Automaton

/-- Two automata side by side. -/
def plus (a b : Automaton) : Automaton :=
  ⟨a.states + b.states, a.edges + b.edges, a.forks + b.forks⟩

instance : Add Automaton := ⟨plus⟩

/-- A number of copies. -/
def copies (n : Nat) (a : Automaton) : Automaton :=
  ⟨n * a.states, n * a.edges, n * a.forks⟩

/-- The bytes that an automaton takes. -/
def bytes (a : Automaton) : Nat :=
  32 * a.states + 8 * a.edges + 4 * a.forks

/-- Some states and nothing else. -/
def ofStates (n : Nat) : Automaton := ⟨n, 0, 0⟩

/-- The fork that leads to a branch of a choice. -/
def entry (isBranch : Bool) : Automaton :=
  ⟨0, 0, if isBranch then 1 else 0⟩

/-- A state with two forks. -/
def fork : Automaton := ⟨1, 0, 2⟩

/-- What skips everything in front of a match. -/
def skipping : Automaton := ⟨3, 1, 2⟩

end Automaton

/-- A pattern may take this many bytes. -/
def sizeLimit : Nat := 10 * Decimal.twoTo 20

/-! ## Choices among texts -/

/-- The words behind each first byte, in order; words without a byte are left out. -/
def byFirst (words : List (List Nat)) : List (List (List Nat)) :=
  let firsts := (words.filterMap List.head?).eraseDups
  firsts.map fun b => words.filterMap fun w =>
    if w.head? = some b then some (w.drop 1) else none

/-- Cuts the words at a state of a tree into those before a word that ends there, those before the
next one, and so on. While no word goes on, only the first end counts. -/
def chunks (words : List (List Nat)) : List (List (List Nat)) :=
  let cut (acc : List (List (List Nat)) × List (List Nat)) (w : List Nat) :=
    if !w.isEmpty then (acc.1, acc.2 ++ [w])
    else if !acc.1.isEmpty && acc.2.isEmpty && acc.1.all List.isEmpty then acc
    else (acc.1 ++ [acc.2], [])
  let (done, last) := words.foldl cut ([], [])
  done ++ [last]

/-- The part of the tree of some words that starts at one of its states. The number bounds the
length of a word. -/
def wordTree : (bound : Nat) → List (List Nat) → Automaton
  | 0, _ => .ofStates 0
  | bound + 1, words =>
    if words.all List.isEmpty then .ofStates 0
    else
      let ofChunk (chunk : List (List Nat)) : Automaton :=
        match byFirst chunk with
        | [] => .ofStates 0
        | [tails] => ⟨1, 0, 1⟩ + wordTree bound tails
        | groups => groups.foldl (fun a tails => a + ⟨0, 1, 0⟩ + wordTree bound tails) ⟨1, 0, 1⟩
      let parts := chunks words
      parts.foldl (fun a chunk => a + ofChunk chunk) ⟨1, 0, parts.length - 1⟩

/-- The bytes of a text. -/
def textBytes (chars : List Char) : List Nat :=
  chars.flatMap fun c => encoded c.toNat

/-- The texts among which a choice is, if it is one among texts only. -/
def words? (p : Pattern) : Option (List (List Nat)) :=
  p.branches.mapM fun p => match p with
    | text chars => some (textBytes chars)
    | _ => none

/-- The automaton of a choice among texts. -/
def ofWords (words : List (List Nat)) : Automaton :=
  .ofStates 1 + wordTree (words.foldl (fun n w => max n w.length) 0 + 1) words

/-! ## Forwards -/

/-- Byte sequences by their first byte range, without it; those with one start stand together. -/
def grouped : List (List ByteRange) → List (ByteRange × List (List ByteRange))
  | [] => []
  | [] :: rest => grouped rest
  | (r :: tail) :: rest =>
    match grouped rest with
    | (q, tails) :: groups =>
      if q = r then (q, tail :: tails) :: groups else (r, [tail]) :: (q, tails) :: groups
    | [] => [(r, [tail])]

/-- The states that read some sequences, each given by the sequences that it still has to read. The
number bounds the length of a sequence. -/
def readers : (bound : Nat) → List (List ByteRange) → List (List (List ByteRange))
  | 0, _ => []
  | bound + 1, seqs =>
    if seqs.all List.isEmpty then []
    else seqs :: (grouped seqs).flatMap fun (_, tails) => readers bound tails

/-- The automaton that reads a member of a set forwards. -/
def setForwards (s : Charset) : Automaton :=
  if s.isAscii then ⟨2, s.ranges.size, 0⟩
  else
    let states := (readers 4 s.byteSequences).eraseDups
    states.foldl (fun a seqs => a + ⟨1, (grouped seqs).length, 0⟩) (.ofStates 1)

/-- The automaton of a pattern forwards, with the fork that leads to it if it is a branch. -/
def forwards : Pattern → (isBranch : Bool) → Automaton
  | empty, isBranch | place _, isBranch => .entry isBranch + .ofStates 1
  | text chars, isBranch => .entry isBranch + .ofStates (textBytes chars).length
  | set s, isBranch => .entry isBranch + setForwards s
  | group _ a, isBranch => .entry isBranch + .ofStates 2 + a.forwards false
  | seq a b, isBranch => .entry isBranch + a.forwards false + b.forwards false
  | alt a b, true => a.forwards true + b.forwards true
  | alt a b, false =>
    match (alt a b).words? with
    | some words => ofWords words
    | none => .ofStates 2 + a.forwards true + b.forwards true
  | rep a least most?, isBranch =>
    let one := a.forwards false
    .entry isBranch +
      match least, most? with
      | 0, some 1 => .fork + one + .ofStates 1
      | least, some most =>
        (if least = 0 then .ofStates 1 else one.copies least) +
          if least = most then .ofStates 0 else .ofStates 1 + (.fork + one).copies (most - least)
      | 0, none => if a.isSolid then .fork + one else .fork + .fork + .ofStates 1 + one
      | least, none => one.copies least + .fork

/-! ## Backwards -/

/-- States that can be shared, in places that are taken over by later ones: a state with the state
and the byte range behind it. -/
abbrev Shared := Array (Option ((Nat × ByteRange) × Nat))

/-- The number of places for shared states. -/
def sharedPlaces : Nat := 1000

/-- The place of a state, found by the hash of Fowler, Noll and Vo. -/
def sharedPlace (key : Nat × ByteRange) : Nat :=
  let mix (h : UInt64) (n : Nat) : UInt64 := (h ^^^ n.toUInt64) * 1099511628211
  ([key.1, key.2.1, key.2.2].foldl mix 14695981039346656037).toNat % sharedPlaces

/-- A state for a byte range in front of another state, a shared one if there is one. -/
def addShared (acc : Shared × Automaton × Nat) (r : ByteRange) : Shared × Automaton × Nat :=
  let (shared, built, next) := acc
  let place := sharedPlace (next, r)
  match (shared[place]?).join with
  | some (key, state) =>
    if key = (next, r) then (shared, built, state) else create shared built next place
  | none => create shared built next place
where
  /-- A new state, which takes its place among the shared ones. -/
  create (shared : Shared) (built : Automaton) (next place : Nat) : Shared × Automaton × Nat :=
    (shared.setIfInBounds place (some ((next, r), built.states)), built + .ofStates 1, built.states)

/-- Adds what reads a member of a set backwards to what is built already. -/
def setBackwards (s : Charset) (built : Automaton) : Automaton :=
  if s.isAscii then built + ⟨2, s.ranges.size, 0⟩
  else
    let last := built.states + 1
    let add (acc : Shared × Automaton) (seq : List ByteRange) : Shared × Automaton :=
      let (shared, built, _) := seq.foldl addShared (acc.1, acc.2, last)
      (shared, built + .entry true)
    (s.byteSequences.foldl add (Array.replicate sharedPlaces none, built + .ofStates 2)).2

/-- Adds a number of copies, until there is too much. -/
def addTimes (add : Automaton → Automaton) : (n : Nat) → Automaton → Automaton
  | 0, built => built
  | n + 1, built => if sizeLimit < built.bytes then built else addTimes add n (add built)

/-- Adds what reads a pattern backwards to what is built already, with the fork that leads to it if
it is a branch. -/
def backwards : Pattern → (isBranch : Bool) → Automaton → Automaton
  | empty, isBranch, built | place _, isBranch, built => built + .entry isBranch + .ofStates 1
  | text chars, isBranch, built => built + .entry isBranch + .ofStates (textBytes chars).length
  | set s, isBranch, built => setBackwards s (built + .entry isBranch)
  | group _ a, isBranch, built => a.backwards isBranch built
  | seq a b, isBranch, built => a.backwards false (b.backwards false (built + .entry isBranch))
  | alt a b, true, built => b.backwards true (a.backwards true built)
  | alt a b, false, built =>
    match (alt a b).words? with
    | some words => built + ofWords (words.map List.reverse)
    | none => b.backwards true (a.backwards true (built + .ofStates 2))
  | rep a least most?, isBranch, built =>
    let built := built + .entry isBranch
    match least, most? with
    | 0, some 1 => a.backwards false (built + .fork) + .ofStates 1
    | least, some most =>
      let first :=
        if least = 0 then built + .ofStates 1 else addTimes (a.backwards false) least built
      if least = most then first
      else addTimes (fun built => a.backwards false (built + .fork)) (most - least)
        (first + .ofStates 1)
    | 0, none =>
      if a.isSolid then a.backwards false (built + .fork)
      else a.backwards false built + .fork + .fork + .ofStates 1
    | least, none => addTimes (a.backwards false) least built + .fork

/-! ## Both directions -/

/-- What leads to the start of a match: nothing if a match can only be at an end of the text. -/
def leadIn (isAnchored : Bool) : Automaton :=
  if isAnchored then .ofStates 1 else .skipping

/-- The bytes that a whole pattern takes forwards. -/
def sizeForwards (p : Pattern) : Nat :=
  (leadIn (p.opensWith .textStart) + .ofStates 3 + p.forwards false).bytes

/-- The bytes that a whole pattern takes backwards, or some number beyond the limit. -/
def sizeBackwards (p : Pattern) : Nat :=
  (p.backwards false (leadIn (p.closesWith .textEnd)) + .ofStates 1).bytes

/-- Whether a pattern takes no more than it may. -/
def fits (p : Pattern) : Bool :=
  p.sizeForwards ≤ sizeLimit && p.sizeBackwards ≤ sizeLimit

end Wiring.Pattern
