import CheckedTypes.ByteSequence
import CheckedTypes.Regex
import Std.Data.HashMap

namespace CheckedTypes

/-- How large a machine is that reads texts byte by byte: how many states it has, and how many bytes
their lists take. -/
structure Machine where
  states : Nat := 0
  listBytes : Nat := 0

namespace Machine

def stateBytes : Nat := 32

def linkBytes : Nat := 4

def spanBytes : Nat := 8

def limit : Nat := 0xa00000

def size (machine : Machine) : Nat :=
  machine.states * stateBytes + machine.listBytes

end Machine

abbrev MachineBuilder := StateT Machine Option

namespace MachineBuilder

def grow (states listBytes : Nat) : MachineBuilder Unit := fun machine =>
  let machine : Machine := ⟨machine.states + states, machine.listBytes + listBytes⟩
  if machine.size ≤ Machine.limit then some ((), machine) else none

def addState : MachineBuilder Unit :=
  grow 1 0

def addLinks (count : Nat) : MachineBuilder Unit :=
  grow 0 (count * Machine.linkBytes)

def leadOn (fork : Bool) : MachineBuilder Unit :=
  if fork then addLinks 1 else pure ()

def nextState : MachineBuilder Nat := do
  return (← get).states

end MachineBuilder

structure ByteSpan where
  bytes : ByteRange
  target : Nat
deriving DecidableEq

/-- States that were built before, by a number that is computed from what they are made of. One of
two with the same number is forgotten. -/
abbrev KnownStates (α : Type) := Std.HashMap Nat (α × Nat)

namespace KnownStates

/-- The number of some components; there are `slots` numbers. -/
def slot (slots : Nat) (components : List Nat) : Nat :=
  let mixed := components.foldl (fun h n => (h ^^^ n.toUInt64) * 1099511628211)
    (14695981039346656037 : UInt64)
  mixed.toNat % slots

variable {α : Type} [DecidableEq α]

def find? (known : KnownStates α) (slot : Nat) (key : α) : Option Nat :=
  match known[slot]? with
  | some (other, state) => if other = key then some state else none
  | none => none

end KnownStates

namespace MachineBuilder

def forwardSlots : Nat := 10000

def backwardSlots : Nat := 1000

abbrev Sharing := StateT (KnownStates (List ByteSpan)) MachineBuilder

def share (spans : List ByteSpan) : Sharing Nat := do
  let slot := KnownStates.slot forwardSlots
    (spans.flatMap fun span => [span.bytes.first, span.bytes.last, span.target])
  match (← get).find? slot spans with
  | some state => return state
  | none =>
    let state ← nextState
    grow 1 (spans.length * Machine.spanBytes)
    modify fun known => known.insert slot (spans, state)
    return state

mutual
def spanOf (target : Nat) : ByteTree → Sharing ByteSpan
  | .node bytes next => do
    if next.isEmpty then return ⟨bytes, target⟩
    let spans ← spansOf target next
    return ⟨bytes, ← share spans⟩
def spansOf (target : Nat) : List ByteTree → Sharing (List ByteSpan)
  | [] => return []
  | tree :: rest => do
    let span ← spanOf target tree
    return span :: (← spansOf target rest)
end

def addForward (chars : CharSet) : MachineBuilder Unit := do
  let target ← nextState
  addState
  let build : Sharing Nat := do
    share (← spansOf target (ByteTree.ofSequences 4 (ByteSequence.ofSet chars)))
  let _ ← build.run ∅

def addBackwardSequence (known : KnownStates (Nat × ByteRange)) (last : Nat) :
    ByteSequence → MachineBuilder (KnownStates (Nat × ByteRange))
  | [] => return known
  | bytes :: rest => do
    let slot := KnownStates.slot backwardSlots [last, bytes.first, bytes.last]
    match known.find? slot (last, bytes) with
    | some state => addBackwardSequence known state rest
    | none =>
      let state ← nextState
      addState
      addBackwardSequence (known.insert slot ((last, bytes), state)) state rest

def addBackwardSequences (known : KnownStates (Nat × ByteRange)) (last : Nat) :
    List ByteSequence → MachineBuilder Unit
  | [] => return
  | sequence :: rest => do
    let known ← addBackwardSequence known last sequence
    addLinks 1
    addBackwardSequences known last rest

def addBackward (chars : CharSet) : MachineBuilder Unit := do
  addState
  let last ← nextState
  addState
  addBackwardSequences ∅ last (ByteSequence.ofSet chars)

/-- The states that read one character of a set; one state is enough for ASCII. -/
def addSet (backward : Bool) (chars : CharSet) : MachineBuilder Bool := do
  if chars.isAscii then
    addState
    grow 1 (chars.ranges.length * Machine.spanBytes)
  else if backward then addBackward chars
  else addForward chars
  return false

/-- One part after the other; the first part is built, and `fork` says whether it ends in a fork. -/
def chainFrom (fork : Bool) : List (MachineBuilder Bool) → MachineBuilder Bool
  | [] => return fork
  | part :: rest => do
    let next ← part
    leadOn fork
    chainFrom next rest

def chain : List (MachineBuilder Bool) → MachineBuilder Bool
  | [] => do
    addState
    return false
  | part :: rest => do chainFrom (← part) rest

def repeatFrom (part : MachineBuilder Bool) (fork : Bool) : Nat → MachineBuilder Bool
  | 0 => return fork
  | times + 1 => do
    let next ← part
    leadOn fork
    repeatFrom part next times

def exactly (part : MachineBuilder Bool) : Nat → MachineBuilder Bool
  | 0 => do
    addState
    return false
  | times + 1 => do repeatFrom part (← part) times

def optionalFrom (part : MachineBuilder Bool) (fork : Bool) : Nat → MachineBuilder Unit
  | 0 => leadOn fork
  | times + 1 => do
    addState
    let next ← part
    leadOn fork
    addLinks 2
    optionalFrom part next times

/-- A repeated part; `solid` says that it takes at least one byte. -/
def repetition (part : MachineBuilder Bool) (solid : Bool) :
    (least : Nat) → (most : Option Nat) → MachineBuilder Bool
  | 0, some 1 => do
    addState
    let fork ← part
    addState
    addLinks 2
    leadOn fork
    return false
  | 0, none => do
    if solid then
      addState
      let fork ← part
      addLinks 1
      leadOn fork
      return true
    else
      let fork ← part
      grow 3 (4 * Machine.linkBytes)
      leadOn fork
      return false
  | 1, none => do
    let fork ← part
    addState
    leadOn fork
    addLinks 1
    return true
  | least + 2, none => do
    let before ← exactly part (least + 1)
    let fork ← part
    addState
    leadOn before
    leadOn fork
    addLinks 1
    return true
  | least, some most => do
    let fork ← exactly part least
    if least = most then return fork
    addState
    optionalFrom part fork (most - least)
    return false

def branchesFrom : List (MachineBuilder Bool) → MachineBuilder Unit
  | [] => return
  | part :: rest => do
    let fork ← part
    addLinks 1
    leadOn fork
    branchesFrom rest

/-- One of several parts; the fork is built behind the first two. -/
def branches : List (MachineBuilder Bool) → MachineBuilder Bool
  | [] => return false
  | [part] => part
  | first :: second :: rest => do
    let firstFork ← first
    let secondFork ← second
    grow 2 (2 * Machine.linkBytes)
    leadOn firstFork
    leadOn secondFork
    branchesFrom rest
    return false

end MachineBuilder

/-- Texts that are read together, by what is left of them: where a text ends, those behind it are
kept apart from those before it. The chunks come out last first, as do the texts in them. -/
def chunksFrom (chunks : List (List (List UInt8))) (current : List (List UInt8)) :
    List (List UInt8) → List (List (List UInt8))
  | [] => current :: chunks
  | [] :: rest =>
    if current.isEmpty && !chunks.isEmpty && chunks.all List.isEmpty then
      chunksFrom chunks current rest
    else chunksFrom (current :: chunks) [] rest
  | text :: rest => chunksFrom chunks (text :: current) rest

def groupFirst : List (List UInt8) → List (UInt8 × List (List UInt8))
  | [] => []
  | [] :: rest => groupFirst rest
  | (byte :: tail) :: rest => insertTail byte tail (groupFirst rest)
where
  insertTail (byte : UInt8) (tail : List UInt8) :
      List (UInt8 × List (List UInt8)) → List (UInt8 × List (List UInt8))
    | [] => [(byte, [tail])]
    | (other, tails) :: rest =>
      if other = byte then (other, tail :: tails) :: rest
      else (other, tails) :: insertTail byte tail rest

/-- What the states take that read one of some texts; each item of the list is what is left of
texts that begin alike. `fuel` bounds how many bytes there are. -/
def textsSize : (fuel : Nat) → Machine → List (List (List UInt8)) → Machine
  | 0, machine, _ => machine
  | _ + 1, machine, [] => machine
  | fuel + 1, machine, texts :: rest =>
    let chunks := (chunksFrom [] [] texts).map groupFirst
    let inner := (chunks.flatMap fun chunk => chunk.map Prod.snd).filter fun tails =>
      tails.any (!·.isEmpty)
    let full := chunks.filter (!·.isEmpty)
    let spans := (full.filter (·.length > 1)).foldl (fun n chunk => n + chunk.length) 0
    let links := full.length + (chunks.length - 1)
    textsSize fuel
      ⟨machine.states + full.length + 1,
        machine.listBytes + spans * Machine.spanBytes + links * Machine.linkBytes⟩
      (inner ++ rest)

namespace Regex

def text? : Regex → Option (List Char)
  | literal text => some text
  | _ => none

def encode (text : List Char) : List UInt8 :=
  text.flatMap String.utf8EncodeChar

/-- The states that read one of some texts. Those that begin alike are built once, and read backward
those that end alike. -/
def addTexts (backward : Bool) (texts : List (List Char)) : MachineBuilder Bool := do
  let encoded := texts.map fun text => if backward then (encode text).reverse else encode text
  let machine := textsSize (encoded.foldl (fun n text => n + text.length) 1) ⟨1, 0⟩ [encoded]
  MachineBuilder.grow machine.states machine.listBytes
  return false

open MachineBuilder in
mutual
/-- Builds the states of an expression, and says whether they end in a fork. -/
def build (backward : Bool) : Regex → MachineBuilder Bool
  | .empty => do
    addState
    return false
  | .literal text => do
    grow (text.foldl (fun n c => n + c.utf8Size) 0) 0
    return false
  | .set chars _ => addSet backward chars
  | .look _ => do
    addState
    return false
  | .repetition least most _ body =>
    MachineBuilder.repetition (build backward body) (body.leastBytes?.any (0 < ·)) least most
  | .group _ body =>
    if backward then build backward body
    else do
      addState
      leadOn (← build backward body)
      addState
      return false
  | .concat parts =>
    let all := buildEach backward parts
    chain (if backward then all.reverse else all)
  | .alternate parts =>
    match parts.mapM text? with
    | some texts => addTexts backward texts
    | none => branches (buildEach backward parts)
def buildEach (backward : Bool) : List Regex → List (MachineBuilder Bool)
  | [] => []
  | part :: rest => build backward part :: buildEach backward rest
end

mutual
/-- Whether every match begins where the text begins, or, backward, ends where it ends. -/
def isAnchored (backward : Bool) : Regex → Bool
  | .look condition => condition == if backward then .endText else .startText
  | .repetition least _ _ body => 0 < least && body.isAnchored backward
  | .group _ body => body.isAnchored backward
  | .concat parts => if backward then endsAnchored false parts else startsAnchored parts
  | .alternate parts => allAnchored backward parts
  | _ => false
def startsAnchored : List Regex → Bool
  | [] => false
  | part :: rest => part.isAnchored false || (part.matchesOnlyEmpty && startsAnchored rest)
/-- `before` says whether what comes before is anchored. -/
def endsAnchored (before : Bool) : List Regex → Bool
  | [] => before
  | part :: rest =>
    endsAnchored (part.isAnchored true || (part.matchesOnlyEmpty && before)) rest
def allAnchored (backward : Bool) : List Regex → Bool
  | [] => true
  | part :: rest => part.isAnchored backward && allAnchored backward rest
end

open MachineBuilder in
/-- The machine of an expression. It reads anything before a match unless that is anchored; forward,
it notes where a match and the groups in it begin and end. -/
def buildMachine (backward : Bool) (regex : Regex) : MachineBuilder Unit := do
  let anchored := regex.isAnchored backward
  if anchored then addState else grow 3 (Machine.spanBytes + Machine.linkBytes)
  if backward then
    let fork ← build backward regex
    addState
    leadOn fork
  else
    addState
    leadOn (← build backward regex)
    grow 2 0
  if anchored then return else addLinks 1

open Machine in
mutual
/-- No fewer bytes than the states of an expression take that are built in either direction. -/
def mostBytes : Regex → Nat
  | .empty => stateBytes
  | .literal text => text.foldl (fun n c => n + c.utf8Size) 0 * stateBytes
  | .set chars _ =>
    (ByteSequence.ofSet chars).foldl (fun n sequence => n + sequence.length) 2 *
      (stateBytes + spanBytes)
  | .look _ => stateBytes
  | .repetition least most _ body =>
    max 1 (most.getD least) * (body.mostBytes + 4 * stateBytes) + 4 * stateBytes
  | .group _ body => body.mostBytes + 4 * stateBytes
  | .concat parts => mostBytesOfAll (4 * stateBytes) parts
  | .alternate parts => 4 * mostBytesOfAll (4 * stateBytes) parts
def mostBytesOfAll (sum : Nat) : List Regex → Nat
  | [] => sum
  | part :: rest => mostBytesOfAll (sum + part.mostBytes + stateBytes) rest
end

def frameBytes : Nat :=
  10 * Machine.stateBytes

/-- From how many texts on one of them is looked for without a machine. -/
def manyTexts : Nat := 3000

def isManyTexts : Regex → Bool
  | .alternate parts => parts.length ≥ manyTexts && parts.all (·.text?.isSome)
  | _ => false

/-- Whether the machines of an expression, which read forward and backward, are not too large. They
are built only where `mostBytes` does not say so already. -/
def fits (regex : Regex) : Bool :=
  regex.isManyTexts || regex.mostBytes + frameBytes ≤ Machine.limit ||
    ((regex.buildMachine false).run {}).isSome && ((regex.buildMachine true).run {}).isSome

end Regex

end CheckedTypes
