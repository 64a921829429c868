import CheckedTypes.CharProperty
import Std.Data.HashSet

namespace CheckedTypes

inductive Look where
  | startText
  | endText
  | startLine (carriageReturns : Bool)
  | endLine (carriageReturns : Bool)
  | wordBoundary (unicode : Bool)
  | notWordBoundary (unicode : Bool)
  | wordStart (unicode : Bool)
  | wordEnd (unicode : Bool)
  | wordStartHalf (unicode : Bool)
  | wordEndHalf (unicode : Bool)
deriving DecidableEq

/-- A place of a text: the characters before and after it. -/
structure Place where
  before : Option Char
  after : Option Char

def wordCharsOf (unicode : Bool) : CharSet :=
  if unicode then wordChars else asciiWordChars

def inWord (unicode : Bool) (c : Option Char) : Bool :=
  c.any (wordCharsOf unicode).contains

namespace Look

def holds (place : Place) : Look → Bool
  | startText => place.before.isNone
  | endText => place.after.isNone
  | startLine false => place.before.isNone || place.before == some '\n'
  | startLine true =>
    place.before.isNone || place.before == some '\n' ||
      (place.before == some '\r' && place.after != some '\n')
  | endLine false => place.after.isNone || place.after == some '\n'
  | endLine true =>
    place.after.isNone || place.after == some '\r' ||
      (place.after == some '\n' && place.before != some '\r')
  | wordBoundary unicode => inWord unicode place.before != inWord unicode place.after
  | notWordBoundary unicode => inWord unicode place.before == inWord unicode place.after
  | wordStart unicode => !inWord unicode place.before && inWord unicode place.after
  | wordEnd unicode => inWord unicode place.before && !inWord unicode place.after
  | wordStartHalf unicode => !inWord unicode place.before
  | wordEndHalf unicode => !inWord unicode place.after

end Look

/-- A regular expression. A group has the number of its opening parenthesis; sets of ASCII alone and
others are told apart by the way they were written. -/
inductive Regex where
  | empty
  | literal (text : List Char)
  | set (chars : CharSet) (unicode : Bool)
  | look (look : Look)
  | repetition (least : Nat) (most : Option Nat) (greedy : Bool) (body : Regex)
  | group (index : Nat) (body : Regex)
  | concat (parts : List Regex)
  | alternate (parts : List Regex)

namespace Regex

mutual
def same : Regex → Regex → Bool
  | empty, empty => true
  | literal a, literal b => a == b
  | set a unicode, set b unicode' => a == b && unicode == unicode'
  | look a, look b => a == b
  | repetition least most greedy body, repetition least' most' greedy' body' =>
    least == least' && most == most' && greedy == greedy' && same body body'
  | group index body, group index' body' => index == index' && same body body'
  | concat parts, concat parts' => sameAll parts parts'
  | alternate parts, alternate parts' => sameAll parts parts'
  | _, _ => false
def sameAll : List Regex → List Regex → Bool
  | [], [] => true
  | a :: as, b :: bs => same a b && sameAll as bs
  | _, _ => false
end

mutual
/-- The least number of bytes that a match takes; there is none where nothing can match. -/
def leastBytes? : Regex → Option Nat
  | empty => some 0
  | literal text => some (text.foldl (fun n c => n + c.utf8Size) 0)
  | set chars _ => chars.ranges.head?.map fun range => (Char.ofNat range.first).utf8Size
  | look _ => some 0
  | repetition least _ _ body => body.leastBytes?.map (· * least)
  | group _ body => body.leastBytes?
  | concat parts => leastBytesOfAll? 0 parts
  | alternate parts => leastBytesOfAny? none parts
def leastBytesOfAll? (done : Nat) : List Regex → Option Nat
  | [] => some done
  | part :: rest =>
    match part.leastBytes? with
    | none => none
    | some n => leastBytesOfAll? (done + n) rest
def leastBytesOfAny? (found : Option Nat) : List Regex → Option Nat
  | [] => found
  | part :: rest =>
    match part.leastBytes? with
    | none => none
    | some n => leastBytesOfAny? (some ((found.map (min n)).getD n)) rest
end

mutual
/-- Whether every match is the empty text. Sets that hold nothing do not count as empty. -/
def matchesOnlyEmpty : Regex → Bool
  | empty => true
  | literal text => text.isEmpty
  | set _ _ => false
  | look _ => true
  | repetition _ most _ body => most.isSome && body.matchesOnlyEmpty
  | group _ body => body.matchesOnlyEmpty
  | concat parts => matchesOnlyEmptyAll parts
  | alternate parts => matchesOnlyEmptyAll parts
def matchesOnlyEmptyAll : List Regex → Bool
  | [] => true
  | part :: rest => part.matchesOnlyEmpty && matchesOnlyEmptyAll rest
end

def ofSet (chars : CharSet) (unicode : Bool) : Regex :=
  match chars.single? with
  | some c => literal [c]
  | none => if chars.ranges.isEmpty then set chars false else set chars unicode

/-- A repetition of the empty text is no more than one, and one alone is none. -/
def repeated (least : Nat) (most : Option Nat) (greedy : Bool) (body : Regex) : Regex :=
  let onlyEmpty := body.matchesOnlyEmpty
  let least := if onlyEmpty then min least 1 else least
  let most := if onlyEmpty then some ((most.map (min 1)).getD 1) else most
  if least = 0 ∧ most = some 0 then empty
  else if least = 1 ∧ most = some 1 then body
  else repetition least most greedy body

def flush (text : List Char) (done : List Regex) : List Regex :=
  if text.isEmpty then done else literal text.reverse :: done

/-- Parts without empty ones and with neighbouring texts joined; `text` is the last of them, its
last character first, and `done` is what stands before it. -/
def joinTexts (text : List Char) (done : List Regex) : List Regex → List Regex
  | [] => (flush text done).reverse
  | empty :: rest => joinTexts text done rest
  | literal more :: rest => joinTexts (more.reverse ++ text) done rest
  | part :: rest => joinTexts [] (part :: flush text done) rest

def concatParts : Regex → List Regex
  | concat parts => parts
  | part => [part]

def alternateParts : Regex → List Regex
  | alternate parts => parts
  | part => [part]

def ofConcat (parts : List Regex) : Regex :=
  match joinTexts [] [] (parts.flatMap concatParts) with
  | [] => empty
  | [part] => part
  | parts => concat parts

def single? : Regex → Option CharSet
  | literal [c] => some (.single c)
  | _ => none

def set? : Regex → Option CharSet
  | set chars _ => some chars
  | _ => none

def commonLength : List Regex → List Regex → Nat
  | a :: as, b :: bs => if same a b then commonLength as bs + 1 else 0
  | _, _ => 0

def commonStart (first : List Regex) (others : List Regex) : Nat :=
  others.foldl (fun n other => min n (commonLength (first.take n) other.concatParts)) first.length

def joinAlternatives : List Regex → Regex
  | [] => set .empty false
  | [part] => part
  | parts =>
    match parts.mapM single?, parts.mapM set? with
    | some sets, _ => ofSet (.unionAll sets) true
    | none, some sets => ofSet (.unionAll sets) true
    | none, none => alternate parts

/-- One of several parts. What all of them begin with stands before them; the rests have nothing in
common then. -/
def ofAlternate (parts : List Regex) : Regex :=
  match joinAlternatives (parts.flatMap alternateParts) with
  | alternate (first :: others) =>
    let shared := if (first :: others).all (·.concatParts.length > 1) then
      commonStart first.concatParts others else 0
    if shared = 0 then alternate (first :: others)
    else
      let rests := (first :: others).map fun part => ofConcat (part.concatParts.drop shared)
      ofConcat (first.concatParts.take shared ++
        [joinAlternatives (rests.flatMap alternateParts)])
  | part => part

end Regex

/-- Which places of a text are reached, each once: the place `n` is behind `n` characters. -/
abbrev Reach := List Nat

def placeAt (text : Array Char) (n : Nat) : Place :=
  ⟨if n = 0 then none else text[n - 1]?, text[n]?⟩

namespace Reach

def step (text : Array Char) (kind : Char → Bool) (reach : Reach) : Reach :=
  reach.filterMap fun n => if text[n]?.any kind then some (n + 1) else none

def follow (text : Array Char) : List Char → Reach → Reach
  | [], reach => reach
  | c :: chars, reach =>
    if reach.isEmpty then reach else follow text chars (reach.step text (· == c))

def fresh (known : Std.HashSet Nat) (places : List Nat) : Reach × Std.HashSet Nat :=
  places.foldl (fun (new, known) n =>
    if known.contains n then (new, known) else (n :: new, known.insert n)) ([], known)

/-- Repeats a step at most `times` times and no longer than it leads to new places; `last` are the
places that are new so far. -/
def closure (step : Reach → Reach) :
    (times : Nat) → (known : Std.HashSet Nat) → (found last : Reach) → Reach
  | 0, _, found, _ => found
  | times + 1, known, found, last =>
    match fresh known (step last) with
    | ([], _) => found
    | (new, known) => closure step times known (new ++ found) new

def iterate (step : Reach → Reach) : Nat → Reach → Reach
  | 0, reach => reach
  | times + 1, reach => if reach.isEmpty then reach else iterate step times (step reach)

end Reach

namespace Regex

mutual
/-- The places at which a match can end that starts at one of the given places. A text of `n`
characters has `n + 1` places, so that no more rounds of a repetition add any. -/
def advance (text : Array Char) : Regex → Reach → Reach
  | .empty, reach => reach
  | .literal chars, reach => reach.follow text chars
  | .set chars _, reach => reach.step text chars.contains
  | .look condition, reach => reach.filter fun n => condition.holds (placeAt text n)
  | .repetition least most _ body, reach =>
    let rounds := match most with
      | none => text.size + 1
      | some most => min (most - least) (text.size + 1)
    let start := Reach.iterate (body.advance text) least reach
    Reach.closure (body.advance text) rounds (.ofList start) start start
  | .group _ body, reach => body.advance text reach
  | .concat parts, reach => advanceAll text parts reach
  | .alternate parts, reach => advanceAny text parts reach [] ∅
def advanceAll (text : Array Char) : List Regex → Reach → Reach
  | [], reach => reach
  | part :: rest, reach =>
    if reach.isEmpty then reach else advanceAll text rest (part.advance text reach)
def advanceAny (text : Array Char) :
    List Regex → (reach found : Reach) → (known : Std.HashSet Nat) → Reach
  | [], _, found, _ => found
  | part :: rest, reach, found, known =>
    let (new, known) := Reach.fresh known (part.advance text reach)
    advanceAny text rest reach (new ++ found) known
end

def isMatch (regex : Regex) (text : String) : Bool :=
  let chars := text.toList.toArray
  !(regex.advance chars (List.range (chars.size + 1))).isEmpty

end Regex

end CheckedTypes
