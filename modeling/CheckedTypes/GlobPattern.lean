import CheckedTypes.SplitText

namespace CheckedTypes

inductive GlobFault where
  | wildcards (position : Nat)
  | recursiveWildcards (position : Nat)
  | range (position : Nat)

def GlobFault.message : GlobFault → String
  | wildcards position =>
    "Pattern syntax error near position " ++ toString position ++
      ": wildcards are either regular `*` or recursive `**`"
  | recursiveWildcards position =>
    "Pattern syntax error near position " ++ toString position ++
      ": recursive wildcards must form a single path component"
  | range position =>
    "Pattern syntax error near position " ++ toString position ++ ": invalid range pattern"

inductive GlobToken where
  | char (c : Char)
  | anyChar
  | anySequence
  | anyDirectories
  | oneOf (negated : Bool) (ranges : List (Char × Char))
deriving BEq

abbrev GlobPattern := List GlobToken

namespace GlobPattern

def charRanges : List Char → List (Char × Char)
  | first :: '-' :: last :: rest => (first, last) :: charRanges rest
  | c :: rest => (c, c) :: charRanges rest
  | [] => []

theorem length_tail_dropWhile_le (p : Char → Bool) (chars : List Char) :
    (chars.dropWhile p).tail.length ≤ chars.length :=
  Nat.le_trans (by simp) (List.dropWhile_suffix p).length_le

/-- The parts of a pattern; `before` is the character before `position`. -/
def ofChars (position : Nat) (before : Option Char) (chars : List Char) :
    Except GlobFault GlobPattern :=
  match chars with
  | [] => .ok []
  | '?' :: rest => (ofChars (position + 1) (some '?') rest).map (.anyChar :: ·)
  | '*' :: '*' :: '*' :: _ => .error (.wildcards (position + 2))
  | '*' :: '*' :: rest =>
    if before.all (· == '/') then
      match rest with
      | [] => .ok [.anyDirectories]
      | '/' :: rest => (ofChars (position + 3) (some '/') rest).map (.anyDirectories :: ·)
      | _ :: _ => .error (.recursiveWildcards (position + 2))
    else .error (.recursiveWildcards (position - 1))
  | '*' :: rest => (ofChars (position + 1) (some '*') rest).map (.anySequence :: ·)
  | '[' :: '!' :: first :: rest =>
    if rest.contains ']' then
      let inner := rest.takeWhile (· != ']')
      (ofChars (position + inner.length + 4) (some ']') (rest.dropWhile (· != ']')).tail).map
        (.oneOf true (charRanges (first :: inner)) :: ·)
    else .error (.range position)
  | '[' :: first :: rest =>
    if first != '!' && rest.contains ']' then
      let inner := rest.takeWhile (· != ']')
      (ofChars (position + inner.length + 3) (some ']') (rest.dropWhile (· != ']')).tail).map
        (.oneOf false (charRanges (first :: inner)) :: ·)
    else .error (.range position)
  | ['['] => .error (.range position)
  | c :: rest => (ofChars (position + 1) (some c) rest).map (.char c :: ·)
termination_by chars.length
decreasing_by
  all_goals
    simp only [List.length_cons]
    try have := length_tail_dropWhile_le (· != ']') rest
    omega

def ofText (text : String) : Except GlobFault GlobPattern :=
  ofChars 0 none text.toList

/-- The only text that a pattern without wildcards matches. -/
def literal? : GlobPattern → Option String
  | [] => some ""
  | .char c :: rest => (literal? rest).map fun text => String.ofList (c :: text.toList)
  | _ => none

def isRecursive (pattern : GlobPattern) : Bool :=
  pattern.contains .anyDirectories

end GlobPattern

def GlobToken.holds (c : Char) : GlobToken → Bool
  | char expected => c == expected
  | anyChar => true
  | oneOf negated ranges => ranges.any (fun (first, last) => first ≤ c && c ≤ last) != negated
  | _ => false

namespace GlobPattern

def spread : (reached : Bool) → List Bool → List Bool
  | _, [] => []
  | reached, here :: rest => (reached || here) :: spread (reached || here) rest

/-- The places of a name that are reached behind a token from the given ones. -/
def advance (name : List Char) (reach : List Bool) : GlobToken → List Bool
  | .anySequence => spread false reach
  | token => false :: List.zipWith (fun here c => here && token.holds c) reach name

/-- Whether a whole name matches. A name of `n` characters has `n + 1` places. -/
def isMatch (pattern : GlobPattern) (name : List Char) : Bool :=
  let start := true :: name.map fun _ => false
  (pattern.foldl (advance name) start).getLast? == some true

end GlobPattern

def hasGlobChars (text : String) : Bool :=
  text.toList.any "*?[\x7b".toList.contains

end CheckedTypes
