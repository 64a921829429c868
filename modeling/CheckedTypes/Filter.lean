import CheckedTypes.JsonReader
import CheckedTypes.JsonText
import CheckedTypes.JsonPointer

namespace CheckedTypes

/-- What a filter selects inside a value; a number that is no integer selects nothing. -/
inductive Selection where
  | key (name : String)
  | position (index : Int)
  | number
  | each

def filterIntegerLimit : Nat := 0x7fffffffffffffff

/-- The place that a numeral, or what is as far below zero, stands for. -/
def Selection.ofNumeral (negative : Bool) : Json → Selection
  | .number (.integer n) =>
    if n ≤ filterIntegerLimit then .position (if negative then -n else n) else .number
  | _ => .number

inductive Filter where
  | identity
  | empty
  | literal (value : Json)
  | select (source : Filter) (selection : Selection) (optional : Bool)
  | attempt (source : Filter)
  | pipe (first second : Filter)
  | both (first second : Filter)
  | collect (source : Option Filter)
  | record (members : List (String × Filter))

/-- The values that a filter yields, and whether it fails after the last of them. -/
structure FilterOutput where
  values : List Json
  failed : Bool := false

namespace FilterOutput

def failure : FilterOutput :=
  { values := [], failed := true }

def ofOption : Option (List Json) → FilterOutput
  | none => failure
  | some values => { values }

/-- Nothing follows a failure. -/
def append (first second : FilterOutput) : FilterOutput :=
  if first.failed then first else { second with values := first.values ++ second.values }

def bind (output : FilterOutput) (next : Json → FilterOutput) : FilterOutput :=
  (output.values.foldr (fun value rest => (next value).append rest) { values := [] }).append
    { values := [], failed := output.failed }

def recover (output : FilterOutput) : FilterOutput :=
  { output with failed := false }

end FilterOutput

namespace Selection

/-- What is selected; an absent member or element is null. -/
def values? : Selection → Json → Option (List Json)
  | key name, .object members => some [(members.lookup name).getD .null]
  | position index, .list elements =>
    let index := if index < 0 then index + elements.length else index
    some [if index < 0 then .null else (elements[index.toNat]?).getD .null]
  | each, .list elements => some elements
  | each, .object members => some (members.map Prod.snd)
  | _, _ => none

end Selection

namespace Filter

mutual
def run (value : Json) : Filter → FilterOutput
  | .identity => { values := [value] }
  | .empty => { values := [] }
  | .literal constant => { values := [constant] }
  | .select source selection optional =>
    (source.run value).bind fun value =>
      let output := FilterOutput.ofOption (selection.values? value)
      if optional then output.recover else output
  | .attempt source => (source.run value).recover
  | .pipe first second => (first.run value).bind fun value => second.run value
  | .both first second => (first.run value).append (second.run value)
  | .collect none => { values := [.list []] }
  | .collect (some source) =>
    let output := source.run value
    if output.failed then .failure else { values := [.list output.values] }
  | .record members => runMembers value [] members
/-- The objects of all choices for the members; the last member changes fastest. -/
def runMembers (value : Json) (done : List (String × Json)) :
    List (String × Filter) → FilterOutput
  | [] => { values := [.object done] }
  | (name, source) :: rest =>
    (source.run value).bind fun member => runMembers value (insertMember name member done) rest
end

/-- What a filter yields, unless it fails. Outputs are texts that are read again. -/
def outputs? (filter : Filter) (value : Json) : Option (List Json) :=
  let output := filter.run value
  if output.failed then none
  else output.values.mapM fun value => (Json.ofText value.text).toOption

end Filter

end CheckedTypes
