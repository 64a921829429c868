import CheckedTypes.CharAge
import CheckedTypes.ScriptExtension
import CheckedTypes.TextBoundary

namespace CheckedTypes

/-- Letters count without case; blanks, underscores, hyphens, what is beyond ASCII and a leading
`is` do not count. -/
def looseName (name : List Char) : String :=
  let (stated, body) := match name with
    | i :: s :: rest => if i.toLower = 'i' ∧ s.toLower = 's' then (true, rest) else (false, name)
    | _ => (false, name)
  let letters := (body.filter fun c => c.toNat < 0x80 && c != ' ' && c != '_' && c != '-').map
    Char.toLower
  if stated && letters == ['c'] then "isc" else String.ofList letters

namespace GeneralCategory

def longNames : List (String × List GeneralCategory) :=
  [("uppercaseletter", [lu]), ("lowercaseletter", [ll]), ("titlecaseletter", [lt]),
   ("modifierletter", [lm]), ("otherletter", [lo]), ("nonspacingmark", [mn]),
   ("spacingmark", [mc]), ("enclosingmark", [me]), ("decimalnumber", [nd]), ("digit", [nd]),
   ("letternumber", [nl]), ("othernumber", [no]), ("connectorpunctuation", [pc]),
   ("dashpunctuation", [pd]), ("openpunctuation", [ps]), ("closepunctuation", [pe]),
   ("initialpunctuation", [pi]), ("finalpunctuation", [pf]), ("otherpunctuation", [po]),
   ("mathsymbol", [sm]), ("currencysymbol", [sc]), ("modifiersymbol", [sk]),
   ("othersymbol", [so]), ("spaceseparator", [zs]), ("lineseparator", [zl]),
   ("paragraphseparator", [zp]), ("control", [cc]), ("cntrl", [cc]), ("format", [cf]),
   ("privateuse", [co]), ("unassigned", [cn]),
   ("lc", [lu, ll, lt]), ("casedletter", [lu, ll, lt]),
   ("l", [lu, ll, lt, lm, lo]), ("letter", [lu, ll, lt, lm, lo]),
   ("m", [mn, mc, me]), ("mark", [mn, mc, me]), ("combiningmark", [mn, mc, me]),
   ("n", [nd, nl, no]), ("number", [nd, nl, no]),
   ("p", [pc, pd, ps, pe, pi, pf, po]), ("punctuation", [pc, pd, ps, pe, pi, pf, po]),
   ("punct", [pc, pd, ps, pe, pi, pf, po]),
   ("s", [sm, sc, sk, so]), ("symbol", [sm, sc, sk, so]),
   ("z", [zs, zl, zp]), ("separator", [zs, zl, zp]),
   ("c", [cc, cf, co, cn]), ("other", [cc, cf, co, cn])]

/-- The categories of a loose name. Surrogates are no characters and have no name. -/
def ofName? (name : String) : Option (List GeneralCategory) :=
  match all.find? fun category => category != cs && category.code.toLower == name with
  | some category => some [category]
  | none => longNames.lookup name

end GeneralCategory

namespace CharSet

def ofCategoryName? (name : String) : Option CharSet :=
  if name = "any" then some all
  else if name = "ascii" then some ascii
  else if name = "assigned" then some (complement (GeneralCategory.chars [.cn]))
  else (GeneralCategory.ofName? name).map GeneralCategory.chars

def ofScriptName? (name : String) : Option CharSet :=
  (scriptCode? name).map scriptChars

/-- A version is given by its number, or by its number behind a `v` without the point. -/
def ofAge? (name : String) : Option CharSet :=
  addedChars.findSome? fun (version, _) =>
    let digits := String.ofList (version.toList.filter (· != '.'))
    if name = version ∨ name = "v" ++ digits then charsOfAge? version else none

def ofName? (name : List Char) : Option CharSet :=
  let name := looseName name
  BinaryProperty.chars? name <|> ofCategoryName? name <|> ofScriptName? name

def ofNameAndValue? (name value : List Char) : Option CharSet :=
  let name := looseName name
  let value := looseName value
  if ["gc", "generalcategory"].contains name then ofCategoryName? value
  else if ["sc", "script"].contains name then ofScriptName? value
  else if ["scx", "scriptextensions"].contains name then
    (scriptCode? value).map extendedScriptChars
  else if name = "age" then ofAge? value
  else if ["gcb", "graphemeclusterbreak"].contains name then
    BoundaryClass.chars? BoundaryClass.ofGraphemes value
  else if ["wb", "wordbreak"].contains name then
    BoundaryClass.chars? BoundaryClass.ofWords value
  else if ["sb", "sentencebreak"].contains name then
    BoundaryClass.chars? BoundaryClass.ofSentences value
  else none

end CharSet

end CheckedTypes
