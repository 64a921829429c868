import CheckedTypes.CharProperty

namespace CheckedTypes

/-- A character of a text that is shown to a reader: what would not be seen is escaped. -/
def shownChar (c : Char) : List Char :=
  if c = '"' ∨ c = '\\' then ['\\', c]
  else if c = '\t' then ['\\', 't']
  else if c = '\r' then ['\\', 'r']
  else if c = '\n' then ['\\', 'n']
  else if c = '\x00' then ['\\', '0']
  else if visible.contains c then [c]
  else '\\' :: 'u' :: '\x7b' :: (Nat.toDigits 16 c.toNat ++ ['\x7d'])

def showQuoted (text : String) : String :=
  String.ofList ('"' :: (text.toList.flatMap shownChar ++ ['"']))

/-- A path between quotes, in which apostrophes are escaped, too. -/
def showQuotedPath (path : String) : String :=
  let shown (c : Char) := if c = '\x27' then ['\\', c] else shownChar c
  String.ofList ('"' :: (path.toList.flatMap shown ++ ['"']))

end CheckedTypes
