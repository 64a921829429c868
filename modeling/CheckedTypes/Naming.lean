namespace CheckedTypes

/-- Hyphens become underscores and the first character is upper-cased, in ASCII only. -/
def renderName (segment : String) : String :=
  match segment.toList.map (fun c => if c = '-' then '_' else c) with
  | [] => ""
  | first :: rest => String.ofList (first.toUpper :: rest)

/-- The identifier of a definition path is its rendered segments, one after the other. -/
def renderPath (path : List String) : String :=
  String.join (path.map renderName)

end CheckedTypes
