namespace CheckedTypes

/-- The lines of a text; a carriage return right before the line feed belongs to the line end. -/
def textLines : List Char → List (List Char)
  | [] => []
  | '\r' :: '\n' :: rest => [] :: textLines rest
  | '\n' :: rest => [] :: textLines rest
  | c :: rest =>
    match textLines rest with
    | [] => [[c]]
    | line :: lines => (c :: line) :: lines

/-- A text under construction that indents each line when its first character arrives. -/
structure CodeWriter where
  tab : String
  text : String := ""
  depth : Nat := 0
  atLineStart : Bool := true

namespace CodeWriter

def isEmpty (w : CodeWriter) : Bool :=
  w.text.isEmpty

def indentation (w : CodeWriter) : String :=
  if w.atLineStart then String.join (List.replicate w.depth w.tab) else ""

/-- Continues the current line; writing nothing does not indent. -/
def write (w : CodeWriter) (text : String) : CodeWriter :=
  if text.isEmpty then w
  else { w with text := w.text ++ w.indentation ++ text, atLineStart := false }

def newline (w : CodeWriter) : CodeWriter :=
  { w with text := w.text ++ "\n", atLineStart := true }

def line (w : CodeWriter) (text : String) : CodeWriter :=
  (w.write text).newline

def indent (w : CodeWriter) : CodeWriter :=
  { w with depth := w.depth + 1 }

def dedent (w : CodeWriter) : CodeWriter :=
  { w with depth := w.depth - 1 }

def openBlock (w : CodeWriter) (header : String) : CodeWriter :=
  (w.line header).indent

def closeBlock (w : CodeWriter) (footer : String) : CodeWriter :=
  w.dedent.line footer

/-- Writes every line of a finished text at the current depth. -/
def embed (w : CodeWriter) (text : String) : CodeWriter :=
  (textLines text.toList).foldl (fun w line => w.line (String.ofList line)) w

def separate (w : CodeWriter) : CodeWriter :=
  if w.isEmpty then w else w.newline

end CodeWriter

/-- A step of writing that does not look at what was written before. -/
inductive Piece where
  | text (text : String)
  | newline
  | indent
  | dedent

def CodeWriter.put (w : CodeWriter) : Piece → CodeWriter
  | .text text => w.write text
  | .newline => w.newline
  | .indent => w.indent
  | .dedent => w.dedent

def CodeWriter.putAll (w : CodeWriter) (pieces : List Piece) : CodeWriter :=
  pieces.foldl put w

end CheckedTypes
