/-!
# Lines of generated source

Generated source is a list of lines, indented by four spaces for each level. A line has at most 89
bytes where the layout has a choice: lists stay on one line when they fit, and otherwise are filled
or stacked.
-/

namespace GameTables.Text

/-- The largest number of bytes of a line that could be broken. -/
def maxWidth : Nat := 89

def fits (line : String) : Bool :=
  line.utf8ByteSize ≤ maxWidth

def indent (level : Nat) (line : String) : String :=
  String.ofList (List.replicate (4 * level) ' ') ++ line

/-- Sets items one after the other, as many on a line as fit. A comma follows each item; the one
behind the very last item does not count. `line` is the line begun, `done` holds the lines before it,
last one first. -/
def fillFrom (level : Nat) (line : String) (done : List String) : List String → List String
  | [] => (line :: done).reverse
  | item :: rest =>
    let comma := if rest.isEmpty then 0 else 1
    if line.utf8ByteSize + 1 + item.utf8ByteSize + comma ≤ maxWidth then
      fillFrom level (line ++ " " ++ item ++ ",") done rest
    else fillFrom level (indent level (item ++ ",")) (line :: done) rest

/-- The lines of a list that is filled. -/
def fill (level : Nat) : List String → List String
  | [] => []
  | item :: rest => fillFrom level (indent level (item ++ ",")) [] rest

/-- The lines of a list with an item on each. -/
def stack (level : Nat) (items : List String) : List String :=
  items.map fun item => indent level (item ++ ",")

/-- A declaration that ends in a list: on one line when it fits, and else with the lines `spread` in
the place of the items. -/
def listDeclaration (level : Nat) (head : String) (items spread : List String) : List String :=
  let whole := indent level (head ++ "[" ++ ", ".intercalate items ++ "];")
  if fits whole then [whole]
  else indent level (head ++ "[") :: (spread ++ [indent level "];"])

/-- What an arm of a case distinction yields. -/
inductive Yield where
  | text (content : String)
  | call (function argument : String)

def Yield.line : Yield → String
  | .text content => content
  | .call function argument => function ++ "(" ++ argument ++ ")"

/-- The lines of what an arm yields when it does not stand behind its pattern. A call that does not fit
is broken around its argument. -/
def Yield.lines (level : Nat) (body : Yield) : List String :=
  let whole := indent level body.line
  match body with
  | .text _ => [whole]
  | .call function argument =>
    if fits whole then [whole]
    else [indent level (function ++ "("), indent (level + 1) (argument ++ ","), indent level ")"]

/-- The lines of an arm. The comma at its end does not count. -/
def arm (level : Nat) (pattern : String) (body : Yield) : List String :=
  let whole := indent level (pattern ++ " => " ++ body.line)
  if fits whole then [whole ++ ","]
  else
    indent level (pattern ++ " => \x7b") :: (body.lines (level + 1) ++ [indent level "\x7d"])

/-- The text of lines. -/
def joinLines (lines : List String) : String :=
  lines.foldl (fun text line => text ++ line ++ "\n") ""

/-- A generated file: a line that names the generator, an empty line and the source. -/
def generatedFile (generator : String) (lines : List String) : String :=
  "// Automatically generated by " ++ generator ++ "\n\n" ++ joinLines lines

end GameTables.Text
