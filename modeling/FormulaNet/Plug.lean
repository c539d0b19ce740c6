/-
This file holds the text of plugs. A plug is an attribute path on a node,
written `node.attr`: the node is what stands before the first dot, the attribute
path is everything behind it. Neither may be empty, and the path may hold
further dots and indices. The names built from plugs (node names, published
names) are plain filters on characters and stand here too.
-/

namespace FormulaNet.Plug

/-- Divides a list at the first place where `stop` holds, leaving that place out. -/
def cut? (stop : Char → Bool) : List Char → Option (List Char × List Char)
  | [] => none
  | c :: cs =>
    if stop c then some ([], cs)
    else (cut? stop cs).map fun (front, back) => (c :: front, back)

/-- The text before and behind the first occurrence of a character. -/
def cutAt? (mark : Char) (text : String) : Option (String × String) :=
  (cut? (· == mark) text.toList).map fun (front, back) => (String.ofList front, String.ofList back)

/-- The node and the attribute path of a plug text. -/
def split? (plug : String) : Option (String × String) :=
  match cutAt? '.' plug with
  | some (node, attr) => if node = "" ∨ attr = "" then none else some (node, attr)
  | none => none

/-- The plug of an attribute path on a node. -/
def join (node attr : String) : String := node ++ "." ++ attr

/-- What stands behind the last occurrence of a character, or everything. -/
def afterLast (mark : Char) : List Char → List Char
  | [] => []
  | c :: cs => if cs.contains mark then afterLast mark cs else if c = mark then cs else c :: cs

/-- The last segment of a dotted path. -/
def lastSegment (path : String) : String := String.ofList (afterLast '.' path.toList)

/-- The name of a node without the groups above it. -/
def baseName (node : String) : String := String.ofList (afterLast '|' node.toList)

/-! ### Names -/

/-- Characters that stand in node names as they are: ASCII letters, digits and the underscore. -/
def isNameChar (c : Char) : Bool := c.isAlphanum || c == '_'

/-- A text made into a node name: all other characters become underscores. -/
def sanitize (text : String) : String :=
  String.ofList (text.toList.map fun c => if isNameChar c then c else '_')

/-- The ASCII letters and digits of a text. -/
def alphanumerics (text : String) : String :=
  String.ofList (text.toList.filter Char.isAlphanum)

end FormulaNet.Plug
