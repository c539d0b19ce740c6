/-
This file reads JSON values from tokens. The reader takes one token at a time
and keeps the arrays and objects that are still open on a stack, innermost
first, so reading is a fold and nesting has no limit.
-/

import FormulaNet.Json.Token

namespace FormulaNet.Json

/-- An array or object whose next value is being read. What is complete stands in reverse. -/
inductive Frame where
  | array (items : List Json)
  | object (members : List (Option String × Json)) (key : Option String)

/-- What the reader has read and what may come next. -/
inductive Reading where
  /-- A value. -/
  | value (stack : List Frame)
  /-- The first item of an array, or its end. -/
  | item (stack : List Frame)
  /-- A comma, or the end of an array. -/
  | afterItem (items : List Json) (stack : List Frame)
  /-- The first key of an object, or its end. -/
  | firstKey (stack : List Frame)
  /-- A key. -/
  | key (members : List (Option String × Json)) (stack : List Frame)
  /-- A colon. -/
  | colon (members : List (Option String × Json)) (key : Option String) (stack : List Frame)
  /-- A comma, or the end of an object. -/
  | afterMember (members : List (Option String × Json)) (stack : List Frame)
  /-- Nothing. -/
  | finished (result : Json)

namespace Reading

/-- Puts a complete value where it belongs. -/
def complete (v : Json) : List Frame → Reading
  | [] => finished v
  | .array items :: stack => afterItem (v :: items) stack
  | .object members k :: stack => afterMember ((k, v) :: members) stack

/-- The token that begins a value. -/
def beginValue (stack : List Frame) : Token → Option Reading
  | .null => some (complete .null stack)
  | .bool b => some (complete (.bool b) stack)
  | .number n => some (complete (.number n) stack)
  | .string s => some (complete (.string s) stack)
  | .openArray => some (item stack)
  | .openObject => some (firstKey stack)
  | _ => none

/-- Takes the next token. -/
def step : Reading → Token → Option Reading
  | value stack, token => beginValue stack token
  | item stack, .closeArray => some (complete (.array []) stack)
  | item stack, token => beginValue (.array [] :: stack) token
  | afterItem items stack, .comma => some (value (.array items :: stack))
  | afterItem items stack, .closeArray => some (complete (.array items.reverse) stack)
  | firstKey stack, .closeObject => some (complete (.object []) stack)
  | firstKey stack, .string k => some (colon [] k stack)
  | key members stack, .string k => some (colon members k stack)
  | colon members k stack, .colon => some (value (.object members k :: stack))
  | afterMember members stack, .comma => some (key members stack)
  | afterMember members stack, .closeObject => some (complete (.object members.reverse) stack)
  | _, _ => none

end Reading

/-- The value that a list of tokens writes. -/
def ofTokens? (tokens : List Token) : Option Json :=
  match tokens.foldlM Reading.step (.value []) with
  | some (.finished v) => some v
  | _ => none

/-- The value that a text writes, with nothing but blanks around it. -/
def read? (text : String) : Option Json := (tokens? text).bind ofTokens?

end FormulaNet.Json
