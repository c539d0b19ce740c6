/-
This file does three things to texts: it looks for a piece of one inside another
and replaces it, from left to right and without overlaps; it puts a text in
quotes; and it brackets a list of them. Inside quotes, quotes and backslashes are
escaped, the common controls have a letter each, and every other hidden character
is written by its code point.
-/

import FormulaNet.Text.Classes

namespace FormulaNet.Text

/-! ### Pieces -/

/-- Whether `piece` occurs in a list of characters. -/
def occurs (piece : List Char) : List Char → Bool
  | [] => piece.isEmpty
  | c :: cs => piece.isPrefixOf (c :: cs) || occurs piece cs

/-- Replaces the occurrences of `piece`, with `skip` characters of the last one still to pass. -/
def substitute (piece new : List Char) (skip : Nat) : List Char → List Char
  | [] => []
  | c :: cs =>
    match skip with
    | skip' + 1 => substitute piece new skip' cs
    | 0 =>
      if piece.isPrefixOf (c :: cs) then new ++ substitute piece new (piece.length - 1) cs
      else c :: substitute piece new 0 cs

/-- Whether `piece` occurs in `text`. -/
def mentions (piece text : String) : Bool :=
  occurs piece.toList text.toList

/-- Every occurrence of `piece` in `text` replaced by `new`. -/
def replace (piece new text : String) : String :=
  String.ofList (substitute piece.toList new.toList 0 text.toList)

/-! ### Quotes -/

/-- A code point in lower-case hexadecimal, without padding. -/
def codePoint (c : Char) : List Char :=
  '\\' :: 'u' :: '\x7b' :: (Nat.toDigits 16 c.toNat ++ ['\x7d'])

/-- One character inside quotes. -/
def escape (c : Char) : List Char :=
  match c with
  | '\x00' => ['\\', '0']
  | '\t' => ['\\', 't']
  | '\r' => ['\\', 'r']
  | '\n' => ['\\', 'n']
  | '\\' => ['\\', '\\']
  | '"' => ['\\', '"']
  | c => if isHidden c then codePoint c else [c]

/-- A text in double quotes. -/
def quoted (text : String) : String :=
  String.ofList ('"' :: (text.toList.flatMap escape ++ ['"']))

/-- A bracketed list of items, divided by commas. -/
def bracketed (items : List String) : String :=
  "[" ++ ", ".intercalate items ++ "]"

end FormulaNet.Text
