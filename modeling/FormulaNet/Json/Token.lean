/-
This file cuts JSON texts into tokens. Texts are read as pieces, characters and
numbered 16-bit units, and put together afterwards: two units that are the
halves of one character become that character, and a half without its partner
leaves the text without a meaning.
-/

import FormulaNet.Json.Basic

namespace FormulaNet.Json

inductive Token where
  | openArray
  | closeArray
  | openObject
  | closeObject
  | colon
  | comma
  | null
  | bool (b : Bool)
  | number (n : Number.Numeral)
  | string (s : Option String)

/-! ### Texts -/

/-- One piece of a text: a character, or a 16-bit unit given by number. -/
inductive Piece where
  | char (c : Char)
  | unit (n : Nat)

/-- The value of a hexadecimal digit. -/
def hexDigit? (c : Char) : Option Nat :=
  if '0' ≤ c ∧ c ≤ '9' then some (c.toNat - 48)
  else if 'a' ≤ c ∧ c ≤ 'f' then some (c.toNat - 87)
  else if 'A' ≤ c ∧ c ≤ 'F' then some (c.toNat - 55)
  else none

/-- The unit written by four hexadecimal digits. -/
def hexUnit? (a b c d : Char) : Option Nat := do
  let a ← hexDigit? a
  let b ← hexDigit? b
  let c ← hexDigit? c
  let d ← hexDigit? d
  pure (((a * 16 + b) * 16 + c) * 16 + d)

/-- The character behind a backslash, for the escapes of one letter. -/
def escaped? : Char → Option Char
  | '"' => some '"'
  | '\\' => some '\\'
  | '/' => some '/'
  | 'b' => some '\x08'
  | 'f' => some '\x0c'
  | 'n' => some '\n'
  | 'r' => some '\r'
  | 't' => some '\t'
  | _ => none

/-- Takes the rest of a text, up to its closing quote, off the front. Control characters must be
escaped. -/
def scanPieces : List Char → Option (List Piece × List Char)
  | [] => none
  | '"' :: rest => some ([], rest)
  | '\\' :: 'u' :: a :: b :: c :: d :: rest =>
    match hexUnit? a b c d with
    | some n => (scanPieces rest).map fun (pieces, rest) => (.unit n :: pieces, rest)
    | none => none
  | '\\' :: c :: rest =>
    match escaped? c with
    | some c => (scanPieces rest).map fun (pieces, rest) => (.char c :: pieces, rest)
    | none => none
  | c :: rest =>
    if c.toNat < 0x20 ∨ c = '\\' then none
    else (scanPieces rest).map fun (pieces, rest) => (.char c :: pieces, rest)

/-- Whether a unit is the first half of a character. -/
def isHighHalf (n : Nat) : Bool := decide (0xD800 ≤ n ∧ n ≤ 0xDBFF)

/-- Whether a unit is the second half of a character. -/
def isLowHalf (n : Nat) : Bool := decide (0xDC00 ≤ n ∧ n ≤ 0xDFFF)

/-- The characters of a list of pieces, if every half finds its partner. -/
def joinPieces : List Piece → Option (List Char)
  | [] => some []
  | .char c :: rest => (joinPieces rest).map (c :: ·)
  | .unit high :: .unit low :: rest =>
    if isHighHalf high then
      if isLowHalf low then
        (joinPieces rest).map
          (Char.ofNat (0x10000 + (high - 0xD800) * 0x400 + (low - 0xDC00)) :: ·)
      else none
    else if isLowHalf high then none
    else (joinPieces (.unit low :: rest)).map (Char.ofNat high :: ·)
  | .unit n :: rest =>
    if isHighHalf n ∨ isLowHalf n then none
    else (joinPieces rest).map (Char.ofNat n :: ·)

/-! ### Tokens -/

/-- Whether a numeral is written as JSON wants it: digits on both sides of a point, and no zero
before another digit. -/
def isJsonNumeral (n : Number.Numeral) : Bool :=
  (match n.whole with
    | [] => false
    | ['0'] => true
    | c :: _ => c != '0') && n.fraction != some []

/-- Takes one token off the front of a text without leading blanks. -/
def scanToken : List Char → Option (Token × List Char)
  | [] => none
  | '[' :: rest => some (.openArray, rest)
  | ']' :: rest => some (.closeArray, rest)
  | '\x7b' :: rest => some (.openObject, rest)
  | '\x7d' :: rest => some (.closeObject, rest)
  | ':' :: rest => some (.colon, rest)
  | ',' :: rest => some (.comma, rest)
  | 'n' :: 'u' :: 'l' :: 'l' :: rest => some (.null, rest)
  | 't' :: 'r' :: 'u' :: 'e' :: rest => some (.bool true, rest)
  | 'f' :: 'a' :: 'l' :: 's' :: 'e' :: rest => some (.bool false, rest)
  | '"' :: rest =>
    (scanPieces rest).map fun (pieces, rest) =>
      (.string ((joinPieces pieces).map String.ofList), rest)
  | c :: rest =>
    if c = '-' ∨ c.isDigit then
      match Number.Numeral.scan? (c :: rest) with
      | some (n, rest) => if isJsonNumeral n then some (.number n, rest) else none
      | none => none
    else none

/-- Blanks between tokens. -/
def isGap (c : Char) : Bool := c == ' ' || c == '\n' || c == '\t' || c == '\r'

/-- The tokens of a text, of which there are at most `limit`. -/
def tokensUpTo : Nat → List Char → Option (List Token)
  | 0, cs => if cs.all isGap then some [] else none
  | limit + 1, cs =>
    match cs.dropWhile isGap with
    | [] => some []
    | cs =>
      match scanToken cs with
      | some (token, rest) => (tokensUpTo limit rest).map (token :: ·)
      | none => none

/-- The tokens of a text. Each takes at least one character, so there are no more of them than
characters. -/
def tokens? (text : String) : Option (List Token) :=
  tokensUpTo text.toList.length text.toList

end FormulaNet.Json
