/-
This file holds JSON values as they are written, and decodes them into data.
Numbers stay numerals and texts may be without a meaning: an escape can name half
of a character, and then the text is well formed but denotes no string. Both
matter only to a decoder that asks, so a value that nobody reads is never refused
for them. A record is an object, or an array of its fields in order. Objects may
hold keys that the record does not know, but no known key twice; arrays may leave
out fields at the end, but not have more of them. Fields that are absent are left
to the record: it decides whether they have a default.
-/

import FormulaNet.Number.Numeral

namespace FormulaNet

inductive Json where
  | null
  | bool (b : Bool)
  | number (n : Number.Numeral)
  | string (s : Option String)
  | array (items : List Json)
  | object (members : List (Option String × Json))

namespace Json

/-! ### Plain data -/

def string? : Json → Option String
  | .string s => s
  | _ => none

def bool? : Json → Option Bool
  | .bool b => some b
  | _ => none

/-- A number of any form, by scaled reading. -/
def float? : Json → Option Float
  | .number n => n.scaled?
  | _ => none

/-- An integer between two bounds. -/
def integer? (least greatest : Int) : Json → Option Int
  | .number n =>
    match n.integer? with
    | some i => if least ≤ i ∧ i ≤ greatest then some i else none
    | none => none
  | _ => none

/-- A signed 64-bit integer. -/
def signedWord? : Json → Option Int := integer? Number.leastSigned Number.greatestSigned

/-- An unsigned 64-bit integer. -/
def unsignedWord? (j : Json) : Option Nat := (integer? 0 Number.largestWord j).map Int.toNat

def list? {α : Type} (item? : Json → Option α) : Json → Option (List α)
  | .array items => items.mapM item?
  | _ => none

/-- A value that may be null. -/
def nullable? {α : Type} (item? : Json → Option α) : Json → Option (Option α)
  | .null => some none
  | j => (item? j).map some

/-! ### Records -/

/-- The value under one key, unless the key is repeated. -/
def member? (members : List (Option String × Json)) (name : String) : Option (Option Json) :=
  match members.filter (·.1 == some name) with
  | [] => some none
  | [(_, v)] => some (some v)
  | _ => none

/-- The fields of a record, in the order of their names. -/
def fields? (names : List String) : Json → Option (List (Option Json))
  | .array items =>
    if items.length ≤ names.length then
      some (items.map some ++ List.replicate (names.length - items.length) none)
    else none
  | .object members =>
    if members.all (·.1.isSome) then names.mapM (member? members) else none
  | _ => none

/-- A field that must be there. -/
def required? {α : Type} (item? : Json → Option α) (field : Option Json) : Option α :=
  field.bind item?

/-- A field that has a default. -/
def defaulted? {α : Type} (default : α) (item? : Json → Option α) : Option Json → Option α
  | none => some default
  | some j => item? j

end Json

end FormulaNet
