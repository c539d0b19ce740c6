/-
This file finds the place an attribute path designates on a layout. A path is a
name, perhaps with an index in brackets, perhaps followed by a dot and the name
of a child. Long and short names, and a child with or without its parent in
front, may designate one place; every place has one canonical path, made of long
names only.
-/

import FormulaNet.Number.Numeral
import FormulaNet.Plug
import FormulaNet.Scene.Layout

namespace FormulaNet

/-! ### Paths -/

/-- An attribute path in its parts. -/
structure AttrPath where
  name : String
  index : Option Nat
  tail : Option String
  deriving DecidableEq

namespace AttrPath

/-- Reads the digits of an index: at least one, with leading zeros and a plus sign allowed, and no
more than a 64-bit word holds. -/
def readIndex? (digits : List Char) : Option Nat :=
  let digits := match digits with
    | '+' :: rest => rest
    | rest => rest
  if digits ≠ [] ∧ digits.all Char.isDigit ∧ Number.digitsValue digits ≤ Number.largestWord then
    some (Number.digitsValue digits)
  else none

/-- Reads a name with an optional index behind it. -/
def readSegment? (segment : String) : Option (String × Option Nat) :=
  match Plug.cutAt? '[' segment with
  | none => some (segment, none)
  | some (name, rest) =>
    if rest.toList.getLast? = some ']' then
      (readIndex? rest.toList.dropLast).map fun index => (name, some index)
    else none

/-- Reads an attribute path. -/
def read? (path : String) : Option AttrPath :=
  match Plug.cutAt? '.' path with
  | none => (readSegment? path).map fun (name, index) => ⟨name, index, none⟩
  | some (head, tail) => (readSegment? head).map fun (name, index) => ⟨name, index, some tail⟩

end AttrPath

/-! ### Places -/

/-- A place on a layout: an attribute as a whole, a child of one, an element of an array, or a
child inside an element. -/
inductive Place where
  | whole (a : Attribute)
  | child (a : Attribute) (c : Attribute.Child)
  | element (a : Attribute) (index : Nat)
  | elementChild (a : Attribute) (index : Nat) (c : Attribute.Child)
  deriving DecidableEq

namespace Place

/-- The attribute a place belongs to. -/
def owner : Place → Attribute
  | whole a => a
  | child a _ => a
  | element a _ => a
  | elementChild a _ _ => a

/-- The path of an array element. -/
def elementPath (a : Attribute) (index : Nat) : String := a.long ++ "[" ++ toString index ++ "]"

/-- The canonical path. -/
def path : Place → String
  | whole a => a.long
  | child _ c => c.long
  | element a index => elementPath a index
  | elementChild a index c => elementPath a index ++ "." ++ c.long

/-- What a place holds before anything is set. -/
def default (p : Place) : Float := p.owner.default

/-- The children of a compound, by long name. An element of an array does not list its own. -/
def children? : Place → Option (List String)
  | whole a => if a.isCompound then some a.childNames else none
  | _ => none

/-- The compound that a child belongs to, by long name. -/
def parent? : Place → Option String
  | child a _ => some a.long
  | _ => none

/-- The paths that a compound place is read from, one for each channel. -/
def parts? : Place → Option (List String)
  | whole a => if a.isCompound then some a.childNames else none
  | element a index =>
    if a.isCompound then some (a.childNames.map (elementPath a index ++ "." ++ ·)) else none
  | _ => none

/-- How many channels a place has. -/
def width (p : Place) : Nat :=
  match p.parts? with
  | some parts => parts.length
  | none => 1

end Place

/-- The place a path designates. -/
def Layout.locate? (layout : Layout) (path : AttrPath) : Option Place :=
  match layout.attribute? path.name with
  | none =>
    match path.index, path.tail with
    | none, none => (layout.child? path.name).map fun (a, c) => .child a c
    | _, _ => none
  | some a =>
    match path.index, path.tail with
    | none, none => some (.whole a)
    | none, some tail => if a.multi then none else (a.child? tail).map (.child a)
    | some index, none => if a.multi then some (.element a index) else none
    | some index, some tail =>
      if a.multi then (a.child? tail).map (.elementChild a index) else none

end FormulaNet
