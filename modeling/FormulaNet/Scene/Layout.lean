/-
This file describes what a node offers: its layout is a list of attributes, each
with a long name and often a short one. A compound attribute has children, which
have names of their own. A multi attribute is an array whose elements are
addressed by index; its children exist only inside an element.
-/

namespace FormulaNet

namespace Attribute

structure Child where
  long : String
  short : Option String
  deriving DecidableEq

/-- Whether a name is the long or the short one of a child. -/
def Child.answersTo (c : Child) (name : String) : Bool := c.long == name || c.short == some name

end Attribute

structure Attribute where
  long : String
  short : Option String
  children : List Attribute.Child
  multi : Bool
  default : Float
  deriving DecidableEq

namespace Attribute

def answersTo (a : Attribute) (name : String) : Bool := a.long == name || a.short == some name

def child? (a : Attribute) (name : String) : Option Child := a.children.find? (·.answersTo name)

def isCompound (a : Attribute) : Bool := !a.children.isEmpty

/-- The long names of the children. -/
def childNames (a : Attribute) : List String := a.children.map (·.long)

/-- An attribute of one number. -/
def scalar (long : String) (short : Option String) (default : Float) : Attribute :=
  ⟨long, short, [], false, default⟩

/-- A compound whose children are named by endings, without short names. -/
def suffixed (long : String) (endings : List String) (default : Float) : Attribute :=
  ⟨long, none, endings.map fun e => ⟨long ++ e, none⟩, false, default⟩

/-- A compound with short names throughout. -/
def vector (long short : String) (children : List (String × String)) (default : Float) :
    Attribute :=
  ⟨long, some short, children.map fun (l, s) => ⟨l, some s⟩, false, default⟩

/-- The array of attributes like this one. -/
def array (a : Attribute) : Attribute := { a with multi := true }

end Attribute

/-- The attributes of a node, in order. -/
abbrev Layout := List Attribute

namespace Layout

/-- The first attribute of a name. -/
def attribute? (layout : Layout) (name : String) : Option Attribute :=
  layout.find? (·.answersTo name)

/-- The first child of a name, with the attribute it belongs to. Children of arrays have no name
outside their element. -/
def child? (layout : Layout) (name : String) : Option (Attribute × Attribute.Child) :=
  layout.findSome? fun a => if a.multi then none else (a.child? name).map fun c => (a, c)

/-- Whether a name is in use, be it by a child of an array. -/
def isTaken (layout : Layout) (name : String) : Bool :=
  layout.any fun a => a.answersTo name || (a.child? name).isSome

end Layout

end FormulaNet
