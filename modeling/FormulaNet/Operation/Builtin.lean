/-
This file is the table of built-in operations, in the order of their names. Sums
and averages repeat one template; products, comparisons and the named helpers
have fixed slots.
-/

import FormulaNet.Operation.Registry

namespace FormulaNet

namespace Operation

/-- A name with each of three endings. -/
def triple (stem : String) (endings : List String) : List String := endings.map (stem ++ ·)

def xyz (stem : String) : List String := triple stem ["X", "Y", "Z"]

def rgb (stem : String) : List String := triple stem ["R", "G", "B"]

/-- Operations on any number of vectors. -/
def vectorSum (name : String) (mode : Int) : Operation :=
  { name, mode := some mode, nodeType := "plusMinusAverage", multiIndex := true,
    inputs := [triple "input3D[\x7bmulti_index\x7d].input3D" ["x", "y", "z"]],
    output := .channels (triple "output3D" ["x", "y", "z"]) }

/-- Operations on two vectors, channel by channel. -/
def product (name : String) (mode : Int) : Operation :=
  { name, mode := some mode, nodeType := "multiplyDivide", multiIndex := false,
    inputs := [xyz "input1", xyz "input2"], output := .channels (xyz "output") }

/-- Tests of one number against another. -/
def test (name : String) (mode : Int) : Operation :=
  { name, mode := some mode, nodeType := "condition", multiIndex := false,
    inputs := [["firstTerm"], ["secondTerm"]],
    output := .deferred ⟨[rgb "colorIfTrue", rgb "colorIfFalse"], rgb "outColor"⟩ }

/-- Products of two vectors as vectors. -/
def vectorProduct (name : String) (mode : Int) (output : List String) : Operation :=
  { name, mode := some mode, nodeType := "vectorProduct", multiIndex := false,
    inputs := [xyz "input1", xyz "input2", ["normalizeOutput"]], output := .channels output }

/-- Operations whose node does one thing only. -/
def plain (name nodeType : String) (inputs : List (List String)) (output : List String) :
    Operation :=
  { name, nodeType, inputs, mode := none, multiIndex := false, output := .channels output }

/-- The built-in operations, in the order of their names. -/
def builtin : List Operation :=
  [ vectorSum "add" 1,
    plain "angle_between" "angleBetween" [xyz "vector1", xyz "vector2"] ["angle"],
    vectorSum "average" 3,
    plain "blend" "blendColors" [rgb "color1", rgb "color2", ["blender"]] (rgb "output"),
    { plain "choice" "choice" [["input[\x7bmulti_index\x7d]"], ["selector"]] ["output"] with
      multiIndex := true },
    plain "clamp" "clamp" [rgb "input", rgb "min", rgb "max"] (rgb "output"),
    vectorProduct "cross" 2 (xyz "output"),
    product "div" 2,
    vectorProduct "dot" 1 ["outputX"],
    test "eq" 0,
    test "ge" 3,
    test "gt" 2,
    test "le" 5,
    plain "length" "distanceBetween" [xyz "point1", xyz "point2"] ["distance"],
    test "lt" 4,
    product "mul" 1,
    test "ne" 1,
    product "pow" 3,
    plain "remap" "setRange" [xyz "value", xyz "min", xyz "max", xyz "oldMin", xyz "oldMax"]
      (xyz "outValue"),
    plain "reverse" "reverse" [xyz "input"] (xyz "output"),
    vectorSum "sub" 2,
    vectorSum "sum" 1 ]

end Operation

namespace Registry

/-- The registry of the built-in operations. -/
def builtin : Registry := ⟨⟨Operation.builtin.map fun op => (op.name, op)⟩⟩

/-- The built-in operations load, and they stand in the registry as they are listed. -/
theorem toOption_load_builtin : (load Operation.builtin).toOption = some builtin := by
  decide +kernel

end Registry

end FormulaNet
