/-
This file lists the layouts of the node types a scene knows. Every node has the
scalar `message`, and a container has nothing else.
-/

import FormulaNet.Scene.Layout

namespace FormulaNet.Layout

open Attribute

/-- The endings of spatial and of colour channels. -/
def spatial : List String := ["X", "Y", "Z"]

def colour : List String := ["R", "G", "B"]

/-- The endings of the channels of summed vectors. -/
def summed : List String := ["x", "y", "z"]

/-- The attribute that all nodes have. -/
def message : Attribute := scalar "message" (some "msg") 0

/-- The attributes of each node type beyond `message`. -/
def types : List (String × Layout) :=
  [ ("transform",
      [ vector "translate" "t" [("translateX", "tx"), ("translateY", "ty"), ("translateZ", "tz")] 0,
        vector "rotate" "r" [("rotateX", "rx"), ("rotateY", "ry"), ("rotateZ", "rz")] 0,
        vector "scale" "s" [("scaleX", "sx"), ("scaleY", "sy"), ("scaleZ", "sz")] 1,
        scalar "visibility" (some "v") 1 ]),
    ("plusMinusAverage",
      [ scalar "operation" (some "op") 1,
        (scalar "input1D" (some "i1") 0).array,
        (suffixed "input3D" summed 0).array,
        scalar "output1D" (some "o1") 0,
        suffixed "output3D" summed 0 ]),
    ("multiplyDivide",
      [ scalar "operation" (some "op") 1,
        suffixed "input1" spatial 0,
        suffixed "input2" spatial 1,
        suffixed "output" spatial 0 ]),
    ("condition",
      [ scalar "operation" (some "op") 0,
        scalar "firstTerm" (some "ft") 0,
        scalar "secondTerm" (some "st") 0,
        suffixed "colorIfTrue" colour 0,
        suffixed "colorIfFalse" colour 0,
        suffixed "outColor" colour 0 ]),
    ("blendColors",
      [ suffixed "color1" colour 0,
        suffixed "color2" colour 0,
        scalar "blender" (some "b") 0.5,
        suffixed "output" colour 0 ]),
    ("clamp",
      [ suffixed "min" colour 0,
        suffixed "max" colour 0,
        suffixed "input" colour 0,
        suffixed "output" colour 0 ]),
    ("setRange",
      [ suffixed "value" spatial 0,
        suffixed "min" spatial 0,
        suffixed "max" spatial 0,
        suffixed "oldMin" spatial 0,
        suffixed "oldMax" spatial 0,
        suffixed "outValue" spatial 0 ]),
    ("vectorProduct",
      [ scalar "operation" (some "op") 1,
        suffixed "input1" spatial 0,
        suffixed "input2" spatial 0,
        scalar "normalizeOutput" (some "no") 0,
        suffixed "output" spatial 0 ]),
    ("distanceBetween",
      [ suffixed "point1" spatial 0,
        suffixed "point2" spatial 0,
        scalar "distance" (some "d") 0 ]),
    ("reverse",
      [ suffixed "input" spatial 0,
        suffixed "output" spatial 0 ]),
    ("angleBetween",
      [ suffixed "vector1" spatial 0,
        suffixed "vector2" spatial 0,
        scalar "angle" (some "a") 0 ]),
    ("choice",
      [ scalar "selector" (some "s") 0,
        (scalar "input" (some "i") 0).array,
        scalar "output" (some "o") 0 ]),
    ("container", []) ]

/-- The layout a new node of a type starts with. -/
def ofType? (nodeType : String) : Option Layout :=
  (types.find? (·.1 = nodeType)).map fun (_, own) => message :: own

end FormulaNet.Layout
