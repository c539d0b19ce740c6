/-
This file proves that the names on a layout are unambiguous. All names that a
layout uses, long and short, of attributes and of their children, stand in one
list; on a sound layout none of them stands there twice, and none has a
character that means something in a path. So every attribute is found under its
long name, every child of a compound is found under its own, and an attribute
added under a free name hides nothing. The layouts of the built-in node types
are sound, and stay so under such additions.
-/

import Mathlib.Data.List.Nodup
import Mathlib.Data.List.Pairwise
import FormulaNet.Operation.Basic
import FormulaNet.Scene.Edit

namespace FormulaNet

/-- The only element of a list with a property is the one that is found. -/
theorem find?_eq_some_of_unique {α : Type} {p : α → Bool} {list : List α} {a : α} (member : a ∈ list)
    (holds : p a = true) (unique : ∀ b ∈ list, p b = true → b = a) : list.find? p = some a := by
  obtain ⟨b, found⟩ := Option.isSome_iff_exists.mp (List.find?_isSome.mpr ⟨a, member, holds⟩)
  rw [found, unique b (List.mem_of_find?_eq_some found) (List.find?_some found)]

/-- Where the parts that a list is put together from share nothing, a shared element tells which
part it is. -/
theorem eq_of_nodup_flatMap {α β : Type} {parts : α → List β} {list : List α}
    (nodup : (list.flatMap parts).Nodup) {a b : α} (left : a ∈ list) (right : b ∈ list) {x : β}
    (inLeft : x ∈ parts a) (inRight : x ∈ parts b) : a = b := by
  by_contra different
  have disjoint := (List.nodup_flatMap.mp nodup).2
  have symmetric : Std.Symm (Function.onFun List.Disjoint parts) := ⟨fun _ _ => List.disjoint_symm⟩
  exact disjoint.forall left right different inLeft inRight

/-! ### The names of a layout -/

namespace Attribute

/-- The names a child goes by. -/
def Child.names (c : Child) : List String := c.long :: c.short.toList

/-- The names an attribute goes by, without those of its children. -/
def ownNames (a : Attribute) : List String := a.long :: a.short.toList

/-- The names of an attribute and of its children. -/
def names (a : Attribute) : List String := a.ownNames ++ a.children.flatMap Child.names

theorem Child.answersTo_iff (c : Child) (name : String) :
    c.answersTo name = true ↔ name ∈ c.names := by
  cases short : c.short <;> simp [answersTo, names, short, @eq_comm _ name]

theorem answersTo_iff (a : Attribute) (name : String) :
    a.answersTo name = true ↔ name ∈ a.ownNames := by
  cases short : a.short <;> simp [answersTo, ownNames, short, @eq_comm _ name]

theorem child?_isSome_iff (a : Attribute) (name : String) :
    (a.child? name).isSome = true ↔ name ∈ a.children.flatMap Child.names := by
  rw [child?, List.find?_isSome, List.mem_flatMap]
  simp only [Child.answersTo_iff]

theorem mem_of_child? {a : Attribute} {name : String} {c : Child} (found : a.child? name = some c) :
    c ∈ a.children ∧ name ∈ c.names :=
  ⟨List.mem_of_find?_eq_some found,
    (c.answersTo_iff name).mp (List.find?_some (p := fun d : Child => d.answersTo name) found)⟩

theorem mem_names_of_own {a : Attribute} {name : String} (own : name ∈ a.ownNames) :
    name ∈ a.names :=
  List.mem_append_left _ own

theorem mem_names_of_child {a : Attribute} {c : Child} {name : String} (member : c ∈ a.children)
    (named : name ∈ c.names) : name ∈ a.names :=
  List.mem_append_right _ (List.mem_flatMap.mpr ⟨c, member, named⟩)

theorem long_mem_ownNames (a : Attribute) : a.long ∈ a.ownNames := List.mem_cons_self

theorem Child.long_mem_names (c : Child) : c.long ∈ c.names := List.mem_cons_self

theorem isCompound_of_mem {a : Attribute} {c : Child} (member : c ∈ a.children) :
    a.isCompound = true := by
  rw [isCompound, List.isEmpty_eq_false_iff_exists_mem.mpr ⟨c, member⟩]
  rfl

end Attribute

namespace Layout

/-- All names of a layout, long and short, of attributes and of children. -/
def names (layout : Layout) : List String := layout.flatMap Attribute.names

theorem mem_names {layout : Layout} {a : Attribute} {name : String} (member : a ∈ layout)
    (named : name ∈ a.names) : name ∈ layout.names :=
  List.mem_flatMap.mpr ⟨a, member, named⟩

theorem isTaken_iff (layout : Layout) (name : String) :
    layout.isTaken name = true ↔ name ∈ layout.names := by
  simp only [isTaken, names, List.any_eq_true, List.mem_flatMap, Bool.or_eq_true,
    Attribute.answersTo_iff, Attribute.child?_isSome_iff, Attribute.names, List.mem_append]

/-- A layout whose names are pairwise different and can stand in paths, and whose compounds have as
many children as can be wired at once. -/
structure Sound (layout : Layout) : Prop where
  distinct : layout.names.Nodup
  plain : ∀ name ∈ layout.names, name ≠ "" ∧ name.toList.any Scene.isPathMark = false
  vectors : ∀ a ∈ layout, a.children = [] ∨ a.children.length = maxChannels

instance (layout : Layout) : Decidable layout.Sound :=
  decidable_of_iff
    (layout.names.Nodup ∧
      (∀ name ∈ layout.names, name ≠ "" ∧ name.toList.any Scene.isPathMark = false) ∧
      ∀ a ∈ layout, a.children = [] ∨ a.children.length = maxChannels)
    ⟨fun ⟨distinct, plain, vectors⟩ => ⟨distinct, plain, vectors⟩,
      fun ⟨distinct, plain, vectors⟩ => ⟨distinct, plain, vectors⟩⟩

/-- Attributes that share a name are one attribute. -/
theorem Sound.eq_of_shared_name {layout : Layout} (sound : layout.Sound) {a b : Attribute}
    (left : a ∈ layout) (right : b ∈ layout) {name : String} (inLeft : name ∈ a.names)
    (inRight : name ∈ b.names) : a = b :=
  eq_of_nodup_flatMap sound.distinct left right inLeft inRight

theorem Sound.nodup_names {layout : Layout} (sound : layout.Sound) {a : Attribute}
    (member : a ∈ layout) : a.names.Nodup :=
  (List.nodup_flatMap.mp sound.distinct).1 a member

/-! ### Finding attributes and children -/

variable {layout : Layout} (sound : layout.Sound) {a : Attribute} (member : a ∈ layout)

theorem mem_of_attribute? {name : String} (found : layout.attribute? name = some a) :
    a ∈ layout ∧ name ∈ a.ownNames :=
  ⟨List.mem_of_find?_eq_some found,
    (a.answersTo_iff name).mp
      (List.find?_some (p := fun b : Attribute => b.answersTo name) found)⟩

theorem mem_of_child? {name : String} {c : Attribute.Child}
    (found : layout.child? name = some (a, c)) :
    a ∈ layout ∧ a.multi = false ∧ c ∈ a.children ∧ name ∈ c.names := by
  obtain ⟨b, inLayout, picked⟩ := List.exists_of_findSome?_eq_some found
  split at picked
  · cases picked
  · rename_i single
    obtain ⟨d, foundChild, equal⟩ := Option.map_eq_some_iff.mp picked
    obtain ⟨rfl, rfl⟩ := Prod.mk.inj equal
    exact ⟨inLayout, by simpa using single, Attribute.mem_of_child? foundChild⟩

include sound member

theorem Sound.attribute?_long : layout.attribute? a.long = some a := by
  refine find?_eq_some_of_unique member ((a.answersTo_iff _).mpr a.long_mem_ownNames) ?_
  intro b inLayout answers
  have named := Attribute.mem_names_of_own ((b.answersTo_iff _).mp answers)
  exact sound.eq_of_shared_name inLayout member named
    (Attribute.mem_names_of_own a.long_mem_ownNames)

variable {c : Attribute.Child} (inside : c ∈ a.children)
include inside

/-- No attribute goes by the name of a child. -/
theorem Sound.attribute?_child {name : String} (named : name ∈ c.names) :
    layout.attribute? name = none := by
  rw [attribute?, List.find?_eq_none]
  intro b inLayout answers
  have own := (b.answersTo_iff _).mp answers
  obtain rfl := sound.eq_of_shared_name inLayout member (Attribute.mem_names_of_own own)
    (Attribute.mem_names_of_child inside named)
  have apart := (List.nodup_append.mp (sound.nodup_names member)).2.2
  exact apart _ own _ (List.mem_flatMap.mpr ⟨c, inside, named⟩) rfl

/-- Children of one attribute that share a name are one child. -/
theorem Sound.child_eq_of_shared_name {d : Attribute.Child} (other : d ∈ a.children) {name : String}
    (inFirst : name ∈ c.names) (inSecond : name ∈ d.names) : c = d :=
  eq_of_nodup_flatMap (List.nodup_append.mp (sound.nodup_names member)).2.1 inside other inFirst
    inSecond

theorem Sound.child?_long : a.child? c.long = some c := by
  refine find?_eq_some_of_unique inside ((c.answersTo_iff _).mpr c.long_mem_names) ?_
  intro d other answers
  exact sound.child_eq_of_shared_name member other inside ((d.answersTo_iff _).mp answers)
    c.long_mem_names

omit inside in
theorem Sound.nodup_children : a.children.Nodup := by
  have apart := (List.nodup_flatMap.mp (List.nodup_append.mp (sound.nodup_names member)).2.1).2
  refine apart.imp ?_
  rintro c _ disjoint rfl
  exact disjoint c.long_mem_names c.long_mem_names

omit inside in
/-- A child is listed at one position only. -/
theorem Sound.idxOf?_child {j : Nat} (position : a.children[j]? = some c) :
    a.children.idxOf? c = some j := by
  obtain ⟨bound, same⟩ := List.getElem?_eq_some_iff.mp position
  refine List.idxOf?_eq_some_iff.mpr ⟨bound, same, ?_⟩
  intro i before other
  have equal := (sound.nodup_children member).getElem_inj_iff.mp (other.trans same.symm)
  exact Nat.ne_of_lt before equal

/-- A child of a compound is found under its long name alone. -/
theorem Sound.layout_child?_long (single : a.multi = false) :
    layout.child? c.long = some (a, c) := by
  have here : (if a.multi then none else (a.child? c.long).map fun c => (a, c)) = some (a, c) := by
    rw [single, sound.child?_long member inside]
    rfl
  have some : (layout.child? c.long).isSome := by
    rw [child?, List.findSome?_isSome_iff]
    exact ⟨a, member, by rw [here]; rfl⟩
  obtain ⟨⟨b, d⟩, found⟩ := Option.isSome_iff_exists.mp some
  obtain ⟨inLayout, _, other, named⟩ := mem_of_child? found
  obtain rfl := sound.eq_of_shared_name inLayout member (Attribute.mem_names_of_child other named)
    (Attribute.mem_names_of_child inside c.long_mem_names)
  rw [found, sound.child_eq_of_shared_name member other inside named c.long_mem_names]

end Layout

/-! ### The layouts that occur -/

namespace Layout

theorem sound_of_mem_types : ∀ entry ∈ types, Sound (message :: entry.2) := by
  decide +kernel

/-- The layout of a new node is sound. -/
theorem sound_ofType? {type : String} {layout : Layout} (known : ofType? type = some layout) :
    layout.Sound := by
  obtain ⟨entry, found, rfl⟩ := Option.map_eq_some_iff.mp known
  exact sound_of_mem_types entry (List.mem_of_find?_eq_some found)

variable {layout : Layout} {name : String} (default : Float)

@[simp] theorem names_append_scalar :
    names (layout ++ [.scalar name none default]) = layout.names ++ [name] := by
  simp [names, Attribute.names, Attribute.ownNames, Attribute.scalar]

/-- A scalar under a free name keeps a layout sound. -/
theorem Sound.append_scalar (sound : layout.Sound) (free : name ∉ layout.names)
    (filled : name ≠ "") (unmarked : name.toList.any Scene.isPathMark = false) :
    Sound (layout ++ [.scalar name none default]) where
  distinct := by
    rw [names_append_scalar]
    refine List.nodup_append.mpr ⟨sound.distinct, List.nodup_singleton name, ?_⟩
    intro first inLayout second isNew
    rw [List.mem_singleton.mp isNew]
    rintro rfl
    exact free inLayout
  plain := by
    rw [names_append_scalar]
    intro other member
    rcases List.mem_append.mp member with old | new
    · exact sound.plain other old
    · rw [List.mem_singleton.mp new]
      exact ⟨filled, unmarked⟩
  vectors := by
    intro a member
    rcases List.mem_append.mp member with old | new
    · exact sound.vectors a old
    · rw [List.mem_singleton.mp new]
      exact Or.inl rfl

end Layout

end FormulaNet
