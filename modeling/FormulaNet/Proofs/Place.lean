/-
This file proves that canonical paths are stable. A place stands on a layout
when the attribute it names is there, its child belongs to that attribute, and
its index fits a word; only such places are ever designated by a path. On a
sound layout the canonical path of a place designates that very place again, so
two places with one path are one place. A layout that is extended under a free
name designates whatever it designated before.
-/

import FormulaNet.Proofs.Layout
import FormulaNet.Proofs.Plug

namespace FormulaNet

/-! ### Reading paths -/

namespace Number

/-- Writing a number and reading its digits gives the number back. -/
theorem digitsValue_toString (n : Nat) : digitsValue (toString n).toList = n := by
  have digits : (toString n).toList = Nat.toDigits 10 n := by simp
  rw [digits]
  exact Nat.ofDigitChars_ten_toDigits

theorem isDigit_of_mem_toString {n : Nat} {c : Char} (member : c ∈ (toString n).toList) :
    c.isDigit = true := by
  have digits : (toString n).toList = Nat.toDigits 10 n := by simp
  rw [digits] at member
  exact Nat.isDigit_of_mem_toDigits (by decide) (by decide) member

theorem toString_ne_nil (n : Nat) : (toString n).toList ≠ [] := by simp

/-- Characters other than digits do not stand in the text of a number. -/
theorem not_mem_toString {c : Char} (noDigit : c.isDigit = false) (n : Nat) :
    c ∉ (toString n).toList := by
  intro member
  rw [isDigit_of_mem_toString member] at noDigit
  cases noDigit

end Number

namespace AttrPath

theorem readIndex?_toString (index : Nat) :
    readIndex? (toString index).toList = if index ≤ Number.largestWord then some index else none := by
  have digits : (toString index).toList.all Char.isDigit = true :=
    List.all_eq_true.mpr fun c member => Number.isDigit_of_mem_toString member
  rw [readIndex?, Number.digitsValue_toString]
  · simp only [digits, Number.toString_ne_nil, ne_eq, not_false_eq_true, true_and]
  · intro rest signed
    exact Number.not_mem_toString (c := '+') rfl index (signed ▸ List.mem_cons_self)

theorem le_of_readIndex? {digits : List Char} {index : Nat}
    (read : readIndex? digits = some index) : index ≤ Number.largestWord := by
  simp only [readIndex?, Option.ite_none_right_eq_some] at read
  obtain ⟨⟨_, _, fits⟩, equal⟩ := read
  exact Option.some.inj equal ▸ fits

theorem readSegment?_name {name : String} (unmarked : '[' ∉ name.toList) :
    readSegment? name = some (name, none) := by
  rw [readSegment?, Plug.cutAt?_eq_none _ _ unmarked]

theorem readSegment?_element {name : String} (unmarked : '[' ∉ name.toList) (index : Nat) :
    readSegment? (name ++ "[" ++ toString index ++ "]") =
      if index ≤ Number.largestWord then some (name, some index) else none := by
  have text : name ++ "[" ++ toString index ++ "]" =
      name ++ String.singleton '[' ++ (toString index ++ "]") := by
    rw [show String.singleton '[' = "[" from rfl, String.append_assoc]
  have last : (toString index ++ "]").toList.getLast? = some ']' := by simp
  have front : (toString index ++ "]").toList.dropLast = (toString index).toList := by simp
  rw [readSegment?, text, Plug.cutAt?_append _ _ _ unmarked]
  simp only [last, if_true, front, readIndex?_toString]
  split <;> rfl

theorem le_of_readSegment? {segment name : String} {index : Nat}
    (read : readSegment? segment = some (name, some index)) : index ≤ Number.largestWord := by
  rw [readSegment?] at read
  split at read
  · cases read
  · split at read
    · obtain ⟨other, readIndex, equal⟩ := Option.map_eq_some_iff.mp read
      obtain rfl := Option.some.inj (Prod.mk.inj equal).2
      exact le_of_readIndex? readIndex
    · cases read

/-- The index of a path that was read fits a word. -/
theorem index_le {path : String} {name : String} {index : Nat} {tail : Option String}
    (read : read? path = some ⟨name, some index, tail⟩) : index ≤ Number.largestWord := by
  rw [read?] at read
  split at read
  all_goals
    obtain ⟨⟨_, _⟩, readSegment, equal⟩ := Option.map_eq_some_iff.mp read
    simp only [AttrPath.mk.injEq] at equal
    obtain ⟨rfl, rfl, rfl⟩ := equal
    exact le_of_readSegment? readSegment

/-- An element path has the dots of its name. -/
theorem noDot_element {name : String} (noDot : '.' ∉ name.toList) (index : Nat) :
    '.' ∉ (name ++ "[" ++ toString index ++ "]").toList := by
  have digits := Number.not_mem_toString (c := '.') rfl index
  simp only [String.toList_append, List.mem_append, not_or]
  exact ⟨⟨⟨noDot, by decide⟩, digits⟩, by decide⟩

variable {name : String} (noDot : '.' ∉ name.toList) (noBracket : '[' ∉ name.toList)
include noDot noBracket

theorem read?_name : read? name = some ⟨name, none, none⟩ := by
  rw [read?, Plug.cutAt?_eq_none _ _ noDot]
  simp only [readSegment?_name noBracket, Option.map_some]

theorem read?_element (index : Nat) :
    read? (name ++ "[" ++ toString index ++ "]") =
      if index ≤ Number.largestWord then some ⟨name, some index, none⟩ else none := by
  rw [read?, Plug.cutAt?_eq_none _ _ (noDot_element noDot index)]
  simp only [readSegment?_element noBracket index]
  split <;> rfl

theorem read?_elementChild (index : Nat) (tail : String) :
    read? (name ++ "[" ++ toString index ++ "]" ++ "." ++ tail) =
      if index ≤ Number.largestWord then some ⟨name, some index, some tail⟩ else none := by
  have cut := Plug.cutAt?_append '.' _ tail (noDot_element noDot index)
  have dot : String.singleton '.' = "." := rfl
  rw [dot] at cut
  rw [read?, cut]
  simp only [readSegment?_element noBracket index]
  split <;> rfl

end AttrPath

/-! ### Places on a layout -/

namespace Place

/-- Whether a place stands on a layout. -/
def On (layout : Layout) : Place → Prop
  | whole a => a ∈ layout
  | child a c => a ∈ layout ∧ a.multi = false ∧ c ∈ a.children
  | element a index => a ∈ layout ∧ a.multi = true ∧ index ≤ Number.largestWord
  | elementChild a index c =>
    a ∈ layout ∧ a.multi = true ∧ index ≤ Number.largestWord ∧ c ∈ a.children

/-- A place that is read as one channel has no children. -/
theorem children?_of_parts? {place : Place} (single : place.parts? = none) :
    place.children? = none := by
  cases place with
  | whole a => exact single
  | _ => rfl

end Place

namespace Layout

variable {layout : Layout}

/-- What a path designates stands on the layout. -/
theorem on_of_locate? {text : String} {path : AttrPath} {place : Place}
    (read : AttrPath.read? text = some path) (located : layout.locate? path = some place) :
    place.On layout := by
  obtain ⟨name, index, tail⟩ := path
  rw [locate?] at located
  split at located
  · split at located
    · obtain ⟨⟨a, c⟩, found, rfl⟩ := Option.map_eq_some_iff.mp located
      obtain ⟨member, single, inside, _⟩ := mem_of_child? found
      exact ⟨member, single, inside⟩
    · cases located
  · rename_i a found
    obtain ⟨member, _⟩ := mem_of_attribute? found
    split at located
    · obtain rfl := Option.some.inj located
      exact member
    · split at located
      · cases located
      · rename_i single
        obtain ⟨c, foundChild, rfl⟩ := Option.map_eq_some_iff.mp located
        exact ⟨member, by simpa using single, (Attribute.mem_of_child? foundChild).1⟩
    · rename_i i indexed bare
      split at located
      · rename_i multi
        obtain rfl := Option.some.inj located
        simp only at indexed bare
        subst indexed
        exact ⟨member, multi, AttrPath.index_le read⟩
      · cases located
    · rename_i i tail indexed tailed
      split at located
      · rename_i multi
        obtain ⟨c, foundChild, rfl⟩ := Option.map_eq_some_iff.mp located
        simp only at indexed tailed
        subst indexed
        exact ⟨member, multi, AttrPath.index_le read, (Attribute.mem_of_child? foundChild).1⟩
      · cases located

/-- The place that a path text designates. -/
def find? (layout : Layout) (text : String) : Option Place :=
  (AttrPath.read? text).bind layout.locate?

theorem on_of_find? {text : String} {place : Place} (found : layout.find? text = some place) :
    place.On layout := by
  obtain ⟨path, read, located⟩ := Option.bind_eq_some_iff.mp found
  exact on_of_locate? read located

variable (sound : layout.Sound)
include sound

theorem Sound.unmarked {name : String} (member : name ∈ layout.names) {mark : Char}
    (marks : Scene.isPathMark mark = true) : mark ∉ name.toList := by
  intro inside
  have free := (sound.plain name member).2
  rw [List.any_eq_true.mpr ⟨mark, inside, marks⟩] at free
  cases free

theorem Sound.long_unmarked {a : Attribute} (member : a ∈ layout) :
    '.' ∉ a.long.toList ∧ '[' ∉ a.long.toList :=
  have named := mem_names member (Attribute.mem_names_of_own a.long_mem_ownNames)
  ⟨sound.unmarked named rfl, sound.unmarked named rfl⟩

/-- An array has an element at every index that fits a word. -/
theorem Sound.find?_element {a : Attribute} (member : a ∈ layout) (multi : a.multi = true)
    (index : Nat) : layout.find? (Place.element a index).path =
      if index ≤ Number.largestWord then some (.element a index) else none := by
  obtain ⟨noDot, noBracket⟩ := sound.long_unmarked member
  rw [find?, Place.path, Place.elementPath, AttrPath.read?_element noDot noBracket index]
  split
  · rw [Option.bind_some, locate?, sound.attribute?_long member]
    simp only [multi, if_true]
  · rfl

theorem Sound.find?_elementChild {a : Attribute} {c : Attribute.Child} (member : a ∈ layout)
    (multi : a.multi = true) (inside : c ∈ a.children) (index : Nat) :
    layout.find? (Place.elementChild a index c).path =
      if index ≤ Number.largestWord then some (.elementChild a index c) else none := by
  obtain ⟨noDot, noBracket⟩ := sound.long_unmarked member
  rw [find?, Place.path, Place.elementPath, AttrPath.read?_elementChild noDot noBracket index]
  split
  · rw [Option.bind_some, locate?, sound.attribute?_long member]
    simp only [multi, if_true, sound.child?_long member inside, Option.map_some]
  · rfl

/-- The canonical path of a place designates that place. -/
theorem Sound.find?_path {place : Place} (on : place.On layout) :
    layout.find? place.path = some place := by
  cases place with
  | whole a =>
    obtain ⟨noDot, noBracket⟩ := sound.long_unmarked on
    rw [find?, Place.path, AttrPath.read?_name noDot noBracket, Option.bind_some, locate?,
      sound.attribute?_long on]
  | child a c =>
    obtain ⟨member, single, inside⟩ := on
    have named := mem_names member (Attribute.mem_names_of_child inside c.long_mem_names)
    rw [find?, Place.path, AttrPath.read?_name (sound.unmarked named rfl) (sound.unmarked named rfl),
      Option.bind_some, locate?, sound.attribute?_child member inside c.long_mem_names]
    simp only [sound.layout_child?_long member inside single, Option.map_some]
  | element a index =>
    obtain ⟨member, multi, fits⟩ := on
    rw [sound.find?_element member multi, if_pos fits]
  | elementChild a index c =>
    obtain ⟨member, multi, fits, inside⟩ := on
    rw [sound.find?_elementChild member multi inside, if_pos fits]

theorem Sound.path_ne_empty {place : Place} (on : place.On layout) : place.path ≠ "" := by
  cases place with
  | whole a =>
    exact (sound.plain _ (mem_names on (Attribute.mem_names_of_own a.long_mem_ownNames))).1
  | child a c =>
    obtain ⟨member, _, inside⟩ := on
    exact (sound.plain _ (mem_names member
      (Attribute.mem_names_of_child inside c.long_mem_names))).1
  | element a index => simp [Place.path, Place.elementPath]
  | elementChild a index c => simp [Place.path, Place.elementPath]

/-- Places with one canonical path are one place. -/
theorem Sound.path_injective {first second : Place} (onFirst : first.On layout)
    (onSecond : second.On layout) (equal : first.path = second.path) : first = second := by
  have found := sound.find?_path onFirst
  rw [equal, sound.find?_path onSecond] at found
  exact (Option.some.inj found).symm

omit sound

/-! ### More attributes -/

variable {name : String} (free : name ∉ layout.names) (default : Float)

theorem attribute?_append {other : String} {a : Attribute} (more : Attribute)
    (found : layout.attribute? other = some a) : attribute? (layout ++ [more]) other = some a := by
  rw [attribute?, List.find?_append, ← attribute?, found, Option.some_or]

theorem child?_append {other : String} {pair : Attribute × Attribute.Child} (more : Attribute)
    (found : layout.child? other = some pair) : child? (layout ++ [more]) other = some pair := by
  rw [child?, List.findSome?_append, ← child?, found, Option.some_or]

include free in
/-- A scalar under a free name does not answer to the name of a child. -/
theorem attribute?_append_scalar {other : String} {pair : Attribute × Attribute.Child}
    (none : layout.attribute? other = none) (found : layout.child? other = some pair) :
    attribute? (layout ++ [.scalar name .none default]) other = .none := by
  obtain ⟨member, _, inside, named⟩ := mem_of_child? found
  have different : name ≠ other := by
    rintro rfl
    exact free (mem_names member (Attribute.mem_names_of_child inside named))
  rw [attribute?, List.find?_append, ← attribute?, none, Option.none_or]
  simp [Attribute.answersTo, Attribute.scalar, different]

include free in
/-- A scalar under a free name leaves every path that designates something as it is. -/
theorem find?_append_scalar {text : String} {place : Place}
    (found : layout.find? text = some place) :
    find? (layout ++ [.scalar name none default]) text = some place := by
  obtain ⟨path, read, located⟩ := Option.bind_eq_some_iff.mp found
  rw [find?, read, Option.bind_some]
  rw [locate?] at located ⊢
  split at located
  · rename_i missing
    split at located
    · obtain ⟨pair, foundChild, equal⟩ := Option.map_eq_some_iff.mp located
      rw [attribute?_append_scalar free default missing foundChild, child?_append _ foundChild]
      simpa using equal
    · cases located
  · rename_i a present
    rw [attribute?_append _ present]
    exact located

end Layout

end FormulaNet
