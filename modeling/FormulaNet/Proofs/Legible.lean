/-
This file says what the name of a published plug gives away. The name keeps the
letters and digits of the node and of the attribute path, with a mark in between
that neither can hold, so two names are equal exactly if both parts have the
same letters and digits. On the attributes that a node has by its type that is
enough to tell plugs apart: a path is then a long name and perhaps an index,
perhaps followed by the name of a child, and no long name goes on with a digit
behind the name of an array, so that it is seen where the index begins and where
it ends. For nodes it is not enough, since the names that are made up for them
may differ in underscores only.
-/

import FormulaNet.Proofs.Place
import FormulaNet.Scope.Container

namespace FormulaNet

namespace Plug

/-! ### Letters and digits -/

@[simp] theorem toList_alphanumerics (text : String) :
    (alphanumerics text).toList = text.toList.filter Char.isAlphanum :=
  String.toList_ofList

theorem alphanumerics_eq_iff (first second : String) :
    alphanumerics first = alphanumerics second ↔
      first.toList.filter Char.isAlphanum = second.toList.filter Char.isAlphanum := by
  rw [← String.toList_inj, toList_alphanumerics, toList_alphanumerics]

/-- Published names are equal exactly if node and path have the same letters and digits. -/
theorem exposedName_eq_iff (node attr owner path : String) :
    exposedName node attr = exposedName owner path ↔
      alphanumerics (baseName node) = alphanumerics (baseName owner) ∧
        alphanumerics attr = alphanumerics path := by
  have free (text : String) : '_' ∉ (alphanumerics text).toList := by
    rw [toList_alphanumerics]
    intro member
    exact absurd (List.mem_filter.mp member).2 (by decide)
  have cut (node attr : String) : cutAt? '_' (exposedName node attr) =
      some (alphanumerics (baseName node), "I_" ++ alphanumerics attr) := by
    have text : exposedName node attr = alphanumerics (baseName node) ++ String.singleton '_' ++
        ("I_" ++ alphanumerics attr) := by
      apply String.toList_injective
      simp [exposedName]
    rw [text]
    exact cutAt?_append '_' _ _ (free (baseName node))
  constructor
  · intro same
    have parts := congrArg (cutAt? '_') same
    rw [cut, cut] at parts
    obtain ⟨nodes, attrs⟩ := Prod.mk.inj (Option.some.inj parts)
    refine ⟨nodes, String.toList_injective ?_⟩
    simpa using congrArg String.toList attrs
  · rintro ⟨nodes, attrs⟩
    rw [exposedName, exposedName, nodes, attrs]

/-! ### Names of nodes -/

/-- A text without its underscores. -/
def unscored (text : String) : String := String.ofList (text.toList.filter (· != '_'))

/-- A node whose name was made up for it, behind what all names are given in front. -/
def Named (given node : String) : Prop :=
  ∃ own, node = given ++ own ∧ own.toList.all isNameChar = true

theorem afterLast_of_notMem {mark : Char} {text : List Char} (free : mark ∉ text) :
    afterLast mark text = text := by
  cases text with
  | nil => rfl
  | cons c rest =>
    rw [List.mem_cons, not_or] at free
    rw [afterLast, if_neg (by simpa using free.2), if_neg (Ne.symm free.1)]

theorem afterLast_append {mark : Char} (front : List Char) {back : List Char} (free : mark ∉ back) :
    afterLast mark (front ++ back) = afterLast mark front ++ back := by
  induction front with
  | nil => exact afterLast_of_notMem free
  | cons c rest inductionHypothesis =>
    rw [List.cons_append, afterLast, afterLast, inductionHypothesis]
    by_cases later : mark ∈ rest
    · simp [later]
    · by_cases here : c = mark
      · simp [later, here, free]
      · simp [later, here, free]

theorem baseName_append (given : String) {own : String} (named : own.toList.all isNameChar = true) :
    baseName (given ++ own) = baseName given ++ own := by
  have free : '|' ∉ own.toList := fun member =>
    absurd (List.all_eq_true.mp named _ member) (by decide)
  apply String.toList_injective
  rw [baseName, String.toList_ofList, String.toList_append, afterLast_append _ free,
    String.toList_append, baseName, String.toList_ofList]

/-- In a name that was made up only the underscores are no letters or digits. -/
theorem filter_bne_of_named {own : String} (named : own.toList.all isNameChar = true) :
    own.toList.filter (· != '_') = own.toList.filter Char.isAlphanum := by
  refine List.filter_congr fun c member => ?_
  have isName := List.all_eq_true.mp named c member
  by_cases score : c = '_'
  · subst score
    rfl
  · have other : (c == '_') = false := beq_eq_false_iff_ne.mpr score
    rw [isNameChar, other, Bool.or_false] at isName
    rw [isName, bne, other]
    rfl

/-- Names that were made up have the same letters and digits if they are the same without groups in
front, and then they differ in underscores only. -/
theorem Named.letters {given node owner : String} (named : Named given node)
    (other : Named given owner) :
    (alphanumerics (baseName node) = alphanumerics (baseName owner) ↔
      alphanumerics node = alphanumerics owner) ∧
    (alphanumerics node = alphanumerics owner → unscored node = unscored owner) := by
  obtain ⟨own, rfl, isOwn⟩ := named
  obtain ⟨others, rfl, isOthers⟩ := other
  have ends (front : String) : alphanumerics (front ++ own) = alphanumerics (front ++ others) ↔
      own.toList.filter Char.isAlphanum = others.toList.filter Char.isAlphanum := by
    rw [alphanumerics_eq_iff]
    simp
  rw [baseName_append given isOwn, baseName_append given isOthers, ends, ends]
  refine ⟨Iff.rfl, fun same => ?_⟩
  rw [unscored, unscored, String.toList_append, String.toList_append, List.filter_append,
    List.filter_append, filter_bne_of_named isOwn, filter_bne_of_named isOthers, same]

end Plug

/-! ### Paths of places -/

namespace Place

/-- The long name that the path of a place begins with. -/
def stem : Place → String
  | whole a => a.long
  | child _ c => c.long
  | element a _ => a.long
  | elementChild a _ _ => a.long

/-- The letters and digits of a path behind its first name. -/
def ending : Place → List Char
  | whole _ => []
  | child _ _ => []
  | element _ index => (toString index).toList
  | elementChild _ index c => (toString index).toList ++ c.long.toList

end Place

namespace Layout

/-- The long names of a layout. -/
def longNames (layout : Layout) : List String := layout.flatMap fun a => a.long :: a.childNames

/-- Long names are made of letters and digits. None of them goes on with a digit behind the name of
an array, and no child in an array begins with one. -/
structure Legible (layout : Layout) : Prop where
  plain : ∀ name ∈ layout.longNames, name.toList.all Char.isAlphanum = true
  apart : ∀ a ∈ layout, a.multi = true → ∀ name ∈ layout.longNames,
    a.long.toList <+: name.toList →
      (name.toList[a.long.toList.length]?.all fun c => !c.isDigit) = true
  lettered : ∀ a ∈ layout, a.multi = true → ∀ name ∈ a.childNames,
    (name.toList.head?.all fun c => !c.isDigit) = true

instance (layout : Layout) : Decidable layout.Legible :=
  decidable_of_iff
    ((∀ name ∈ layout.longNames, name.toList.all Char.isAlphanum = true) ∧
      (∀ a ∈ layout, a.multi = true → ∀ name ∈ layout.longNames,
        a.long.toList <+: name.toList →
          (name.toList[a.long.toList.length]?.all fun c => !c.isDigit) = true) ∧
      ∀ a ∈ layout, a.multi = true → ∀ name ∈ a.childNames,
        (name.toList.head?.all fun c => !c.isDigit) = true)
    ⟨fun ⟨plain, apart, lettered⟩ => ⟨plain, apart, lettered⟩,
      fun ⟨plain, apart, lettered⟩ => ⟨plain, apart, lettered⟩⟩

theorem legible_of_mem_types : ∀ entry ∈ types, Legible (message :: entry.2) := by
  decide +kernel

/-- The layout of a new node is legible. -/
theorem legible_ofType? {type : String} {layout : Layout} (known : ofType? type = some layout) :
    layout.Legible := by
  obtain ⟨entry, found, rfl⟩ := Option.map_eq_some_iff.mp known
  exact legible_of_mem_types entry (List.mem_of_find?_eq_some found)

theorem long_mem_longNames {layout : Layout} {a : Attribute} (member : a ∈ layout) :
    a.long ∈ layout.longNames :=
  List.mem_flatMap.mpr ⟨a, member, List.mem_cons_self⟩

theorem child_mem_longNames {layout : Layout} {a : Attribute} (member : a ∈ layout)
    {c : Attribute.Child} (inside : c ∈ a.children) : c.long ∈ layout.longNames :=
  List.mem_flatMap.mpr ⟨a, member, List.mem_cons_of_mem _ (List.mem_map_of_mem inside)⟩

variable {layout : Layout} {place other : Place}

theorem stem_mem_longNames (on : place.On layout) : place.stem ∈ layout.longNames := by
  cases place with
  | whole a => exact long_mem_longNames on
  | child a c => exact child_mem_longNames on.1 on.2.2
  | element a index => exact long_mem_longNames on.1
  | elementChild a index c => exact long_mem_longNames on.1

variable (legible : layout.Legible)
include legible

/-- The letters and digits of a path: a long name and what stands behind it. -/
theorem Legible.letters_path (on : place.On layout) :
    place.path.toList.filter Char.isAlphanum = place.stem.toList ++ place.ending := by
  have word {name : String} (member : name ∈ layout.longNames) :
      name.toList.filter Char.isAlphanum = name.toList :=
    List.filter_eq_self.mpr (List.all_eq_true.mp (legible.plain name member))
  have digits (index : Nat) : (toString index).toList.filter Char.isAlphanum =
      (toString index).toList := by
    refine List.filter_eq_self.mpr fun c member => ?_
    rw [Char.isAlphanum, Number.isDigit_of_mem_toString member, Bool.or_true]
  have indexed (a : Attribute) (index : Nat) (member : a ∈ layout) :
      (Place.elementPath a index).toList.filter Char.isAlphanum =
        a.long.toList ++ (toString index).toList := by
    have brackets : "[".toList.filter Char.isAlphanum = [] ∧
        "]".toList.filter Char.isAlphanum = [] := by
      decide
    rw [Place.elementPath, String.toList_append, String.toList_append, String.toList_append,
      List.filter_append, List.filter_append, List.filter_append, brackets.1, brackets.2,
      word (long_mem_longNames member), digits, List.append_nil, List.append_nil]
  have stem := word (stem_mem_longNames on)
  cases place with
  | whole a => exact stem.trans (List.append_nil _).symm
  | child a c => exact stem.trans (List.append_nil _).symm
  | element a index => exact indexed a index on.1
  | elementChild a index c =>
    have dot : ".".toList.filter Char.isAlphanum = [] := by decide
    rw [Place.path, String.toList_append, String.toList_append, List.filter_append,
      List.filter_append, indexed a index on.1, dot, word (child_mem_longNames on.1 on.2.2.2),
      List.append_nil, List.append_assoc]
    rfl

omit legible in
/-- Only inside an array does anything stand behind the long name, and it begins with a digit. -/
theorem array_of_ending (on : place.On layout) {first : Char} {rest : List Char}
    (behind : place.ending = first :: rest) :
    ∃ a ∈ layout, a.multi = true ∧ place.stem = a.long ∧ first.isDigit = true := by
  have digit {index : Nat} {tail : List Char}
      (begins : (toString index).toList ++ tail = first :: rest) : first.isDigit = true := by
    obtain ⟨d, ds, digits⟩ := List.exists_cons_of_ne_nil (Number.toString_ne_nil index)
    rw [digits] at begins
    obtain ⟨rfl, _⟩ := List.cons.inj begins
    exact Number.isDigit_of_mem_toString (digits ▸ List.mem_cons_self)
  cases place with
  | whole | child => cases behind
  | element a index =>
    exact ⟨a, on.1, on.2.1, rfl, digit ((List.append_nil _).trans behind)⟩
  | elementChild a index c => exact ⟨a, on.1, on.2.1, rfl, digit behind⟩

/-- The long name of a place goes no further than that of another one with the same letters and
digits. -/
theorem Legible.stem_not_longer (on : place.On layout) (onOther : other.On layout)
    {more : List Char} (longer : other.stem.toList = place.stem.toList ++ more)
    (behind : place.ending = more ++ other.ending) : more = [] := by
  cases more with
  | nil => rfl
  | cons first rest =>
    obtain ⟨a, member, multi, stem, digit⟩ := array_of_ending on behind
    have apart := legible.apart a member multi other.stem (stem_mem_longNames onOther)
    rw [longer, stem] at apart
    have noDigit := apart (List.prefix_append _ _)
    simp [digit] at noDigit

omit legible in
/-- An index in front of a text that does not begin with a digit is told from it. -/
theorem index_append_inj (first second : Nat) {left right : List Char}
    (leftLetter : (left.head?.all fun c => !c.isDigit) = true)
    (rightLetter : (right.head?.all fun c => !c.isDigit) = true)
    (same : (toString first).toList ++ left = (toString second).toList ++ right) :
    toString first = toString second ∧ left = right := by
  have digits (index : Nat) {tail : List Char}
      (letter : (tail.head?.all fun c => !c.isDigit) = true) :
      ((toString index).toList ++ tail).takeWhile Char.isDigit = (toString index).toList := by
    have none : tail.takeWhile Char.isDigit = [] := by
      cases tail with
      | nil => rfl
      | cons c rest => exact List.takeWhile_cons_of_neg (by simpa using letter)
    rw [List.takeWhile_append_of_pos fun c member => Number.isDigit_of_mem_toString member, none,
      List.append_nil]
  have indices := congrArg (List.takeWhile Char.isDigit) same
  rw [digits first leftLetter, digits second rightLetter] at indices
  rw [indices] at same
  exact ⟨String.toList_injective indices, List.append_cancel_left same⟩

/-- Places whose long names and endings are the same have the same path. -/
theorem Legible.path_eq_of_parts (sound : layout.Sound) (on : place.On layout)
    (onOther : other.On layout) (stem : place.stem = other.stem)
    (ending : place.ending = other.ending) : place.path = other.path := by
  have indexed (index : Nat) (tail : List Char) : (toString index).toList ++ tail ≠ [] := fun empty =>
    Number.toString_ne_nil index (List.append_eq_nil_iff.mp empty).1
  have element {a b : Attribute} {i j : Nat} (long : a.long = b.long)
      (index : toString i = toString j) : Place.elementPath a i = Place.elementPath b j := by
    rw [Place.elementPath, Place.elementPath, long, index]
  have filled {a : Attribute} {c : Attribute.Child} (member : a ∈ layout) (inside : c ∈ a.children) :
      c.long.toList ≠ [] := by
    have named := mem_names member (Attribute.mem_names_of_child inside c.long_mem_names)
    exact fun empty => (sound.plain c.long named).1 (String.toList_injective empty)
  have letter {a : Attribute} {c : Attribute.Child} (member : a ∈ layout) (multi : a.multi = true)
      (inside : c ∈ a.children) : (c.long.toList.head?.all fun c => !c.isDigit) = true :=
    legible.lettered a member multi c.long (List.mem_map_of_mem inside)
  cases place with
  | whole a | child a c =>
    cases other with
    | whole b | child b d => exact stem
    | element b j => exact absurd ending.symm (Number.toString_ne_nil j)
    | elementChild b j d => exact absurd ending.symm (indexed j _)
  | element a i =>
    cases other with
    | whole b | child b d => exact absurd ending (Number.toString_ne_nil i)
    | element b j => exact element stem (String.toList_injective ending)
    | elementChild b j d =>
      obtain ⟨member, multi, _, inside⟩ := onOther
      have bare : (toString i).toList ++ [] = (toString j).toList ++ d.long.toList :=
        (List.append_nil _).trans ending
      have none := (index_append_inj i j rfl (letter member multi inside) bare).2
      exact absurd none.symm (filled member inside)
  | elementChild a i c =>
    obtain ⟨member, multi, _, inside⟩ := on
    cases other with
    | whole b | child b d => exact absurd ending (indexed i _)
    | element b j =>
      have bare : (toString i).toList ++ c.long.toList = (toString j).toList ++ [] :=
        ending.trans (List.append_nil _).symm
      have none := (index_append_inj i j (letter member multi inside) rfl bare).2
      exact absurd none (filled member inside)
    | elementChild b j d =>
      obtain ⟨memberOther, multiOther, _, insideOther⟩ := onOther
      obtain ⟨index, child⟩ := index_append_inj i j (letter member multi inside)
        (letter memberOther multiOther insideOther) ending
      rw [Place.path, Place.path, element stem index, String.toList_injective child]

/-- Paths with the same letters and digits are the same. -/
theorem Legible.path_eq_of_letters (sound : layout.Sound) (on : place.On layout)
    (onOther : other.On layout)
    (same : Plug.alphanumerics place.path = Plug.alphanumerics other.path) :
    place.path = other.path := by
  rw [Plug.alphanumerics_eq_iff, legible.letters_path on, legible.letters_path onOther] at same
  rcases List.append_eq_append_iff.mp same with ⟨more, longer, behind⟩ | ⟨more, longer, behind⟩
  · obtain rfl := legible.stem_not_longer on onOther longer behind
    refine legible.path_eq_of_parts sound on onOther (String.toList_injective ?_) behind
    rw [longer, List.append_nil]
  · obtain rfl := legible.stem_not_longer onOther on longer behind
    refine legible.path_eq_of_parts sound on onOther (String.toList_injective ?_) behind.symm
    rw [longer, List.append_nil]

end Layout

end FormulaNet
