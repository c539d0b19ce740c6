/-
This file proves that plug texts are a code for pairs of a node and an attribute
path. Cutting a text at a character finds the first place where the character
stands, so a text cut in two is exactly the front, the character, and the back;
splitting a plug is cutting it at the first dot, and it undoes joining whenever
the node is non-empty and free of dots. References are written in this code: a
text that is read as a reference is the text of that reference, and a node with
one attribute or none is read from its own text.
-/

import FormulaNet.Reference.Basic

namespace FormulaNet.Plug

/-! ### Cutting -/

theorem cut?_append (stop : Char → Bool) (front back : List Char) (mark : Char)
    (stops : stop mark = true) (passes : ∀ c ∈ front, stop c = false) :
    cut? stop (front ++ mark :: back) = some (front, back) := by
  induction front with
  | nil => simp [cut?, stops]
  | cons c rest inductionHypothesis =>
    have passesRest := inductionHypothesis fun d member => passes d (List.mem_cons_of_mem _ member)
    simp [cut?, passes c List.mem_cons_self, passesRest]

theorem cut?_eq_none_of_forall (stop : Char → Bool) (text : List Char)
    (passes : ∀ c ∈ text, stop c = false) : cut? stop text = none := by
  induction text with
  | nil => rfl
  | cons c rest inductionHypothesis =>
    have passesRest := inductionHypothesis fun d member => passes d (List.mem_cons_of_mem _ member)
    simp [cut?, passes c List.mem_cons_self, passesRest]

/-- A cut text is its front, the character it was cut at, and its back. -/
theorem cut?_eq_some (stop : Char → Bool) (text front back : List Char)
    (cut : cut? stop text = some (front, back)) :
    ∃ mark, stop mark = true ∧ (∀ c ∈ front, stop c = false) ∧ text = front ++ mark :: back := by
  induction text generalizing front with
  | nil => cases cut
  | cons c rest inductionHypothesis =>
    rw [cut?] at cut
    split at cut
    · rename_i stops
      obtain ⟨rfl, rfl⟩ := Prod.mk.inj (Option.some.inj cut)
      exact ⟨c, stops, by simp, rfl⟩
    · rename_i passes
      obtain ⟨⟨front', back'⟩, cutRest, equal⟩ := Option.map_eq_some_iff.mp cut
      obtain ⟨rfl, rfl⟩ := Prod.mk.inj equal
      obtain ⟨mark, stops, passesFront, rfl⟩ := inductionHypothesis front' cutRest
      refine ⟨mark, stops, ?_, rfl⟩
      intro d member
      rcases List.mem_cons.mp member with rfl | inFront
      · simpa using passes
      · exact passesFront d inFront

/-- The text before and behind a character, one of which it is put between. -/
theorem cutAt?_append (mark : Char) (front back : String) (free : mark ∉ front.toList) :
    cutAt? mark (front ++ String.singleton mark ++ back) = some (front, back) := by
  have chars : (front ++ String.singleton mark ++ back).toList =
      front.toList ++ mark :: back.toList := by simp
  have passes : ∀ c ∈ front.toList, (c == mark) = false := by
    intro c member
    simp only [beq_eq_false_iff_ne]
    rintro rfl
    exact free member
  rw [cutAt?, chars, cut?_append _ _ _ _ (by simp) passes]
  simp

theorem cutAt?_eq_none (mark : Char) (text : String) (free : mark ∉ text.toList) :
    cutAt? mark text = none := by
  have passes : ∀ c ∈ text.toList, (c == mark) = false := by
    intro c member
    simp only [beq_eq_false_iff_ne]
    rintro rfl
    exact free member
  rw [cutAt?, cut?_eq_none_of_forall _ _ passes]
  rfl

theorem cutAt?_eq_some_iff (mark : Char) (text front back : String) :
    cutAt? mark text = some (front, back) ↔
      mark ∉ front.toList ∧ text = front ++ String.singleton mark ++ back := by
  constructor
  · intro cut
    obtain ⟨⟨frontChars, backChars⟩, cutChars, equal⟩ := Option.map_eq_some_iff.mp cut
    obtain ⟨rfl, rfl⟩ := Prod.mk.inj equal
    obtain ⟨other, stops, passes, chars⟩ := cut?_eq_some _ _ _ _ cutChars
    obtain rfl : other = mark := by simpa using stops
    refine ⟨?_, ?_⟩
    · intro member
      simpa using passes other (by simpa using member)
    · apply String.toList_injective
      simpa using chars
  · rintro ⟨free, rfl⟩
    exact cutAt?_append mark front back free

/-! ### Splitting and joining -/

/-- A plug splits into a non-empty node without dots and a non-empty path, and into the two that it
is joined from. -/
theorem split?_eq_some_iff (plug node attr : String) :
    split? plug = some (node, attr) ↔
      node ≠ "" ∧ attr ≠ "" ∧ '.' ∉ node.toList ∧ join node attr = plug := by
  have joined : join node attr = node ++ String.singleton '.' ++ attr := rfl
  constructor
  · intro split
    rw [split?] at split
    split at split
    · rename_i front back cut
      split at split
      · cases split
      · rename_i filled
        obtain ⟨rfl, rfl⟩ := Prod.mk.inj (Option.some.inj split)
        obtain ⟨free, text⟩ := (cutAt?_eq_some_iff _ _ _ _).mp cut
        exact ⟨fun empty => filled (Or.inl empty), fun empty => filled (Or.inr empty), free,
          by rw [joined, text]⟩
    · cases split
  · rintro ⟨nodeFilled, attrFilled, free, rfl⟩
    rw [split?, joined, cutAt?_append _ _ _ free]
    simp [nodeFilled, attrFilled]

theorem split?_join (node attr : String) (nodeFilled : node ≠ "") (free : '.' ∉ node.toList)
    (attrFilled : attr ≠ "") : split? (join node attr) = some (node, attr) :=
  (split?_eq_some_iff _ _ _).mpr ⟨nodeFilled, attrFilled, free, rfl⟩

theorem join_of_split? {plug node attr : String} (split : split? plug = some (node, attr)) :
    join node attr = plug :=
  ((split?_eq_some_iff _ _ _).mp split).2.2.2

theorem join_injective (node : String) {first second : String}
    (equal : join node first = join node second) : first = second := by
  apply String.toList_injective
  have chars := congrArg String.toList equal
  simpa [join] using chars

/-- A plug comes from one node and path only. -/
theorem join_inj {node owner attr path : String} (free : '.' ∉ node.toList)
    (freeOwner : '.' ∉ owner.toList) (equal : join node attr = join owner path) :
    node = owner ∧ attr = path := by
  have front := cutAt?_append '.' node attr free
  have back := cutAt?_append '.' owner path freeOwner
  have cut : cutAt? '.' (join node attr) = cutAt? '.' (join owner path) := by rw [equal]
  exact Prod.mk.inj (Option.some.inj (front.symm.trans (cut.trans back)))

theorem split?_eq_none (text : String) (free : '.' ∉ text.toList) : split? text = none := by
  rw [split?, cutAt?_eq_none _ _ free]

end FormulaNet.Plug

/-! ### References -/

namespace FormulaNet.Reference

theorem text_node (name : String) (attrs : Attrs) : (node name attrs).text = attrs.text name := by
  rw [text, toOperand, Operand.text]

/-- A text is that of the reference it is read as, be it a plug or not. -/
theorem text_parse (path : String) : (parse path).text = path := by
  rw [parse]
  split
  · rename_i name attr split
    exact (text_node name (.one attr)).trans (Plug.join_of_split? split)
  · exact text_node path .bare

/-- A node with one attribute or none is read from its text. -/
theorem parse_text_node {name : String} {attrs : Attrs} (filled : name ≠ "")
    (free : '.' ∉ name.toList) (few : attrs = .bare ∨ ∃ attr, attr ≠ "" ∧ attrs = .one attr) :
    parse (node name attrs).text = node name attrs := by
  rcases few with rfl | ⟨attr, attrFilled, rfl⟩
  · have bare : (node name .bare).text = name := text_node name .bare
    rw [bare, parse, Plug.split?_eq_none name free]
  · have joined : (node name (.one attr)).text = Plug.join name attr := text_node name (.one attr)
    rw [joined, parse, Plug.split?_join name attr filled free attrFilled]

/-- Plug texts are a code for pairs of a non-empty node without dots and a non-empty path, and
references that name a node with one attribute or none are written in it. Reading a reference loses
nothing of any text. -/
theorem plug_text_codec :
    (∀ plug node attr, Plug.split? plug = some (node, attr) ↔
        node ≠ "" ∧ attr ≠ "" ∧ '.' ∉ node.toList ∧ Plug.join node attr = plug) ∧
      (∀ path, (parse path).text = path) ∧
      ∀ name attrs, name ≠ "" → '.' ∉ name.toList →
        (attrs = .bare ∨ ∃ attr, attr ≠ "" ∧ attrs = .one attr) →
          parse (node name attrs).text = node name attrs :=
  ⟨Plug.split?_eq_some_iff, text_parse, fun _ _ => parse_text_node⟩

/-- A path with an index and a dot of its own belongs to the node before the first dot. -/
theorem plug_text_codec_element :
    Plug.split? "pma.input3D[0].input3Dx" = some ("pma", "input3D[0].input3Dx") ∧
      (parse "..").text = ".." ∧
      parse (node "pma" (.one "input3D[0].input3Dx")).text =
        node "pma" (.one "input3D[0].input3Dx") := by
  obtain ⟨splits, reads, written⟩ := plug_text_codec
  exact ⟨(splits _ _ _).mpr (by decide), reads "..",
    written _ _ (by decide) (by decide) (Or.inr ⟨_, by decide, rfl⟩)⟩

end FormulaNet.Reference
