/-
This file says how the calls of a journal are told, letter by letter. The K-th
creation is `varK = create_node(..)` and the N-th read `valN = get(..)`; a plug on
a node that was created before is `varK + '.attr'`, and any other node or plug is
put in quotes as it is. What is logged is told so, since a log numbers creations
and reads as the journal does.

Who reads a line back takes a name to end at the next quote. So a line says which
nodes and plugs its call was about if and only if no quote stands in what it puts
in quotes: nothing escapes one.
-/

import Mathlib.Data.List.Forall2
import FormulaNet.Proofs.Place
import FormulaNet.Session.Host
import FormulaNet.Reference.Channel
import FormulaNet.Trace.Event

namespace FormulaNet

/-! ### Calls that are told -/

/-- The kinds of calls that a trace tells of. -/
def Call.Kind.isTraced : Call.Kind → Bool
  | set | connect | create | addAttribute | read => true
  | createContainer | group | expose | note => false

/-- The plugs and nodes that a trace writes for a call. -/
def Call.places : Call → List String
  | set plug _ => [plug]
  | connect source dest _ => [source, dest]
  | addAttribute node _ _ => [node]
  | read plug => [plug]
  | _ => []

def Outcome.isSuccess : Outcome → Bool
  | failed _ => false
  | done | made _ => true

namespace JournalEntry

/-- Whether a trace tells of an entry: it is of a traced kind, and it was carried out. -/
def isTraced (entry : JournalEntry) : Bool :=
  entry.call.kind.isTraced && entry.outcome.isSuccess

/-- The node that a call created. -/
def created? : JournalEntry → Option String
  | ⟨.create _ _, .made node⟩ => some node
  | _ => none

def isRead (entry : JournalEntry) : Bool := entry.call.kind == .read

end JournalEntry

/-- The nodes that were created by the calls of a journal, in order. -/
def createdNodes (entries : List JournalEntry) : List String :=
  entries.filterMap JournalEntry.created?

/-! ### Lines -/

/-- What a trace says of a new attribute behind its name. -/
def AttributeSpec.told (spec : AttributeSpec) : String :=
  ", attribute_type='" ++
  (match spec.kind with
    | .float => "float"
    | .int => "long"
    | .bool => "bool"
    | .enum _ => "enum") ++ "'" ++
  ", keyable=" ++ (if spec.keyable then "True" else "False") ++
  (match spec.kind with
    | .enum cases => ", enum_name='" ++ ":".intercalate cases ++ "'"
    | _ => "") ++
  (match spec.niceName with
    | some name => ", nice_name='" ++ name ++ "'"
    | none => "") ++
  (match spec.min with
    | some v => ", min_value=" ++ Number.text v
    | none => "") ++
  (match spec.max with
    | some v => ", max_value=" ++ Number.text v
    | none => "") ++
  (if spec.default == 0 then "" else ", default_value=" ++ Number.text spec.default)

namespace Trace

/-- How a node is written, and what of it stands in quotes: a created node is its variable, any
other is quoted. -/
inductive NodeText (nodes : List String) (node : String) : String → List String → Prop where
  | created {k : Nat} (earlier : nodes[k]? = some node) :
    NodeText nodes node ("var" ++ toString (k + 1)) []
  | quoted (other : node ∉ nodes) : NodeText nodes node ("'" ++ node ++ "'") [node]

/-- How a plug is written, and what of it stands in quotes: on a created node it is its attribute
path behind the variable, any other is quoted. -/
inductive PlugText (nodes : List String) (plug : String) : String → String → Prop where
  | member {k : Nat} {node attr : String} (earlier : nodes[k]? = some node)
    (isPlug : Plug.split? plug = some (node, attr)) :
    PlugText nodes plug ("var" ++ toString (k + 1) ++ " + '." ++ attr ++ "'") attr
  | quoted (other : ∀ node attr, Plug.split? plug = some (node, attr) → node ∉ nodes) :
    PlugText nodes plug ("'" ++ plug ++ "'") plug

/-- The line of a call, given the calls told before it, and what stands in quotes where it writes
nodes and plugs. A number that was set is written as one of the given literals is. -/
inductive Line (before : List JournalEntry) (literals : List Channel) :
    JournalEntry → String → List String → Prop where
  | create (type name node : String) :
    Line before literals ⟨.create type name, .made node⟩
      ("var" ++ toString ((createdNodes before).length + 1) ++ " = create_node('" ++ type ++
        "', name='" ++ node ++ "')") []
  | set {plug target part : String} {value : Float} {expression : Option String}
    (given : .literal value expression ∈ literals)
    (written : PlugText (createdNodes before) plug target part) :
    Line before literals ⟨.set plug value, .done⟩
      ("set(" ++ target ++ ", " ++ expression.getD (Number.text value) ++ ")") [part]
  | connect {source dest origin goal first second : String} {force : Bool}
    (writtenSource : PlugText (createdNodes before) source origin first)
    (writtenDest : PlugText (createdNodes before) dest goal second) :
    Line before literals ⟨.connect source dest force, .done⟩
      ("connect(" ++ origin ++ ", " ++ goal ++ ")") [first, second]
  | addAttribute {node name owner : String} {spec : AttributeSpec} {parts : List String}
    (written : NodeText (createdNodes before) node owner parts) :
    Line before literals ⟨.addAttribute node name spec, .done⟩
      ("add_attr(" ++ owner ++ ", long_name='" ++ name ++ "'" ++ spec.told ++ ")") parts
  | read {plug target part : String}
    (written : PlugText (createdNodes before) plug target part) :
    Line before literals ⟨.read plug, .done⟩
      ("val" ++ toString (before.countP JournalEntry.isRead + 1) ++ " = get(" ++ target ++ ")")
      [part]

/-! ### Logs, line by line -/

/-- How an entry of the journal is logged. What was set is logged as one of the given literals is
written. -/
inductive Renders (literals : List Channel) : JournalEntry → Trace.Event → Prop where
  | create (type name node : String) :
    Renders literals ⟨.create type name, .made node⟩ (.create node type)
  | set (plug : String) (value : Float) (expression : Option String)
    (given : .literal value expression ∈ literals) :
    Renders literals ⟨.set plug value, .done⟩ (.set plug (Channel.literal value expression).text)
  | connect (source dest : String) (force : Bool) :
    Renders literals ⟨.connect source dest force, .done⟩ (.connect source dest)
  | addAttribute (node name : String) (spec : AttributeSpec) :
    Renders literals ⟨.addAttribute node name spec, .done⟩ (.addAttribute node name spec.flags)
  | read (plug : String) : Renders literals ⟨.read plug, .done⟩ (.read plug)

theorem getElem?_of_idxOf? {nodes : List String} {node : String} {index : Nat}
    (found : nodes.idxOf? node = some index) : nodes[index]? = some node := by
  have located := List.findIdx?_eq_some_iff_getElem.mp found
  obtain ⟨inside, same, _⟩ := located
  rw [List.getElem?_eq_getElem inside, eq_of_beq same]

theorem nodeText_nodeTerm (nodes : List String) (node : String) :
    ∃ parts, NodeText nodes node (nodeTerm nodes node).text parts := by
  rw [nodeTerm]
  split
  · rename_i index found
    exact ⟨[], .created (getElem?_of_idxOf? found)⟩
  · rename_i missing
    exact ⟨[node], .quoted (List.idxOf?_eq_none_iff.mp missing)⟩

theorem plugText_plugTerm (nodes : List String) (plug : String) :
    ∃ part, PlugText nodes plug (plugTerm nodes plug).text part := by
  rw [plugTerm]
  split
  · rename_i node attr isPlug
    split
    · rename_i index found
      exact ⟨attr, .member (getElem?_of_idxOf? found) isPlug⟩
    · rename_i missing
      refine ⟨plug, .quoted fun other path same => ?_⟩
      obtain ⟨rfl, rfl⟩ := Prod.mk.inj (Option.some.inj (isPlug.symm.trans same))
      exact List.idxOf?_eq_none_iff.mp missing
  · rename_i noPlug
    exact ⟨plug, .quoted fun _ _ same => by cases noPlug.symm.trans same⟩

/-- Items behind commas. -/
def behindCommas (items : List String) : String :=
  items.foldr (fun item rest => ", " ++ item ++ rest) ""

theorem behindCommas_append (first second : List String) :
    behindCommas (first ++ second) = behindCommas first ++ behindCommas second := by
  induction first with
  | nil => exact String.empty_append.symm
  | cons item rest inductionHypothesis =>
    show ", " ++ item ++ behindCommas (rest ++ second) = _
    rw [inductionHypothesis, ← String.append_assoc]
    rfl

theorem intercalate_cons (first : String) (rest : List String) :
    ", ".intercalate (first :: rest) = first ++ behindCommas rest := by
  induction rest generalizing first with
  | nil => exact String.append_empty.symm
  | cons item rest inductionHypothesis =>
    rw [String.intercalate_cons_cons, inductionHypothesis, ← String.append_assoc]
    rw [String.append_assoc, String.append_assoc]
    rfl

theorem behindCommas_labelled {label tag : String} (tagged : ", " ++ label = tag) (text : String) :
    behindCommas [label ++ text] = tag ++ text := by
  show ", " ++ (label ++ text) ++ "" = _
  rw [String.append_empty, ← String.append_assoc, tagged]

theorem behindCommas_quoted {label tag : String} (tagged : ", " ++ label = tag) (text : String) :
    behindCommas [label ++ text ++ "'"] = tag ++ text ++ "'" := by
  rw [String.append_assoc, behindCommas_labelled tagged, String.append_assoc]

theorem behindCommas_option {label tag : String} (tagged : ", " ++ label = tag) (v : Option Float) :
    behindCommas (v.map fun x => label ++ Number.text x).toList =
      match v with
      | some x => tag ++ Number.text x
      | none => "" := by
  cases v with
  | none => rfl
  | some x => exact behindCommas_labelled tagged (Number.text x)

/-- The flags of a new attribute, as they stand behind its name. -/
theorem behindCommas_flags (spec : AttributeSpec) : behindCommas spec.flags = spec.told := by
  unfold AttributeSpec.flags AttributeSpec.told AttributeKind.name
  rw [behindCommas_append, behindCommas_append, behindCommas_append, behindCommas_append,
    behindCommas_append, ← List.singleton_append, behindCommas_append,
    behindCommas_quoted (by decide : _ = ", attribute_type='"),
    behindCommas_labelled (by decide : _ = ", keyable="), ← String.append_assoc,
    behindCommas_option (by decide : _ = ", min_value="),
    behindCommas_option (by decide : _ = ", max_value=")]
  congr 1
  · congr 2
    · congr 1
      · congr 1
        cases spec.kind with
        | enum cases => exact behindCommas_quoted (by decide) (":".intercalate cases)
        | _ => rfl
      · cases spec.niceName with
        | none => rfl
        | some name => exact behindCommas_quoted (by decide) name
  · split
    · rfl
    · exact behindCommas_labelled (by decide) _

theorem text_addAttribute (owner : Term) (name : String) (spec : AttributeSpec) :
    (Command.addAttribute owner name spec.flags).text =
      "add_attr(" ++ owner.text ++ ", long_name='" ++ name ++ "'" ++ spec.told ++ ")" := by
  rw [Command.text, intercalate_cons, ← List.singleton_append, behindCommas_append,
    behindCommas_flags, behindCommas_quoted (by decide : _ = ", long_name='")]
  simp only [String.append_assoc]

theorem Renders.created?_eq {literals : List Channel} {entry : JournalEntry} {event : Event}
    (renders : Renders literals entry event) : event.created? = entry.created? := by
  cases renders <;> rfl

theorem Renders.isRead_eq {literals : List Channel} {entry : JournalEntry} {event : Event}
    (renders : Renders literals entry event) : event.isRead = entry.isRead := by
  cases renders <;> rfl

theorem text_literal (value : Float) (expression : Option String) :
    (Channel.literal value expression).text = expression.getD (Number.text value) := by
  cases expression <;> rfl

/-- The line of a logged entry, behind a log with the creations and the reads of the journal. -/
theorem Renders.line {literals : List Channel} {entry : JournalEntry} {event : Event}
    (renders : Renders literals entry event) {before : List JournalEntry} {log : List Event}
    (nodes : created log = createdNodes before)
    (count : reads log = before.countP JournalEntry.isRead) :
    ∃ parts, Line before literals entry (command log event).text parts := by
  cases renders with
  | create type name node =>
    rw [command, nodes, Command.text, variableName]
    exact ⟨_, .create type name node⟩
  | set plug value expression given =>
    rw [command, nodes, Command.text, text_literal]
    obtain ⟨_, written⟩ := plugText_plugTerm (createdNodes before) plug
    exact ⟨_, .set given written⟩
  | connect source dest force =>
    rw [command, nodes, Command.text]
    obtain ⟨_, writtenSource⟩ := plugText_plugTerm (createdNodes before) source
    obtain ⟨_, writtenDest⟩ := plugText_plugTerm (createdNodes before) dest
    exact ⟨_, .connect writtenSource writtenDest⟩
  | addAttribute node name spec =>
    rw [command, nodes]
    obtain ⟨parts, written⟩ := nodeText_nodeTerm (createdNodes before) node
    rw [text_addAttribute]
    exact ⟨parts, .addAttribute written⟩
  | read plug =>
    rw [command, nodes, count, Command.text, readLabel]
    obtain ⟨_, written⟩ := plugText_plugTerm (createdNodes before) plug
    exact ⟨_, .read written⟩

theorem getElem?_commandsAfter (before log : List Event) (index : Nat) :
    (commandsAfter before log)[index]? = log[index]?.map (command (before ++ log.take index)) := by
  induction log generalizing before index with
  | nil => rfl
  | cons event rest inductionHypothesis =>
    cases index with
    | zero => simp [commandsAfter]
    | succ index => simp [commandsAfter, inductionHypothesis]

/-- A command is the command of its event, given the events before. -/
theorem getElem?_commands (log : List Event) (index : Nat) :
    (commands log)[index]? = log[index]?.map (command (log.take index)) :=
  getElem?_commandsAfter [] log index

theorem length_commandsAfter (before log : List Event) :
    (commandsAfter before log).length = log.length := by
  induction log generalizing before with
  | nil => rfl
  | cons event rest inductionHypothesis =>
    rw [commandsAfter, List.length_cons, inductionHypothesis, List.length_cons]

section Logs

variable {α : Type} (literals : α → List Channel) {calls : List (α × JournalEntry)}
  {log : List Event}

/-- A log has the creations and the reads of the calls that it renders. -/
theorem created_reads_of_renders
    (renders : List.Forall₂ (fun call event => Renders (literals call.1) call.2 event) calls log) :
    created log = createdNodes (calls.map Prod.snd) ∧
      reads log = (calls.map Prod.snd).countP JournalEntry.isRead := by
  induction renders with
  | nil => exact ⟨rfl, rfl⟩
  | @cons call event calls log first _ inductionHypothesis =>
    obtain ⟨nodes, count⟩ := inductionHypothesis
    constructor
    · rw [created, List.filterMap_cons, first.created?_eq, ← created, nodes]
      rfl
    · rw [reads, List.countP_cons, first.isRead_eq, ← reads, count, List.map_cons, List.countP_cons]

/-- A log that renders calls is written out as their lines. -/
theorem texts_told
    (renders : List.Forall₂ (fun call event => Renders (literals call.1) call.2 event) calls log) :
    (texts log).length = calls.length ∧
      ∀ i call line, calls[i]? = some call → (texts log)[i]? = some line →
        ∃ parts, Line ((calls.take i).map Prod.snd) (literals call.1) call.2 line parts := by
  constructor
  · rw [texts, List.length_map, commands, length_commandsAfter, renders.length_eq]
  · intro i call line position written
    rw [texts, List.getElem?_map, getElem?_commands, Option.map_map] at written
    obtain ⟨event, there, rfl⟩ := Option.map_eq_some_iff.mp written
    obtain ⟨inside, rfl⟩ := List.getElem?_eq_some_iff.mp position
    obtain ⟨insideLog, rfl⟩ := List.getElem?_eq_some_iff.mp there
    obtain ⟨nodes, count⟩ := created_reads_of_renders literals (List.forall₂_take i renders)
    exact (renders.get inside insideLog).line nodes count

end Logs

/-! ### Reading lines -/

/-- The term at the front of a text, and what stands behind it. What is in quotes ends at the next
quote. -/
def term? : List Char → Option (Term × List Char)
  | '\'' :: rest =>
    (Plug.cut? (· == '\'') rest).map fun (name, behind) => (.quoted (.ofList name), behind)
  | 'v' :: 'a' :: 'r' :: rest =>
    let index := Number.digitsValue (rest.takeWhile Char.isDigit)
    match rest.dropWhile Char.isDigit with
    | ' ' :: '+' :: ' ' :: '\'' :: '.' :: path =>
      (Plug.cut? (· == '\'') path).map fun (attr, behind) => (.member index (.ofList attr), behind)
    | behind => some (.created index, behind)
  | _ => none

/-- A term, and the one behind the comma that follows it. -/
def bothTerms? (first : Term) : List Char → Option (List Term)
  | ',' :: ' ' :: rest => (term? rest).map fun (second, _) => [first, second]
  | _ => none

/-- The terms of a line where nodes and plugs are written: two in a connection, none in a creation
and one in any other line. What a line does is the last word before its bracket. -/
def terms? (line : String) : Option (List Term) := do
  let (head, arguments) ← Plug.cut? (· == '(') line.toList
  let word := String.ofList (Plug.afterLast ' ' head)
  if word = "create_node" then
    some []
  else
    let (first, behind) ← term? arguments
    if word = "connect" then bothTerms? first behind else some [first]

/-- The node or plug that a term stands for, given the nodes created before. -/
def Term.place? (nodes : List String) : Term → Option String
  | quoted text => some text
  | created (index + 1) => nodes[index]?
  | member (index + 1) attr => nodes[index]?.map fun node => Plug.join node attr
  | _ => none

/-- The nodes and plugs that a line is about, given the nodes created before it. -/
def places? (nodes : List String) (line : String) : Option (List String) :=
  (terms? line).bind (·.mapM (·.place? nodes))

/-- What is in quotes is read up to its first quote. -/
theorem cut?_quote (text rest : List Char) :
    ∃ front behind, Plug.cut? (· == '\'') (text ++ '\'' :: rest) = some (front, behind) ∧
      (front = text ↔ '\'' ∉ text) ∧ ('\'' ∉ text → behind = rest) := by
  induction text with
  | nil => exact ⟨[], rest, rfl, by simp, fun _ => rfl⟩
  | cons c text inductionHypothesis =>
    obtain ⟨front, behind, cut, whole, left⟩ := inductionHypothesis
    by_cases quote : c = '\''
    · subst quote
      exact ⟨[], text ++ '\'' :: rest, rfl, by simp, fun free => (free List.mem_cons_self).elim⟩
    · refine ⟨c :: front, behind, ?_, ?_, ?_⟩
      · simp [Plug.cut?, quote, cut]
      · simp [whole, Ne.symm quote]
      · exact fun free => left fun member => free (List.mem_cons_of_mem _ member)

/-- A text in front of a rest is read as a place if and only if no quote stands in its quoted
parts, and then it is read to its end. -/
def Recovers (nodes : List String) (place : String) (parts : List String) (text rest : List Char) :
    Prop :=
  ∃ term behind, term? (text ++ rest) = some (term, behind) ∧
    (term.place? nodes = some place ↔ ∀ part ∈ parts, '\'' ∉ part.toList) ∧
    ((∀ part ∈ parts, '\'' ∉ part.toList) → behind = rest)

theorem ofList_eq_iff (front : List Char) (text : String) :
    String.ofList front = text ↔ front = text.toList := by
  constructor
  · rintro rfl
    exact String.toList_ofList.symm
  · rintro rfl
    exact String.ofList_toList

theorem recovers_quoted (nodes : List String) (place : String) (rest : List Char) :
    Recovers nodes place [place] ("'" ++ place ++ "'").toList rest := by
  obtain ⟨front, behind, cut, whole, left⟩ := cut?_quote place.toList rest
  have chars : ("'" ++ place ++ "'").toList ++ rest = '\'' :: (place.toList ++ '\'' :: rest) := by
    simp
  refine ⟨.quoted (.ofList front), behind, ?_, ?_, ?_⟩
  · rw [chars, term?, cut]
    rfl
  · rw [Term.place?, Option.some_inj, ofList_eq_iff, whole, List.forall_mem_singleton]
  · rw [List.forall_mem_singleton]
    exact left

theorem span_digits (n : Nat) {c : Char} (noDigit : c.isDigit = false) (rest : List Char) :
    ((toString n).toList ++ c :: rest).takeWhile Char.isDigit = (toString n).toList ∧
      ((toString n).toList ++ c :: rest).dropWhile Char.isDigit = c :: rest := by
  have digits : ∀ d ∈ (toString n).toList, d.isDigit = true :=
    fun _ => Number.isDigit_of_mem_toString
  constructor
  · rw [List.takeWhile_append_of_pos digits, List.takeWhile_cons_of_neg (by simp [noDigit]),
      List.append_nil]
  · rw [List.dropWhile_append_of_pos digits, List.dropWhile_cons_of_neg (by simp [noDigit])]

theorem recovers_created {nodes : List String} {node : String} {k : Nat}
    (earlier : nodes[k]? = some node) (rest : List Char) :
    Recovers nodes node [] ("var" ++ toString (k + 1)).toList (',' :: rest) := by
  obtain ⟨number, left⟩ := span_digits (k + 1) (c := ',') rfl rest
  have chars : ("var" ++ toString (k + 1)).toList ++ ',' :: rest =
      'v' :: 'a' :: 'r' :: ((toString (k + 1)).toList ++ ',' :: rest) := by
    rw [String.toList_append]
    rfl
  refine ⟨.created (k + 1), ',' :: rest, ?_, ?_, fun _ => rfl⟩
  · rw [chars, term?, number, left, Number.digitsValue_toString]
    rfl
  · rw [Term.place?, earlier]
    simp

theorem recovers_member {nodes : List String} {node : String} {k : Nat}
    (earlier : nodes[k]? = some node) (attr : String) (rest : List Char) :
    Recovers nodes (Plug.join node attr) [attr]
      ("var" ++ toString (k + 1) ++ " + '." ++ attr ++ "'").toList rest := by
  obtain ⟨front, behind, cut, whole, behindWhole⟩ := cut?_quote attr.toList rest
  obtain ⟨number, left⟩ := span_digits (k + 1) (c := ' ') rfl
    ('+' :: ' ' :: '\'' :: '.' :: (attr.toList ++ '\'' :: rest))
  have chars : ("var" ++ toString (k + 1) ++ " + '." ++ attr ++ "'").toList ++ rest =
      'v' :: 'a' :: 'r' :: ((toString (k + 1)).toList ++
        ' ' :: '+' :: ' ' :: '\'' :: '.' :: (attr.toList ++ '\'' :: rest)) := by
    simp only [String.toList_append, List.append_assoc]
    rfl
  refine ⟨.member (k + 1) (.ofList front), behind, ?_, ?_, ?_⟩
  · rw [chars, term?, number, left, Number.digitsValue_toString]
    simp only [cut, Option.map_some]
  · rw [Term.place?, earlier, Option.map_some, Option.some_inj, Plug.join, Plug.join,
      String.append_right_inj, ofList_eq_iff, whole, List.forall_mem_singleton]
  · rw [List.forall_mem_singleton]
    exact behindWhole

theorem PlugText.recovers {nodes : List String} {plug text part : String}
    (written : PlugText nodes plug text part) (rest : List Char) :
    Recovers nodes plug [part] text.toList rest := by
  cases written with
  | member earlier isPlug =>
    rw [← Plug.join_of_split? isPlug]
    exact recovers_member earlier part rest
  | quoted _ => exact recovers_quoted nodes plug rest

theorem NodeText.recovers {nodes : List String} {node text : String} {parts : List String}
    (written : NodeText nodes node text parts) (rest : List Char) :
    Recovers nodes node parts text.toList (',' :: rest) := by
  cases written with
  | created earlier => exact recovers_created earlier rest
  | quoted _ => exact recovers_quoted nodes node _

/-- What stands before the bracket of a line, and the word that it ends in. -/
structure Head (head : List Char) (word : String) : Prop where
  plain : '(' ∉ head
  last : String.ofList (Plug.afterLast ' ' head) = word

theorem afterLast_blank (front : List Char) {word : List Char} (free : ' ' ∉ word) :
    Plug.afterLast ' ' (front ++ ' ' :: word) = word := by
  induction front with
  | nil => rw [List.nil_append, Plug.afterLast, if_neg (by simpa using free), if_pos rfl]
  | cons c rest inductionHypothesis =>
    rw [List.cons_append, Plug.afterLast, if_pos (by simp), inductionHypothesis]

/-- A label with its number, and the word behind the equality sign. -/
theorem Head.labelled (label word : String) (plainLabel : '(' ∉ label.toList)
    (plainWord : '(' ∉ word.toList) (free : ' ' ∉ word.toList) (number : Nat) :
    Head (label.toList ++ (toString number).toList ++ " =".toList ++ ' ' :: word.toList) word where
  plain := by
    have digits := Number.not_mem_toString (c := '(') rfl number
    simp only [List.mem_append, List.mem_cons, not_or]
    exact ⟨⟨⟨plainLabel, digits⟩, by decide⟩, by decide, plainWord⟩
  last := by rw [afterLast_blank _ free, String.ofList_toList]

theorem Head.cut? {head : List Char} {word : String} (isHead : Head head word)
    (arguments : List Char) :
    Plug.cut? (· == '(') (head ++ '(' :: arguments) = some (head, arguments) := by
  refine Plug.cut?_append _ _ _ _ rfl fun c member => ?_
  rw [beq_eq_false_iff_ne]
  rintro rfl
  exact isHead.plain member

/-- A creation is about no place. -/
theorem places?_creation {line : String} {head : List Char} (isHead : Head head "create_node")
    (arguments : List Char) (chars : line.toList = head ++ '(' :: arguments) (nodes : List String) :
    places? nodes line = some [] := by
  have terms : terms? line = some [] := by
    rw [terms?, chars, isHead.cut?]
    simp only [Option.bind_eq_bind, Option.bind_some, isHead.last, if_true]
  rw [places?, terms]
  rfl

section Lines

variable {nodes : List String} {line word : String} {head arguments : List Char}
  (isHead : Head head word) (chars : line.toList = head ++ '(' :: arguments)
  {term : Term} {behind : List Char} (read : term? arguments = some (term, behind))
include isHead chars read

theorem terms?_connection (connection : word = "connect") :
    terms? line = bothTerms? term behind := by
  have noCreation : word ≠ "create_node" := by
    rw [connection]
    decide
  rw [terms?, chars, isHead.cut?]
  simp only [Option.bind_eq_bind, Option.bind_some, isHead.last, if_neg noCreation, read,
    if_pos connection]

/-- A line with one term is about a place if its term is. -/
theorem places?_one (noCreation : word ≠ "create_node") (noConnection : word ≠ "connect")
    (place : String) : places? nodes line = some [place] ↔ term.place? nodes = some place := by
  have terms : terms? line = some [term] := by
    rw [terms?, chars, isHead.cut?]
    simp only [Option.bind_eq_bind, Option.bind_some, isHead.last, if_neg noCreation, read,
      if_neg noConnection]
  rw [places?, terms]
  cases found : term.place? nodes with
  | none => simp [found]
  | some other => simp [found]

end Lines

theorem mapM_place?_cons (nodes : List String) (term : Term) (terms : List Term) (place : String)
    (places : List String) : (term :: terms).mapM (·.place? nodes) = some (place :: places) ↔
      term.place? nodes = some place ∧ terms.mapM (·.place? nodes) = some places := by
  rw [List.mapM_cons]
  simp [Option.bind_eq_some_iff]

/-- A connection is about two places if its terms are. -/
theorem places?_connection {nodes : List String} {line source dest : String}
    {parts others : List String} {origin goal rest : List Char}
    (first : Recovers nodes source parts origin (',' :: ' ' :: (goal ++ rest)))
    (second : Recovers nodes dest others goal rest)
    (chars : line.toList = "connect".toList ++ '(' :: (origin ++ ',' :: ' ' :: (goal ++ rest))) :
    places? nodes line = some [source, dest] ↔ ∀ part ∈ parts ++ others, '\'' ∉ part.toList := by
  obtain ⟨term, behind, read, same, left⟩ := first
  obtain ⟨other, _, readOther, sameOther, _⟩ := second
  have terms := terms?_connection ⟨by decide, by decide⟩ chars read rfl
  rw [List.forall_mem_append]
  by_cases free : ∀ part ∈ parts, '\'' ∉ part.toList
  · obtain rfl := left free
    rw [bothTerms?, readOther] at terms
    rw [places?, terms, Option.map_some, Option.bind_some, mapM_place?_cons, mapM_place?_cons, same, sameOther]
    simp
  · -- A quote in the first term makes it another place, whatever is read behind it.
    refine iff_of_false (fun found => free (same.mp ?_)) fun all => free all.1
    rw [places?] at found
    obtain ⟨list, isList, mapped⟩ := Option.bind_eq_some_iff.mp found
    rw [terms, bothTerms?.eq_def] at isList
    split at isList
    · obtain ⟨_, _, rfl⟩ := Option.map_eq_some_iff.mp isList
      exact ((mapM_place?_cons ..).mp mapped).1
    · cases isList

/-- A line says which nodes and plugs its call was about if and only if no quote stands in what it
puts in quotes there. -/
theorem Line.places?_iff {before : List JournalEntry} {literals : List Channel}
    {entry : JournalEntry} {line : String} {parts : List String}
    (told : Line before literals entry line parts) :
    places? (createdNodes before) line = some entry.call.places ↔
      ∀ part ∈ parts, '\'' ∉ part.toList := by
  cases told with
  | create type name node =>
    have isHead := Head.labelled "var" "create_node" (by decide) (by decide) (by decide)
      ((createdNodes before).length + 1)
    refine iff_of_true (places?_creation isHead
      ("'" ++ type ++ "', name='" ++ node ++ "')").toList ?_ _) (by simp)
    simp only [String.toList_append, List.append_assoc]
    rfl
  | @set plug target part value expression given written =>
    obtain ⟨term, behind, read, same, _⟩ := written.recovers
      (", " ++ expression.getD (Number.text value) ++ ")").toList
    rw [← same]
    have isHead : Head "set".toList "set" := ⟨by decide, rfl⟩
    refine places?_one isHead ?_ read (by decide) (by decide) plug
    simp only [String.toList_append, List.append_assoc]
    rfl
  | connect writtenSource writtenDest =>
    refine places?_connection (writtenSource.recovers _) (writtenDest.recovers [')']) ?_
    simp only [String.toList_append, List.append_assoc]
    rfl
  | @addAttribute node name owner spec parts written =>
    obtain ⟨term, behind, read, same, _⟩ := written.recovers
      (" long_name='" ++ name ++ "'" ++ spec.told ++ ")").toList
    rw [← same]
    have isHead : Head "add_attr".toList "add_attr" := ⟨by decide, rfl⟩
    refine places?_one isHead ?_ read (by decide) (by decide) node
    simp only [String.toList_append, List.append_assoc]
    rfl
  | @read plug target part written =>
    have isHead := Head.labelled "val" "get" (by decide) (by decide) (by decide)
      (before.countP JournalEntry.isRead + 1)
    obtain ⟨term, behind, read, same, _⟩ := written.recovers [')']
    rw [← same]
    refine places?_one isHead ?_ read (by decide) (by decide) plug
    simp only [String.toList_append, List.append_assoc]
    rfl

end Trace

end FormulaNet
