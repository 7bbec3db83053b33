import Mathlib.Data.List.Forall2
import SpanWeave.Proofs.Text.Trimming
import SpanWeave.Reading
import SpanWeave.Wrapper.Signature

/-!
# What parameter lists say

Slashes apart, a parameter list can be handed on exactly if it has a node and every node is one
named parameter. Then the first name is the receiver's, and the others are numbered in order, each
with the annotation that was written for it, if one was. Any other list has the defect of the first
node that is no named parameter, or lacks a receiver, and there is no signature for it.
-/

set_option autoImplicit false

namespace SpanWeave

namespace Source.ParameterNode

/-! ## Nodes -/

/-- What stands where an annotation may stand, and the annotation that it is: nothing and blanks are
none, anything else is one without the blanks around it. -/
inductive Annotates : Option String → Option String → Prop
  | absent : Annotates none none
  | blank {written : String} (h : Text.isBlankText written = true) : Annotates (some written) none
  | given {written : String} (h : Text.isBlankText written = false) :
    Annotates (some written) (some (Text.strip written))

/-- A node that is one named parameter, with its name and its annotation. -/
inductive Declares : ParameterNode → String → Option String → Prop
  | plain (name : String) : Declares (.plain name) name none
  | typed (name type : String) {note? : Option String} (h : Annotates (some type) note?) :
    Declares (.typed (some name) type) name note?
  | default (name : String) (type? : Option String) (written : String) {note? : Option String}
    (h : Annotates type? note?) : Declares (.default (some name) type? written) name note?

/-- A node that is no named parameter, with what stands against it. -/
inductive Offends : ParameterNode → Defect → Prop
  | variadic : Offends .variadic .variadic
  | typedVariadic (type : String) : Offends (.typed none type) .variadic
  | keywordMarker : Offends .keywordMarker .keywordOnly
  | defaultPattern (type? : Option String) (written : String) :
    Offends (.default none type? written) (.unsupported written)
  | other (written : String) : Offends (.other written) (.unsupported written)

/-- Whether a node is one named parameter. -/
def IsNamed (node : ParameterNode) : Prop := ∃ name type?, node.Declares name type?

theorem annotates_iff {written? note? : Option String} :
    Annotates written? note? ↔ note? = nonBlank (written?.map Text.strip) := by
  have hblank : ∀ written : String,
      nonBlank (some (Text.strip written)) =
        if Text.isBlankText written then none else some (Text.strip written) := by
    intro written
    unfold nonBlank
    simp only [Option.filter_some, bne_iff_ne, Ne, Text.strip_eq_empty_iff, ite_not]
  constructor
  · intro h
    cases h with
    | absent => rfl
    | blank h => rw [Option.map_some, hblank, if_pos h]
    | given h => rw [Option.map_some, hblank, if_neg (by simp [h])]
  · rintro rfl
    cases written? with
    | none => exact .absent
    | some written =>
      rw [Option.map_some, hblank]
      split
      · exact .blank ‹_›
      · exact .given (Bool.eq_false_iff.mpr ‹_›)

theorem declares_iff {node : ParameterNode} {name : String} {note? : Option String} :
    node.Declares name note? ↔
      ∃ written?, node.meaning = .ok (name, written?) ∧ note? = nonBlank written? := by
  constructor
  · intro h
    cases h with
    | plain name => exact ⟨none, rfl, rfl⟩
    | typed name type h => exact ⟨_, rfl, annotates_iff.mp h⟩
    | default name type? written h => exact ⟨_, rfl, annotates_iff.mp h⟩
  · rintro ⟨written?, hmeaning, rfl⟩
    cases node with
    | plain name =>
      cases hmeaning
      exact .plain name
    | typed name? type =>
      cases name? <;> cases hmeaning
      exact .typed _ _ (annotates_iff.mpr rfl)
    | default name? type? written =>
      cases name? <;> cases hmeaning
      exact .default _ _ _ (annotates_iff.mpr rfl)
    | _ => cases hmeaning

theorem isNamed_iff {node : ParameterNode} :
    node.IsNamed ↔ ∃ item, node.meaning = .ok item := by
  constructor
  · rintro ⟨name, type?, hnode⟩
    obtain ⟨written?, hmeaning, -⟩ := declares_iff.mp hnode
    exact ⟨_, hmeaning⟩
  · rintro ⟨⟨name, written?⟩, hmeaning⟩
    exact ⟨name, _, declares_iff.mpr ⟨written?, hmeaning, rfl⟩⟩

theorem offends_of_meaning {node : ParameterNode} {d : Defect} (hnode : node ≠ .positionalMarker)
    (h : node.meaning = .error d) : node.Offends d := by
  cases node with
  | plain name => cases h
  | typed name? type =>
    cases name? <;> cases h
    exact .typedVariadic type
  | default name? type? written =>
    cases name? <;> cases h
    exact .defaultPattern type? written
  | variadic =>
    cases h
    exact .variadic
  | keywordMarker =>
    cases h
    exact .keywordMarker
  | positionalMarker => exact absurd rfl hnode
  | other written =>
    cases h
    exact .other written

/-- Every defect of a node is given in words. -/
theorem Offends.reason_ne {node : ParameterNode} {d : Defect} (h : node.Offends d) :
    d.reason ≠ "" := by
  have hunsupported : ∀ written, (Defect.unsupported written).reason ≠ "" := by
    intro written hempty
    obtain ⟨hfront, -⟩ := String.append_eq_empty_iff.mp hempty
    obtain ⟨hfront, -⟩ := String.append_eq_empty_iff.mp hfront
    exact absurd hfront (by decide)
  cases h with
  | variadic => decide
  | typedVariadic type => decide
  | keywordMarker => decide
  | defaultPattern type? written => exact hunsupported written
  | other written => exact hunsupported written

end Source.ParameterNode

open Source

variable {nodes : List ParameterNode}

/-! ## Lists of nodes -/

theorem firstDefect?_eq_none_iff :
    firstDefect? nodes = none ↔ ∀ node ∈ nodes, node.IsNamed := by
  induction nodes with
  | nil => simp [firstDefect?]
  | cons node nodes ih =>
    rw [firstDefect?, List.forall_mem_cons, ParameterNode.isNamed_iff]
    cases node.meaning with
    | ok item => simpa using ih
    | error d => simp

/-- The first defect is that of a node behind named parameters only. -/
theorem exists_of_firstDefect?_eq_some {d : Defect} (h : firstDefect? nodes = some d) :
    ∃ before node after, nodes = before ++ node :: after ∧ (∀ b ∈ before, b.IsNamed) ∧
      node.meaning = .error d := by
  induction nodes with
  | nil => cases h
  | cons node nodes ih =>
    rw [firstDefect?] at h
    split at h
    · rename_i defect hmeaning
      cases h
      exact ⟨[], node, nodes, rfl, List.forall_mem_nil _, hmeaning⟩
    · rename_i item hmeaning
      obtain ⟨before, other, after, rfl, hbefore, hother⟩ := ih h
      refine ⟨node :: before, other, after, rfl, ?_, hother⟩
      exact List.forall_mem_cons.mpr ⟨ParameterNode.isNamed_iff.mpr ⟨item, hmeaning⟩, hbefore⟩

theorem firstDefect?_ne_none_of_meanings (hne : nodes ≠ []) (h : meanings nodes = []) :
    firstDefect? nodes ≠ none := by
  intro hnone
  obtain ⟨node, rest, rfl⟩ := List.exists_cons_of_ne_nil hne
  have hnamed := firstDefect?_eq_none_iff.mp hnone node List.mem_cons_self
  obtain ⟨item, hmeaning⟩ := ParameterNode.isNamed_iff.mp hnamed
  have hmem : item ∈ meanings (node :: rest) :=
    List.mem_filterMap.mpr ⟨node, List.mem_cons_self, by rw [hmeaning]; rfl⟩
  rw [h] at hmem
  cases hmem

/-- A node that declares an item of a list of names and annotations. -/
def DeclaresItem (node : ParameterNode) (item : String × Option String) : Prop :=
  node.Declares item.1 item.2

theorem rightUnique_declaresItem : Relator.RightUnique DeclaresItem := by
  intro node item other hitem hother
  obtain ⟨written?, hmeaning, htype⟩ := ParameterNode.declares_iff.mp hitem
  obtain ⟨_, hsame, htype'⟩ := ParameterNode.declares_iff.mp hother
  obtain ⟨hname, rfl⟩ := Prod.mk.inj (Except.ok.inj (hmeaning.symm.trans hsame))
  exact Prod.ext hname (htype.trans htype'.symm)

/-- Named parameters declare their meanings one by one. -/
theorem declares_meanings (h : ∀ node ∈ nodes, node.IsNamed) :
    List.Forall₂ DeclaresItem nodes ((meanings nodes).map fun item => (item.1, nonBlank item.2)) := by
  induction nodes with
  | nil => exact .nil
  | cons node nodes ih =>
    obtain ⟨hnode, hnodes⟩ := List.forall_mem_cons.mp h
    obtain ⟨item, hmeaning⟩ := ParameterNode.isNamed_iff.mp hnode
    have hcons : meanings (node :: nodes) = item :: meanings nodes := by
      unfold meanings
      rw [List.filterMap_cons_some (by rw [hmeaning]; rfl)]
    rw [hcons, List.map_cons]
    exact .cons (ParameterNode.declares_iff.mpr ⟨item.2, hmeaning, rfl⟩) (ih hnodes)

theorem numbered_eq_mapIdx (start : Nat) (items : List (String × Option String)) :
    numbered start items =
      (items.map fun item => (item.1, nonBlank item.2)).mapIdx
        fun i item => ⟨item.1, item.2, start + i⟩ := by
  induction items generalizing start with
  | nil => rfl
  | cons item items ih =>
    rw [numbered, List.map_cons, List.mapIdx_cons, ih]
    simp only [Nat.add_zero, Nat.add_assoc, Nat.add_comm 1]

namespace ParameterList

/-! ## Parameter lists -/

/-- What stands against a list of nodes: it is empty, or a node behind named parameters only is none.
-/
inductive FirstDefect : List ParameterNode → Defect → Prop
  | empty : FirstDefect [] .noReceiver
  | behind {before : List ParameterNode} {node : ParameterNode} {d : Defect}
    (named : ∀ b ∈ before, b.IsNamed) (offends : node.Offends d) (after : List ParameterNode) :
    FirstDefect (before ++ node :: after) d

theorem FirstDefect.reason_ne {d : Defect} (h : FirstDefect nodes d) : d.reason ≠ "" := by
  cases h with
  | empty => decide
  | behind named offends after => exact offends.reason_ne

/-- A list has no defect exactly if it has nodes and all of them are named. -/
theorem defect_ofNode_eq_none_iff (text : String) :
    (ofNode ⟨text, some nodes⟩).defect = none ↔
      nodes.filter (· != .positionalMarker) ≠ [] ∧
        ∀ node ∈ nodes.filter (· != .positionalMarker), node.IsNamed := by
  unfold ofNode
  dsimp only
  generalize nodes.filter (· != .positionalMarker) = written
  rw [← firstDefect?_eq_none_iff]
  split
  · rename_i hmeanings
    constructor
    · intro h
      cases h
    · rintro ⟨hne, hnone⟩
      exact absurd hnone (firstDefect?_ne_none_of_meanings hne hmeanings)
  · rename_i receiver type rest hmeanings
    have hne : written ≠ [] := by
      rintro rfl
      cases hmeanings
    simp [hne]

/-- A defect of a list is that of its first node that is not named. -/
theorem firstDefect_of_ofNode {text : String} {d : Defect}
    (h : (ofNode ⟨text, some nodes⟩).defect = some d) :
    FirstDefect (nodes.filter (· != .positionalMarker)) d := by
  have hslash : ∀ node ∈ nodes.filter (· != .positionalMarker), node ≠ .positionalMarker := by
    intro node hnode
    simpa using (List.mem_filter.mp hnode).2
  unfold ofNode at h
  dsimp only at h
  generalize nodes.filter (· != .positionalMarker) = written at h hslash
  have hfirst : ∀ e, firstDefect? written = some e → FirstDefect written e := by
    intro e he
    obtain ⟨before, node, after, rfl, hbefore, hmeaning⟩ := exists_of_firstDefect?_eq_some he
    exact .behind hbefore (ParameterNode.offends_of_meaning (hslash node (by simp)) hmeaning) after
  split at h
  · rename_i hmeanings
    cases hdefect : firstDefect? written with
    | some e =>
      rw [hdefect] at h
      cases h
      exact hfirst e hdefect
    | none =>
      rw [hdefect] at h
      cases h
      -- without a defect and without a name there is no node at all
      by_cases hne : written = []
      · rw [hne]
        exact .empty
      · exact absurd hdefect (firstDefect?_ne_none_of_meanings hne hmeanings)
  · exact hfirst d h

/-- A list of named parameters calls the first one the receiver and numbers the others. -/
theorem ofNode_of_named (text : String) (hne : nodes.filter (· != .positionalMarker) ≠ [])
    (h : ∀ node ∈ nodes.filter (· != .positionalMarker), node.IsNamed) :
    ∃ receiver items,
      List.Forall₂ DeclaresItem (nodes.filter (· != .positionalMarker)) (receiver :: items) ∧
      ofNode ⟨text, some nodes⟩ =
        ⟨text, some receiver.1, items.mapIdx fun i item => ⟨item.1, item.2, i⟩, none⟩ := by
  have hdeclares := declares_meanings h
  have hnone := firstDefect?_eq_none_iff.mpr h
  unfold ofNode
  dsimp only
  generalize nodes.filter (· != .positionalMarker) = written at *
  rw [hnone]
  cases hmeanings : meanings written with
  | nil => exact absurd hnone (firstDefect?_ne_none_of_meanings hne hmeanings)
  | cons receiver rest =>
    rw [hmeanings, List.map_cons] at hdeclares
    refine ⟨_, _, hdeclares, ?_⟩
    dsimp only
    rw [numbered_eq_mapIdx]
    simp only [Nat.zero_add]

/-- A parameter list that the grammar allows has no defect exactly if, slashes apart, it has a node
and all its nodes are named parameters: then the first one names the receiver, the others are the
parameters in order, and there is a signature with the text of the list. Any other list has the
defect of its first node that is no named parameter, or lacks a receiver if it has no node, and there
is no signature for it. -/
theorem ofNode_reads_exactly (text : String) (nodes : List ParameterNode) :
    let list := ofNode ⟨text, some nodes⟩
    let written := nodes.filter (· != .positionalMarker)
    (list.defect = none ↔ written ≠ [] ∧ ∀ node ∈ written, node.IsNamed) ∧
    (list.defect = none →
      (∃ receiver items, List.Forall₂ DeclaresItem written (receiver :: items) ∧
        list.receiver = some receiver.1 ∧
        list.parameters = items.mapIdx fun i item => ⟨item.1, item.2, i⟩) ∧
      ∃ forwarding, Signature.ofParameters (some list) = .ok ⟨text, forwarding⟩) ∧
    (list.defect ≠ none → ∃ d, list.defect = some d ∧ FirstDefect written d ∧
      Signature.ofParameters (some list) = .error (.unforwardable text d)) := by
  intro list written
  have htext : list.text = text := by
    unfold list ofNode
    dsimp only
    split <;> rfl
  have hiff : list.defect = none ↔ written ≠ [] ∧ ∀ node ∈ written, node.IsNamed :=
    defect_ofNode_eq_none_iff text
  refine ⟨hiff, ?_, ?_⟩
  · intro hnone
    obtain ⟨hne, hnamed⟩ := hiff.mp hnone
    constructor
    · obtain ⟨receiver, items, hdeclares, hlist⟩ := ofNode_of_named text hne hnamed
      exact ⟨receiver, items, hdeclares, congrArg ParameterList.receiver hlist,
        congrArg ParameterList.parameters hlist⟩
    · have hflaw : list.flaw? = none := by
        unfold flaw?
        rw [hnone]
        rfl
      unfold Signature.ofParameters
      dsimp only
      rw [hflaw, htext]
      exact ⟨_, rfl⟩
  · intro hsome
    obtain ⟨d, hd⟩ := Option.ne_none_iff_exists'.mp hsome
    have hfirst : FirstDefect written d := firstDefect_of_ofNode hd
    have hflaw : list.flaw? = some d := by
      unfold flaw?
      rw [hd]
      simp [hfirst.reason_ne]
    refine ⟨d, hd, hfirst, ?_⟩
    unfold Signature.ofParameters
    dsimp only
    rw [hflaw, htext]

/-- A list in which all but one of the parameters are annotated, two of them by default values too. -/
def annotatedList : ParametersNode where
  text := "(self: Job, a:  List[int] , /, b=1, c: str = x)"
  nodes := some [.typed (some "self") " Job", .typed (some "a") "  List[int] ", .positionalMarker,
    .default (some "b") none "b=1", .default (some "c") (some " str ") "c: str = x"]

/-- The annotations of the list are read without the blanks around them, each with its parameter. -/
theorem ofNode_reads_annotatedList :
    (ofNode annotatedList).defect = none ∧ (ofNode annotatedList).receiver = some "self" ∧
      (ofNode annotatedList).parameters =
        [⟨"a", some "List[int]", 0⟩, ⟨"b", none, 1⟩, ⟨"c", some "str", 2⟩] := by
  have hnone : (ofNode annotatedList).defect = none := by decide
  have hwritten : List.Forall₂ DeclaresItem
      ((annotatedList.nodes.getD []).filter (· != .positionalMarker))
      [("self", some (Text.strip " Job")), ("a", some (Text.strip "  List[int] ")), ("b", none),
        ("c", some (Text.strip " str "))] :=
    .cons (.typed _ _ (.given (by decide))) (.cons (.typed _ _ (.given (by decide)))
      (.cons (.default _ _ _ .absent) (.cons (.default _ _ _ (.given (by decide))) .nil)))
  obtain ⟨-, hread, -⟩ := ofNode_reads_exactly annotatedList.text (annotatedList.nodes.getD [])
  obtain ⟨⟨receiver, items, hdeclares, hreceiver, hparameters⟩, -⟩ := hread hnone
  have hsame := List.right_unique_forall₂' rightUnique_declaresItem hdeclares hwritten
  obtain ⟨rfl, rfl⟩ := List.cons.inj hsame
  refine ⟨hnone, hreceiver, ?_⟩
  rw [show (ofNode annotatedList).parameters = _ from hparameters]
  decide

end ParameterList

end SpanWeave
