import SpanWeave.Proofs.Source.AlikeStatements
import SpanWeave.Proofs.Source.ClassHeads
import SpanWeave.Proofs.Source.ParameterLists

/-!
# Layout in parameter lists

Remarks, blanks and line ends that are inserted between the tokens of a parameter list leave its
receiver, its names and their order as they are, and they make no defect. So do line continuations
inside a parameter. A line continuation between two parameters is a node of the list, which is no
parameter: the names are still the same, but the list has a defect.
-/

set_option autoImplicit false

namespace SpanWeave

open Source

namespace Source

/-- A line continuation stands between the parameters of a list. -/
def ParametersNode.Joined (p : ParametersNode) : Prop :=
  ∃ nodes, p.nodes = some nodes ∧ ∃ w, ParameterNode.other w ∈ nodes ∧ IsJoin w

variable {n m : ParameterNode} {ns ms : List ParameterNode}

/-! ## Nodes -/

theorem ParameterNode.not_isNamed_other (w : String) : ¬ (ParameterNode.other w).IsNamed := by
  rintro ⟨name, type?, hnode⟩
  cases hnode

theorem ParameterNode.Alike.isNamed_iff (h : n.Alike m) : m.IsNamed ↔ n.IsNamed := by
  rw [ParameterNode.isNamed_iff, ParameterNode.isNamed_iff]
  cases h with
  | plain name => rfl
  | typed name? type type' => cases name? <;> simp [meaning]
  | default name? type? type?' written written' => cases name? <;> simp [meaning]
  | other written written' => simp [meaning]
  | _ => rfl

theorem ParameterNode.Alike.marker_iff (h : n.Alike m) :
    m = .positionalMarker ↔ n = .positionalMarker := by
  cases h <;> simp

/-- Slashes can be left out of nodes alike. -/
theorem NodesAlike.filter (h : NodesAlike ns ms) :
    NodesAlike (ns.filter (· != .positionalMarker)) (ms.filter (· != .positionalMarker)) := by
  induction h with
  | nil => exact .nil
  | @cons n m ns ms node _ ih =>
    by_cases hslash : n = .positionalMarker
    · rw [List.filter_cons_of_neg (by simp [hslash]),
        List.filter_cons_of_neg (by simp [node.marker_iff.mpr hslash])]
      exact ih
    · rw [List.filter_cons_of_pos (by simp [hslash]),
        List.filter_cons_of_pos (by simpa using mt node.marker_iff.mp hslash)]
      exact .cons node ih
  | @join w ns ms written _ ih =>
    rw [List.filter_cons_of_pos (by simp)]
    exact .join written ih

/-- All nodes are named parameters exactly if those without the added line continuations are, and no
line continuation is among them. -/
theorem NodesAlike.forall_isNamed_iff (h : NodesAlike ns ms) :
    (∀ m ∈ ms, m.IsNamed) ↔
      (∀ n ∈ ns, n.IsNamed) ∧ ∀ w, ParameterNode.other w ∈ ms → ¬ IsJoin w := by
  induction h with
  | nil => simp
  | @cons n m ns ms node _ ih =>
    rw [List.forall_mem_cons, List.forall_mem_cons, ih, node.isNamed_iff]
    constructor
    · rintro ⟨hn, hns, hjoin⟩
      refine ⟨⟨hn, hns⟩, fun w hw => ?_⟩
      rcases List.mem_cons.mp hw with rfl | hw
      · exact absurd (node.isNamed_iff.mpr hn) (ParameterNode.not_isNamed_other w)
      · exact hjoin w hw
    · rintro ⟨⟨hn, hns⟩, hjoin⟩
      exact ⟨hn, hns, fun w hw => hjoin w (List.mem_cons_of_mem _ hw)⟩
  | @join w ns ms written _ ih =>
    constructor
    · intro hall
      exact absurd (hall _ List.mem_cons_self) (ParameterNode.not_isNamed_other w)
    · rintro ⟨-, hjoin⟩
      exact absurd written (hjoin w List.mem_cons_self)

theorem NodesAlike.ne_nil (h : NodesAlike ns ms) (hns : ns ≠ []) : ms ≠ [] := by
  cases h with
  | nil => exact absurd rfl hns
  | _ => exact List.cons_ne_nil _ _

theorem NodesAlike.eq_nil (h : NodesAlike [] ms) (hms : ∀ m ∈ ms, m.IsNamed) : ms = [] := by
  cases h with
  | nil => rfl
  | @join w _ _ written others =>
    exact absurd (hms _ List.mem_cons_self) (ParameterNode.not_isNamed_other w)

end Source

variable {ns ms : List ParameterNode}

/-- Nodes alike give the same names in the same order. -/
theorem names_meanings (h : NodesAlike ns ms) :
    (meanings ms).map Prod.fst = (meanings ns).map Prod.fst := by
  have hcons : ∀ (n : ParameterNode) (ns : List ParameterNode),
      (meanings (n :: ns)).map Prod.fst =
        (n.meaning.toOption.map Prod.fst).toList ++ (meanings ns).map Prod.fst := by
    intro n ns
    unfold meanings
    rw [List.filterMap_cons]
    cases n.meaning <;> rfl
  induction h with
  | nil => rfl
  | @cons n m ns ms node _ ih =>
    rw [hcons, hcons, ih]
    congr 2
    cases node with
    | typed name? type type' => cases name? <;> rfl
    | default name? type? type?' written written' => cases name? <;> rfl
    | _ => rfl
  | join written _ ih =>
    rw [hcons, ih]
    rfl

/-- A parameter as it is known in any layout: its name and its position. -/
def Parameter.place (p : Parameter) : String × Nat := (p.name, p.position)

theorem numbered_places {start : Nat} {items others : List (String × Option String)}
    (h : others.map Prod.fst = items.map Prod.fst) :
    (numbered start others).map Parameter.place = (numbered start items).map Parameter.place := by
  induction items generalizing start others with
  | nil =>
    rw [List.map_nil, List.map_eq_nil_iff] at h
    rw [h]
  | cons item items ih =>
    rw [List.map_cons] at h
    obtain ⟨other, others, rfl, hname, hothers⟩ := List.map_eq_cons_iff.mp h
    unfold numbered
    rw [List.map_cons, List.map_cons, ih hothers]
    unfold Parameter.place
    rw [hname]

namespace Source.ParametersNode

variable {p q : ParametersNode}

/-! ## Lists -/

/-- Parameter lists that are alike have the same receiver and the same parameters, apart from their
types. -/
theorem Alike.names (h : p.Alike q) :
    (ParameterList.ofNode q).receiver = (ParameterList.ofNode p).receiver ∧
      (ParameterList.ofNode q).parameters.map Parameter.place =
        (ParameterList.ofNode p).parameters.map Parameter.place := by
  obtain ⟨text, nodes?⟩ := p
  obtain ⟨text', nodes?'⟩ := q
  unfold ParametersNode.Alike at h
  dsimp only at h
  cases h with
  | none => exact ⟨rfl, rfl⟩
  | @some ns ms hnodes =>
    have hnames := names_meanings hnodes.filter
    unfold ParameterList.ofNode
    dsimp only
    generalize meanings (ns.filter (· != .positionalMarker)) = items at hnames ⊢
    generalize meanings (ms.filter (· != .positionalMarker)) = others at hnames ⊢
    cases items with
    | nil =>
      rw [List.map_nil, List.map_eq_nil_iff] at hnames
      rw [hnames]
      exact ⟨rfl, rfl⟩
    | cons item items =>
      rw [List.map_cons] at hnames
      obtain ⟨other, others, rfl, hname, hothers⟩ := List.map_eq_cons_iff.mp hnames
      exact ⟨congrArg some hname, numbered_places hothers⟩

/-- Of parameter lists that are alike the second one has a defect exactly if the first one has, or a
line continuation stands between the parameters of the second one. -/
theorem Alike.defect_iff (h : p.Alike q) :
    (ParameterList.ofNode q).defect = none ↔
      (ParameterList.ofNode p).defect = none ∧ ¬ q.Joined := by
  obtain ⟨text, nodes?⟩ := p
  obtain ⟨text', nodes?'⟩ := q
  unfold ParametersNode.Alike at h
  dsimp only at h
  cases h with
  | none =>
    unfold ParameterList.ofNode
    simp
  | @some ns ms hnodes =>
    have hwritten := hnodes.filter
    have hjoined : ParametersNode.Joined ⟨text', some ms⟩ ↔
        ∃ w, ParameterNode.other w ∈ ms.filter (· != .positionalMarker) ∧ IsJoin w := by
      unfold Joined
      simp only [Option.some.injEq, exists_eq_left', List.mem_filter]
      simp
    rw [ParameterList.defect_ofNode_eq_none_iff, ParameterList.defect_ofNode_eq_none_iff, hjoined]
    generalize ns.filter (· != .positionalMarker) = written at hwritten ⊢
    generalize ms.filter (· != .positionalMarker) = written' at hwritten ⊢
    constructor
    · rintro ⟨hne, hall⟩
      obtain ⟨hnamed, hjoin⟩ := hwritten.forall_isNamed_iff.mp hall
      refine ⟨⟨?_, hnamed⟩, fun ⟨w, hw, hjoined⟩ => hjoin w hw hjoined⟩
      rintro rfl
      exact hne (hwritten.eq_nil hall)
    · rintro ⟨⟨hne, hnamed⟩, hjoin⟩
      exact ⟨hwritten.ne_nil hne, hwritten.forall_isNamed_iff.mpr
        ⟨hnamed, fun w hw hjoined => hjoin ⟨w, hw, hjoined⟩⟩⟩

end Source.ParametersNode

/-! ## Modules -/

/-- The functions in the bodies of the classes of a module. -/
def classFunctions (content : List UInt8) : List (List FunctionNode) :=
  (classDefs (readStatements (tokens (Text.glyphs content))).statements).map fun d =>
    functionsOf d.2

/-- A function whose parameter list is that of another one in another layout: it only has a defect
in addition if a line continuation stands between the parameters. -/
structure Source.FunctionNode.LaidOutAs (f g : FunctionNode) : Prop where
  name : g.name = f.name
  receiver : (ParameterList.ofNode g.parameters).receiver =
    (ParameterList.ofNode f.parameters).receiver
  parameters : (ParameterList.ofNode g.parameters).parameters.map Parameter.place =
    (ParameterList.ofNode f.parameters).parameters.map Parameter.place
  defect : (ParameterList.ofNode g.parameters).defect = none ↔
    (ParameterList.ofNode f.parameters).defect = none ∧ ¬ g.parameters.Joined

theorem Source.FunctionNode.Alike.laidOutAs {f g : FunctionNode} (h : f.Alike g) : f.LaidOutAs g :=
  ⟨h.name, h.parameters.names.1, h.parameters.names.2, h.parameters.defect_iff⟩

theorem functionsOf_alike {statements others : List Statement}
    (h : List.Forall₂ Statement.Alike statements others) :
    List.Forall₂ FunctionNode.LaidOutAs (functionsOf statements) (functionsOf others) := by
  induction h with
  | nil => exact .nil
  | cons hs _ ih =>
    cases hs with
    | function head => exact .cons head.laidOutAs ih
    | _ => exact ih

theorem classFunctions_alike {statements others : List Statement}
    (h : List.Forall₂ Statement.Alike statements others) :
    List.Forall₂ (List.Forall₂ FunctionNode.LaidOutAs)
      ((classDefs statements).map fun d => functionsOf d.2)
      ((classDefs others).map fun d => functionsOf d.2) := by
  induction h with
  | nil => exact .nil
  | cons hs _ ih =>
    cases hs with
    | classDef name body => exact .cons (functionsOf_alike body) ih
    | _ => exact ih

/-- Layout that is inserted between tokens in brackets keeps the parameter lists of all functions in
class bodies, except that a list with a line continuation between its parameters has a defect. -/
theorem layout_keeps_parameter_lists (content content' : List UInt8)
    (h : Relaid 0 (tokens (Text.glyphs content)) (tokens (Text.glyphs content'))) :
    List.Forall₂ (List.Forall₂ FunctionNode.LaidOutAs) (classFunctions content)
      (classFunctions content') :=
  classFunctions_alike (readStatements_alike h.tokens).statements

/-- A method with one parameter. -/
def plainSource : String := "class A(ABC):\n  def f(self, a: int): pass\n"

/-- The same with a remark between the parameters and a line continuation inside the second one. -/
def remarkedSource : String := "class A(ABC):\n  def f(self, # first\n a: \\\n int): pass\n"

/-- The same with a line continuation between the parameters. -/
def joinedSource : String := "class A(ABC):\n  def f(self, \\\n a: int): pass\n"

set_option maxRecDepth 100000 in
theorem layout_keeps_parameter_lists_remarked :
    Relaid 0 (tokens (Text.glyphs (Text.encode plainSource)))
        (tokens (Text.glyphs (Text.encode remarkedSource))) ∧
      ∃ f g, classFunctions (Text.encode plainSource) = [[f]] ∧
        classFunctions (Text.encode remarkedSource) = [[g]] ∧ f.LaidOutAs g := by
  have hrelaid : Relaid 0 (tokens (Text.glyphs (Text.encode plainSource)))
      (tokens (Text.glyphs (Text.encode remarkedSource))) := by
    decide +kernel
  have hplain : (classFunctions (Text.encode plainSource)).map (List.map FunctionNode.name) =
      [["f"]] := by
    decide +kernel
  obtain ⟨functions, hfunctions, hnames⟩ := List.map_eq_singleton_iff.mp hplain
  obtain ⟨f, rfl, -⟩ := List.map_eq_singleton_iff.mp hnames
  have halike := layout_keeps_parameter_lists (Text.encode plainSource)
    (Text.encode remarkedSource) hrelaid
  rw [hfunctions] at halike
  cases hothers : classFunctions (Text.encode remarkedSource) with
  | nil =>
    rw [hothers] at halike
    cases halike
  | cons others rest =>
    rw [hothers] at halike
    obtain ⟨hfirst, hrest⟩ := List.forall₂_cons.mp halike
    obtain rfl := List.forall₂_nil_left_iff.mp hrest
    cases hfirst with
    | cons hlist hnil =>
      obtain rfl := List.forall₂_nil_left_iff.mp hnil
      exact ⟨hrelaid, f, _, hfunctions, rfl, hlist⟩

set_option maxRecDepth 100000 in
/-- A line continuation between the parameters makes a defect, although it is only layout. -/
theorem layout_makes_defect :
    Relaid 0 (tokens (Text.glyphs (Text.encode plainSource)))
        (tokens (Text.glyphs (Text.encode joinedSource))) ∧
      ∃ f g, classFunctions (Text.encode plainSource) = [[f]] ∧
        classFunctions (Text.encode joinedSource) = [[g]] ∧
          (ParameterList.ofNode f.parameters).defect = none ∧
            (ParameterList.ofNode g.parameters).defect = some (.unsupported "\\\n") := by
  have hplain : (classFunctions (Text.encode plainSource)).map (List.map fun f =>
      (ParameterList.ofNode f.parameters).defect) = [[none]] := by
    decide +kernel
  have hjoined : (classFunctions (Text.encode joinedSource)).map (List.map fun f =>
      (ParameterList.ofNode f.parameters).defect) = [[some (.unsupported "\\\n")]] := by
    decide +kernel
  obtain ⟨functions, hfunctions, hdefects⟩ := List.map_eq_singleton_iff.mp hplain
  obtain ⟨f, rfl, hf⟩ := List.map_eq_singleton_iff.mp hdefects
  obtain ⟨functions, hfunctions', hdefects⟩ := List.map_eq_singleton_iff.mp hjoined
  obtain ⟨g, rfl, hg⟩ := List.map_eq_singleton_iff.mp hdefects
  exact ⟨by decide +kernel, f, g, hfunctions, hfunctions', hf, hg⟩

end SpanWeave
