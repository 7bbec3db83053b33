import SpanWeave.Proofs.ItemByItem
import SpanWeave.Proofs.Text.IdentifierNames
import SpanWeave.Proofs.Text.Parts
import SpanWeave.Wrapper.Forwarding

/-!
# What the body of an override means

The body of an override is read as a program: the call is read back from its text, and every name in
it stands for what is bound to it. A local hides a global, and the span is a local. Names are
compared in a form that the language gives them, which need not be the text that is written.
-/

set_option autoImplicit false

namespace SpanWeave

/-! ## Reading names and calls -/

/-- The name that a text writes, whatever blanks surround it. -/
def readName? (s : String) : Option String :=
  if Text.isIdentifier (Text.strip s) then some (Text.strip s) else none

/-- The names between commas; blanks only are no names. -/
def readNames? (s : String) : Option (List String) :=
  if Text.isBlankText s then some [] else (Text.parts ',' s).mapM readName?

/-- A call: the names that lead to what is called, and the names that are handed to it. -/
structure Call where
  target : List String
  arguments : List String
deriving DecidableEq, Repr

/-- Reads a call such as `a.b.c(x, y)`, in which nothing but names stands. -/
def Call.read? (s : String) : Option Call :=
  match Text.parts '(' s with
  | [target, rest] =>
    match Text.parts ')' rest with
    | [arguments, ""] => do
      return ⟨← (Text.parts '.' target).mapM readName?, ← readNames? arguments⟩
    | _ => none
  | _ => none

theorem readName?_of_isIdentifier {s : String} (h : Text.isIdentifier s = true) :
    readName? s = some s := by
  unfold readName?
  rw [Text.strip_of_isIdentifier h, if_pos h]

theorem readName?_blank_append (s : String) : readName? (" " ++ s) = readName? s := by
  unfold readName?
  rw [Text.strip_blank_append]

/-! ## Joined names -/

theorem parts_blank_append (s : String) :
    ∃ first rest, Text.parts ',' s = first :: rest ∧
      Text.parts ',' (" " ++ s) = (" " ++ first) :: rest := by
  have hlist : (" " ++ s).toList = ' ' :: s.toList := by
    rw [String.toList_append]
    rfl
  obtain ⟨first, rest, hsplit⟩ := Text.splitAtEach_ne_nil ',' s.toList
  refine ⟨String.ofList first, rest.map String.ofList, ?_, ?_⟩
  · unfold Text.parts
    rw [hsplit, List.map_cons]
  · unfold Text.parts
    rw [hlist, Text.splitAtEach, if_neg (by decide), hsplit]
    show String.ofList (' ' :: first) :: _ = _
    rw [String.ofList_cons]
    rfl

/-- What is made of parts, blanks before them aside, is made of joined names. -/
theorem map_parts_joinForwarding {α : Type} {f : String → α} (hf : ∀ s, f (" " ++ s) = f s)
    {names : List String} (hnames : names ≠ []) (h : ∀ name ∈ names, ',' ∉ name.toList) :
    (Text.parts ',' (joinForwarding names)).map f = names.map f := by
  unfold joinForwarding
  induction names with
  | nil => exact absurd rfl hnames
  | cons name names ih =>
    have hname := h name List.mem_cons_self
    cases names with
    | nil => rw [String.intercalate_singleton, Text.parts_of_not_mem hname]
    | cons next names =>
      have hrest := ih (by simp) fun n hn => h n (List.mem_cons_of_mem _ hn)
      have hcut : Text.parts ',' (String.intercalate ", " (name :: next :: names)) =
          name :: Text.parts ',' (" " ++ String.intercalate ", " (next :: names)) := by
        rw [String.intercalate_cons_cons, ← Text.parts_append hname, String.append_assoc,
          String.append_assoc]
        exact congrArg (fun tail => Text.parts ',' (name ++ tail)) (@String.append_assoc "," " " _)
      obtain ⟨first, rest, hfirst, hblank⟩ :=
        parts_blank_append (String.intercalate ", " (next :: names))
      rw [hfirst, List.map_cons] at hrest
      rw [hcut, hblank, List.map_cons, List.map_cons, hf, hrest]
      rfl

/-- The characters of joined names are those of the names, commas and blanks. -/
theorem not_mem_joinForwarding {c : Char} (hcomma : c ≠ ',') (hblank : c ≠ ' ')
    {names : List String} (h : ∀ name ∈ names, c ∉ name.toList) :
    c ∉ (joinForwarding names).toList := by
  unfold joinForwarding
  exact Text.not_mem_intercalate (by simp [hcomma, hblank]) h

theorem subset_joinForwarding (name : String) (names : List String) :
    name.toList ⊆ (joinForwarding (name :: names)).toList := by
  unfold joinForwarding
  cases names with
  | nil =>
    rw [String.intercalate_singleton]
    exact List.Subset.refl _
  | cons next names =>
    rw [String.intercalate_cons_cons, String.toList_append, String.toList_append, List.append_assoc]
    exact List.subset_append_left _ _

/-- Splitting undoes joining up to blanks, as long as no name contains a comma. -/
theorem splitForwarding_join {names : List String} (h : ∀ name ∈ names, ',' ∉ name.toList) :
    splitForwarding (joinForwarding names) = trimmedNames names := by
  cases names with
  | nil => decide
  | cons name rest =>
    unfold splitForwarding trimmedNames
    rw [map_parts_joinForwarding Text.strip_blank_append (by simp) h]

section Identifiers

variable {names : List String} (h : ∀ name ∈ names, Text.isIdentifier name = true)

include h

theorem trimmedNames_of_isIdentifier : trimmedNames names = names := by
  unfold trimmedNames
  have hstrip : names.map Text.strip = names := by
    rw [List.map_congr_left fun name hname => Text.strip_of_isIdentifier (h name hname),
      List.map_id']
  rw [hstrip, List.filter_eq_self]
  intro name hname
  simpa using Text.ne_empty_of_isIdentifier (h name hname)

theorem splitForwarding_joinForwarding : splitForwarding (joinForwarding names) = names := by
  rw [splitForwarding_join fun name hname =>
    Text.not_mem_of_isIdentifier (by decide) (by decide) (h name hname)]
  exact trimmedNames_of_isIdentifier h

theorem readNames?_joinForwarding : readNames? (joinForwarding names) = some names := by
  have hcomma : ∀ name ∈ names, ',' ∉ name.toList := fun name hname =>
    Text.not_mem_of_isIdentifier (by decide) (by decide) (h name hname)
  unfold readNames?
  cases hnames : names with
  | nil => rfl
  | cons name rest =>
    -- the names are not blank, as the first one is not
    have hname := h name (by simp [hnames])
    have hwritten : ¬ Text.isBlankText (joinForwarding (name :: rest)) = true := by
      unfold Text.isBlankText
      rw [List.all_eq_true]
      intro hblank
      obtain ⟨c, hc⟩ := List.exists_mem_of_ne_nil name.toList fun hnil =>
        Text.ne_empty_of_isIdentifier hname (String.toList_eq_nil_iff.mp hnil)
      have hfirst := hblank c (subset_joinForwarding name rest hc)
      rw [Text.not_isBlank_of_isIdentifier hname c hc] at hfirst
      cases hfirst
    have hread : (Text.parts ',' (joinForwarding names)).map readName? = names.map some := by
      rw [map_parts_joinForwarding readName?_blank_append (by simp [hnames]) hcomma]
      exact List.map_congr_left fun n hn => readName?_of_isIdentifier (h n hn)
    rw [← List.forall₂_eq_eq_eq, List.forall₂_map_left_iff, List.forall₂_map_right_iff] at hread
    rw [if_neg hwritten, ← hnames]
    exact mapM_eq_some hread

end Identifiers

/-- A call of an attribute of a field of a receiver is read back. -/
theorem Call.read?_eq {receiver field name : String} {names : List String}
    (hreceiver : Text.isIdentifier receiver = true) (hfield : Text.isIdentifier field = true)
    (hname : Text.isIdentifier name = true)
    (h : ∀ n ∈ names, Text.isIdentifier n = true) :
    read? (receiver ++ "." ++ field ++ "." ++ name ++ "(" ++ joinForwarding names ++ ")") =
      some ⟨[receiver, field, name], names⟩ := by
  have hfree : ∀ {c : Char} {s : String}, Text.isIdentifierStart c = false →
      Text.isIdentifierContinue c = false → Text.isIdentifier s = true → c ∉ s.toList :=
    fun hstart hcontinue => Text.not_mem_of_isIdentifier hstart hcontinue
  -- the first bracket ends the target
  have hopen : Text.parts '('
      (receiver ++ "." ++ field ++ "." ++ name ++ "(" ++ joinForwarding names ++ ")") =
        [receiver ++ "." ++ field ++ "." ++ name, joinForwarding names ++ ")"] := by
    have htarget : '(' ∉ (receiver ++ "." ++ field ++ "." ++ name).toList := by
      simp only [String.toList_append, List.mem_append, not_or]
      exact ⟨⟨⟨⟨hfree (by decide) (by decide) hreceiver, by decide⟩,
        hfree (by decide) (by decide) hfield⟩, by decide⟩, hfree (by decide) (by decide) hname⟩
    have hrest : '(' ∉ (joinForwarding names ++ ")").toList := by
      rw [String.toList_append, List.mem_append, not_or]
      exact ⟨not_mem_joinForwarding (by decide) (by decide) fun n hn =>
        hfree (by decide) (by decide) (h n hn), by decide⟩
    rw [String.append_assoc, ← Text.parts_of_not_mem hrest]
    exact Text.parts_append htarget _
  have hclose : Text.parts ')' (joinForwarding names ++ ")") = [joinForwarding names, ""] := by
    have hnames : ')' ∉ (joinForwarding names).toList :=
      not_mem_joinForwarding (by decide) (by decide) fun n hn =>
        hfree (by decide) (by decide) (h n hn)
    have hcut := Text.parts_append hnames ""
    rw [String.append_empty] at hcut
    exact hcut
  have htarget : Text.parts '.' (receiver ++ "." ++ field ++ "." ++ name) =
      [receiver, field, name] := by
    have hdot : ∀ {s : String}, Text.isIdentifier s = true → '.' ∉ s.toList :=
      hfree (by decide) (by decide)
    rw [String.append_assoc, String.append_assoc, String.append_assoc, ← String.append_assoc]
    refine (Text.parts_append (hdot hreceiver) _).trans ?_
    rw [← String.append_assoc, ← Text.parts_of_not_mem (hdot hname)]
    exact congrArg (receiver :: ·) (Text.parts_append (hdot hfield) _)
  simp only [read?, hopen, hclose, htarget, readNames?_joinForwarding h]
  simp [readName?_of_isIdentifier, hreceiver, hfield, hname]

/-! ## Names in scope -/

/-- What a name stands for in the body of an override: a value that the override is called with, its
span, or one of the two globals that the wrapper adds. -/
inductive Meaning (V : Type) where
  | value (v : V)
  | span
  | spanSource
  | setTag
deriving DecidableEq, Repr

/-- The names that the body of an override can use. -/
structure Scope (V : Type) where
  /-- The form of a name, by which names are compared. -/
  form : String → String
  /-- The local that holds the span. -/
  spanVariable : String
  /-- The receiver and the parameters. -/
  bound : List String
  /-- What they are bound to, by their forms. -/
  values : String → V
  globals : Binding

/-- The meaning of a name: a local of its form hides a global. -/
def Scope.lookup {V : Type} (s : Scope V) (name : String) : Option (Meaning V) :=
  if s.form name = s.form s.spanVariable then some .span
  else if s.form name ∈ s.bound.map s.form then some (.value (s.values (s.form name)))
  else if s.form name = s.form s.globals.spanSource then some .spanSource
  else if s.form name = s.form s.globals.setTag then some .setTag
  else none

namespace Scope

variable {V : Type} {s : Scope V} {name : String}

theorem lookup_of_mem_bound (hbound : name ∈ s.bound) (hspan : s.form name ≠ s.form s.spanVariable) :
    s.lookup name = some (.value (s.values (s.form name))) := by
  unfold lookup
  rw [if_neg hspan, if_pos (List.mem_map.mpr ⟨name, hbound, rfl⟩)]

/-- A global that no local hides means what the wrapper binds it to. -/
theorem lookup_globals (hname : ∀ x ∈ s.spanVariable :: s.bound, s.form name ≠ s.form x) :
    (name = s.globals.spanSource → s.lookup name = some .spanSource) ∧
      (name = s.globals.setTag → s.form name ≠ s.form s.globals.spanSource →
        s.lookup name = some .setTag) := by
  obtain ⟨hspan, hlocals⟩ := List.forall_mem_cons.mp hname
  have hbound : s.form name ∉ s.bound.map s.form := by
    intro hmem
    obtain ⟨x, hx, heq⟩ := List.mem_map.mp hmem
    exact hlocals x hx heq.symm
  unfold lookup
  rw [if_neg hspan, if_neg hbound]
  constructor
  · intro hsource
    rw [if_pos (congrArg s.form hsource)]
  · intro htag hother
    rw [if_neg hother, if_pos (congrArg s.form htag)]

end Scope

/-- What the body of an override does: the tags that it sets, the object whose attribute of an
attribute it calls, what it hands over, and whether it returns the result. -/
structure Effect (V : Type) where
  tags : List (String × Option (Meaning V))
  receiver : Option (Meaning V)
  path : List String
  arguments : List (Option (Meaning V))
  returns : Bool
deriving DecidableEq, Repr

/-- What the body of an override does in a scope, if it can be read. -/
def MethodNode.effect? {V : Type} (m : MethodNode) (s : Scope V) : Option (Effect V) := do
  let tags ← m.tags.mapM fun t => (readName? t.value).map fun name => (t.key, s.lookup name)
  match ← Call.read? m.call with
  | ⟨receiver :: path, arguments⟩ =>
    return ⟨tags, s.lookup receiver, path, arguments.map s.lookup, m.returns⟩
  | ⟨[], _⟩ => none

end SpanWeave
