import SpanWeave.Files.Path
import SpanWeave.Proofs.Text.Parts

/-!
# Names on paths

A name that can stand in a folder is not empty, is neither `.` nor `..`, and has no slash in it.
Paths made of such names are what they read: their text leads back to them, and joining, cutting and
taking the directory act on the list of names alone. A path that is read from a text may lead up as
well; resolving it removes that, so every path that a command line names is plain.
-/

set_option autoImplicit false

namespace SpanWeave

/-- A name that can stand in a folder. -/
structure IsName (s : String) : Prop where
  nonempty : s ≠ ""
  not_here : s ≠ "."
  not_above : s ≠ ".."
  slashless : '/' ∉ s.toList

instance (s : String) : Decidable (IsName s) :=
  decidable_of_iff (s ≠ "" ∧ s ≠ "." ∧ s ≠ ".." ∧ '/' ∉ s.toList)
    ⟨fun ⟨h₁, h₂, h₃, h₄⟩ => ⟨h₁, h₂, h₃, h₄⟩, fun ⟨h₁, h₂, h₃, h₄⟩ => ⟨h₁, h₂, h₃, h₄⟩⟩

theorem named_nil : ∀ n ∈ ([] : List String), IsName n := List.forall_mem_nil _

/-- One more proper name. -/
theorem named_append {names : List String} {name : String} (hnames : ∀ n ∈ names, IsName n)
    (hname : IsName name) : ∀ n ∈ names ++ [name], IsName n :=
  List.forall_mem_append.mpr ⟨hnames, List.forall_mem_singleton.mpr hname⟩

namespace Path

/-- A path from the root through proper names. -/
structure IsPlain (p : Path) : Prop where
  absolute : p.anchor ≠ .here
  named : ∀ name ∈ p.names, IsName name

instance (p : Path) : Decidable p.IsPlain :=
  decidable_of_iff (p.anchor ≠ .here ∧ ∀ name ∈ p.names, IsName name)
    ⟨fun ⟨h₁, h₂⟩ => ⟨h₁, h₂⟩, fun ⟨h₁, h₂⟩ => ⟨h₁, h₂⟩⟩

/-- Names as one text with slashes between them. -/
def joined (names : List String) : String := String.intercalate "/" names

@[simp] theorem joined_nil : joined [] = "" := String.intercalate_nil

@[simp] theorem joined_singleton (name : String) : joined [name] = name :=
  String.intercalate_singleton

/-- Joining more names goes on after a slash. -/
theorem joined_append {first second : List String} (hfirst : first ≠ []) (hsecond : second ≠ []) :
    joined (first ++ second) = joined first ++ "/" ++ joined second :=
  String.intercalate_append_of_ne_nil hfirst hsecond

/-- A text that starts with a proper name starts with a character other than a slash. -/
theorem toList_joined_cons {name : String} (h : IsName name) (names : List String) :
    ∃ c cs, (joined (name :: names)).toList = c :: cs ∧ c ≠ '/' := by
  have hlist : name.toList ≠ [] := by simpa using h.nonempty
  obtain ⟨c, cs, hcs⟩ := List.exists_cons_of_ne_nil hlist
  have hc : c ≠ '/' := by
    rintro rfl
    exact h.slashless (by rw [hcs]; exact List.mem_cons_self)
  cases names with
  | nil => exact ⟨c, cs, by rw [joined_singleton, hcs], hc⟩
  | cons next names =>
    refine ⟨c, cs ++ '/' :: (joined (next :: names)).toList, ?_, hc⟩
    unfold joined
    rw [String.intercalate_cons_cons, String.toList_append, String.toList_append, hcs]
    simp

theorem joined_ne_empty {names : List String} (h : ∀ name ∈ names, IsName name) (hne : names ≠ []) :
    joined names ≠ "" := by
  obtain ⟨first, names, rfl⟩ := List.exists_cons_of_ne_nil hne
  obtain ⟨c, cs, hcs, -⟩ := toList_joined_cons (h first List.mem_cons_self) names
  intro hempty
  rw [hempty] at hcs
  cases hcs

/-- Proper names on a text are kept when it is read. -/
theorem kept_names {names : List String} (h : ∀ name ∈ names, IsName name) :
    (names.filter fun name => name != "" && name != ".") = names := by
  rw [List.filter_eq_self]
  intro name hname
  simp [(h name hname).nonempty, (h name hname).not_here]

/-- Joined names are read as the path of these names. -/
theorem ofText_joined {names : List String} (h : ∀ name ∈ names, IsName name) :
    ofText (joined names) = ⟨.here, names⟩ := by
  cases names with
  | nil =>
    rw [joined_nil]
    decide
  | cons name names =>
    obtain ⟨c, cs, hcs, hc⟩ := toList_joined_cons (h name List.mem_cons_self) names
    have hanchor : anchorOf (c :: cs) = .here := by
      unfold anchorOf
      split <;> simp_all
    unfold ofText
    rw [hcs, hanchor]
    unfold joined
    rw [Text.parts_intercalate (by simp) fun n hn => (h n hn).slashless, kept_names h]

/-- A single proper name is read as the path of that name. -/
theorem ofText_name {name : String} (h : IsName name) : ofText name = ⟨.here, [name]⟩ := by
  have hread : ofText (joined [name]) = ⟨.here, [name]⟩ := ofText_joined (by simpa using h)
  rwa [joined_singleton] at hread

/-- Joined names lead down from a path. -/
theorem below_joined {names : List String} (h : ∀ name ∈ names, IsName name) (p : Path) :
    p.below (joined names) = ⟨p.anchor, p.names ++ names⟩ := by
  unfold below join
  rw [ofText_joined h, if_pos rfl]

/-- A proper name leads down from a path. -/
theorem below_name {name : String} (h : IsName name) (p : Path) :
    p.below name = ⟨p.anchor, p.names ++ [name]⟩ := by
  unfold below join
  rw [ofText_name h, if_pos rfl]

/-- The text of a path seen from the current directory leads down from a path like its names. -/
theorem below_text {names : List String} (h : ∀ name ∈ names, IsName name) (p : Path) :
    p.below (text ⟨.here, names⟩) = ⟨p.anchor, p.names ++ names⟩ := by
  cases names with
  | nil =>
    have htext : ofText (text ⟨.here, []⟩) = ⟨.here, []⟩ := by decide
    unfold below join
    rw [htext, if_pos rfl]
  | cons name names =>
    have htext : text ⟨.here, name :: names⟩ = joined (name :: names) := by
      simp [text, Anchor.text, joined]
    rw [htext]
    exact below_joined h p

/-- Different lists of proper names have different texts. -/
theorem joined_injective {first second : List String} (hfirst : ∀ name ∈ first, IsName name)
    (hsecond : ∀ name ∈ second, IsName name) (h : joined first = joined second) :
    first = second := by
  have hread := congrArg ofText h
  rw [ofText_joined hfirst, ofText_joined hsecond] at hread
  exact congrArg Path.names hread

/-- Joined names that begin alike go on alike. -/
theorem joined_append_injective {names first second : List String}
    (hnames : ∀ name ∈ names, IsName name) (hfirst : ∀ name ∈ first, IsName name)
    (hsecond : ∀ name ∈ second, IsName name)
    (h : joined (names ++ first) = joined (names ++ second)) : first = second :=
  List.append_cancel_left (joined_injective (List.forall_mem_append.mpr ⟨hnames, hfirst⟩)
    (List.forall_mem_append.mpr ⟨hnames, hsecond⟩) h)

/-- One leading slash starts at the root. -/
theorem anchorOf_slash {cs : List Char} (h : ∀ rest, cs ≠ '/' :: rest) :
    anchorOf ('/' :: cs) = .root := by
  cases cs with
  | nil => rfl
  | cons c cs =>
    have hc : c ≠ '/' := fun heq => h cs (by rw [heq])
    unfold anchorOf
    split <;> simp_all

/-- Two leading slashes start at the root that is kept apart. -/
theorem anchorOf_two_slashes {cs : List Char} (h : ∀ rest, cs ≠ '/' :: rest) :
    anchorOf ('/' :: '/' :: cs) = .doubleRoot := by
  cases cs with
  | nil => rfl
  | cons c cs =>
    have hc : c ≠ '/' := fun heq => h cs (by rw [heq])
    unfold anchorOf
    split <;> grind

/-- The text of a plain path is read as the path itself. -/
theorem ofText_text {p : Path} (h : p.IsPlain) : ofText p.text = p := by
  obtain ⟨anchor, names⟩ := p
  have hnames : ∀ name ∈ names, IsName name := h.named
  -- behind the leading slashes, the parts are the names, or one empty part if there are none
  have hparts : (Text.parts '/' (joined names)).filter
      (fun name => name != "" && name != ".") = names := by
    have hread := congrArg Path.names (ofText_joined hnames)
    exact hread
  have hhead : ∀ rest, (joined names).toList ≠ '/' :: rest := by
    intro rest heq
    cases names with
    | nil => simp at heq
    | cons name names =>
      obtain ⟨c, cs, hcs, hc⟩ := toList_joined_cons (hnames name List.mem_cons_self) names
      rw [hcs] at heq
      cases heq
      exact hc rfl
  have hslash : ∀ s : String, Text.parts '/' ("/" ++ s) = "" :: Text.parts '/' s := by
    intro s
    have hempty : '/' ∉ "".toList := by simp
    exact Text.parts_append hempty s
  cases anchor with
  | here => exact absurd rfl h.absolute
  | root =>
    have htext : text ⟨.root, names⟩ = "/" ++ joined names := by
      simp [text, Anchor.text, joined]
    have hanchor : anchorOf ("/" ++ joined names).toList = .root := by
      rw [String.toList_append]
      exact anchorOf_slash hhead
    unfold ofText
    rw [htext, hanchor, hslash, List.filter_cons_of_neg (by simp), hparts]
  | doubleRoot =>
    have htext : text ⟨.doubleRoot, names⟩ = "/" ++ ("/" ++ joined names) := by
      rw [← String.append_assoc]
      simp [text, Anchor.text, joined]
    have hanchor : anchorOf ("/" ++ ("/" ++ joined names)).toList = .doubleRoot := by
      rw [String.toList_append, String.toList_append]
      exact anchorOf_two_slashes hhead
    unfold ofText
    rw [htext, hanchor, hslash, hslash, List.filter_cons_of_neg (by simp),
      List.filter_cons_of_neg (by simp), hparts]

/-! ## Paths with `..` -/

/-- A path of proper names and `..`. -/
def IsOrdinary (p : Path) : Prop := ∀ name ∈ p.names, IsName name ∨ name = ".."

/-- A path that a text writes is ordinary. -/
theorem isOrdinary_ofText (s : String) : (ofText s).IsOrdinary := by
  intro name hname
  obtain ⟨hpart, hkept⟩ := List.mem_filter.mp hname
  simp only [Bool.and_eq_true, bne_iff_ne] at hkept
  by_cases habove : name = ".."
  · exact Or.inr habove
  · exact Or.inl ⟨hkept.1, hkept.2, habove, Text.not_mem_of_mem_parts hpart⟩

theorem IsPlain.isOrdinary {p : Path} (h : p.IsPlain) : p.IsOrdinary :=
  fun name hname => Or.inl (h.named name hname)

theorem IsOrdinary.join {p q : Path} (hp : p.IsOrdinary) (hq : q.IsOrdinary) :
    (p.join q).IsOrdinary := by
  unfold Path.join
  split
  · exact List.forall_mem_append.mpr ⟨hp, hq⟩
  · exact hq

theorem IsOrdinary.below {p : Path} (h : p.IsOrdinary) (s : String) : (p.below s).IsOrdinary :=
  h.join (isOrdinary_ofText s)

theorem IsOrdinary.parent {p : Path} (h : p.IsOrdinary) : p.parent.IsOrdinary :=
  fun name hname => h name (List.dropLast_subset _ hname)

/-- Once each `..` has taken a name away, the names that are left are proper. -/
theorem named_lexical {done names : List String} (hdone : ∀ name ∈ done, IsName name)
    (hnames : ∀ name ∈ names, IsName name ∨ name = "..") :
    ∀ name ∈ lexical done names, IsName name := by
  induction names generalizing done with
  | nil =>
    intro name hname
    exact hdone name (List.mem_reverse.mp hname)
  | cons first names ih =>
    obtain ⟨hfirst, hrest⟩ := List.forall_mem_cons.mp hnames
    rw [lexical]
    split
    · exact ih (fun name hname => hdone name (List.mem_of_mem_tail hname)) hrest
    · rename_i habove
      exact ih (List.forall_mem_cons.mpr ⟨hfirst.resolve_right habove, hdone⟩) hrest

theorem IsOrdinary.direct_named {p : Path} (h : p.IsOrdinary) :
    ∀ name ∈ p.direct.names, IsName name :=
  named_lexical (fun _ hname => absurd hname List.not_mem_nil) h

theorem IsOrdinary.direct {p : Path} (h : p.IsOrdinary) : p.direct.IsOrdinary :=
  fun name hname => Or.inl (h.direct_named name hname)

/-- What a text names in an absolute directory is absolute. -/
theorem below_anchor_ne {p : Path} (h : p.anchor ≠ .here) (s : String) :
    (p.below s).anchor ≠ .here := by
  unfold below join
  split
  · exact h
  · assumption

/-- What a text names in a plain directory is plain. -/
theorem isPlain_resolve {directory : Path} (h : directory.IsPlain) (s : String) :
    (resolve directory (ofText s)).IsPlain :=
  ⟨below_anchor_ne h.absolute s, (h.isOrdinary.below s).direct_named⟩

/-- A path lies at or below another one if it goes on behind its names. -/
theorem relativeTo?_eq_some_iff {p base : Path} {names : List String} :
    p.relativeTo? base = some names ↔ p = ⟨base.anchor, base.names ++ names⟩ := by
  obtain ⟨anchor, all⟩ := p
  unfold relativeTo?
  simp only [Option.ite_none_right_eq_some, Option.some.injEq, Bool.and_eq_true, decide_eq_true_eq,
    List.isPrefixOf_iff_prefix, mk.injEq]
  constructor
  · rintro ⟨⟨hanchor, rest, rfl⟩, rfl⟩
    exact ⟨hanchor, by rw [List.drop_left]⟩
  · rintro ⟨hanchor, rfl⟩
    exact ⟨⟨hanchor, List.prefix_append _ _⟩, List.drop_left⟩

theorem named_of_relativeTo {p base : Path} {names : List String}
    (hp : ∀ name ∈ p.names, IsName name) (h : p.relativeTo? base = some names) :
    ∀ name ∈ names, IsName name := by
  rw [relativeTo?_eq_some_iff.mp h] at hp
  exact (List.forall_mem_append.mp hp).2

/-- A path of proper names has no `..` to remove. -/
theorem direct_of_named {p : Path} (h : ∀ name ∈ p.names, IsName name) : p.direct = p := by
  have hlexical : ∀ done names, (∀ name ∈ names, IsName name) →
      lexical done names = done.reverse ++ names := by
    intro done names hnames
    induction names generalizing done with
    | nil => simp [lexical]
    | cons name names ih =>
      rw [lexical, if_neg (hnames name List.mem_cons_self).not_above,
        ih _ fun n hn => hnames n (List.mem_cons_of_mem _ hn)]
      simp
  unfold direct
  rw [hlexical [] p.names h]
  rfl

end Path

/-! ## Extensions -/

/-- The extension of modules starts behind the stem, unless there is none. -/
theorem extensionStart?_append {stem : String} (h : stem ≠ "") :
    extensionStart? (stem ++ ".py").toList = some stem.toList.length := by
  have hlist : (stem ++ ".py").toList = stem.toList ++ ['.', 'p', 'y'] := by
    rw [String.toList_append]
    rfl
  have hpos : 0 < stem.toList.length := List.length_pos_iff.mpr (by simpa using h)
  have hdot : (stem.toList ++ ['.', 'p', 'y']).reverse.findIdx? (fun c => decide (c = '.')) =
      some 2 := by
    simp [List.findIdx?_cons]
  unfold extensionStart?
  rw [hlist, hdot]
  simp [hpos]

/-- A name has the extension of modules exactly if it is that extension behind a stem. -/
theorem extensionOf_eq_iff {name : String} :
    extensionOf name = ".py" ↔ ∃ stem, stem ≠ "" ∧ name = stem ++ ".py" := by
  unfold extensionOf
  constructor
  · intro h
    split at h
    · rename_i i hstart
      have hinside : 0 < i ∧ i + 1 < name.toList.length := by
        unfold extensionStart? at hstart
        split at hstart
        · obtain ⟨hinside, hi⟩ := Option.ite_none_right_eq_some.mp hstart
          rw [Option.some.inj hi] at hinside
          simpa using hinside
        · cases hstart
      have hdrop : name.toList.drop i = ".py".toList := by
        rw [← h, String.toList_ofList]
      refine ⟨String.ofList (name.toList.take i), ?_, ?_⟩
      · rw [Ne, String.ofList_eq_empty_iff, List.take_eq_nil_iff]
        rintro (hzero | hnil)
        · omega
        · rw [hnil] at hinside
          exact absurd hinside.2 (Nat.not_lt_zero _)
      · apply String.toList_inj.mp
        rw [String.toList_append, String.toList_ofList, ← hdrop, List.take_append_drop]
    · exact absurd h (by decide)
  · rintro ⟨stem, hstem, rfl⟩
    rw [extensionStart?_append hstem]
    dsimp only
    rw [String.toList_append, List.drop_left, String.ofList_toList]

end SpanWeave
