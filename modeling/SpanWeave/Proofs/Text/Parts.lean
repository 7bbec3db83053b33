import SpanWeave.Text.Blank

/-!
# Cutting and joining texts

Cutting a text at a separator undoes joining with that separator as long as no part contains it, and
every part that cutting yields is free of it.
-/

set_option autoImplicit false

namespace SpanWeave.Text

/-- Characters in front go to the first part as long as the separator is not among them. -/
theorem splitAtEach_append {sep : Char} {cs more first : List Char} {rest : List (List Char)}
    (h : sep ∉ cs) (hmore : splitAtEach sep more = first :: rest) :
    splitAtEach sep (cs ++ more) = (cs ++ first) :: rest := by
  induction cs with
  | nil => exact hmore
  | cons c cs ih =>
    simp only [List.mem_cons, not_or] at h
    simp only [List.cons_append, splitAtEach, if_neg (Ne.symm h.1), ih h.2]

/-- Characters without a separator are one part. -/
theorem splitAtEach_of_not_mem {sep : Char} {cs : List Char} (h : sep ∉ cs) :
    splitAtEach sep cs = [cs] := by
  simpa using splitAtEach_append h (rfl : splitAtEach sep [] = [[]])

/-- There is always a first part. -/
theorem splitAtEach_ne_nil (sep : Char) (cs : List Char) :
    ∃ first rest, splitAtEach sep cs = first :: rest := by
  induction cs with
  | nil => exact ⟨[], [], rfl⟩
  | cons c cs ih =>
    obtain ⟨first, rest, hsplit⟩ := ih
    rw [splitAtEach, hsplit]
    split
    · exact ⟨[], _, rfl⟩
    · exact ⟨_, _, rfl⟩

/-- No part contains the separator. -/
theorem not_mem_of_mem_splitAtEach {sep : Char} {cs part : List Char}
    (h : part ∈ splitAtEach sep cs) : sep ∉ part := by
  induction cs generalizing part with
  | nil =>
    simp only [splitAtEach, List.mem_singleton] at h
    subst h
    exact List.not_mem_nil
  | cons c cs ih =>
    unfold splitAtEach at h
    split at h
    · rcases List.mem_cons.mp h with rfl | h
      · exact List.not_mem_nil
      · exact ih h
    · rename_i hc
      split at h
      · rw [List.mem_singleton] at h
        subst h
        simpa using Ne.symm hc
      · rename_i first others hsplit
        rcases List.mem_cons.mp h with rfl | h
        · have hfirst : sep ∉ first := ih (by rw [hsplit]; exact List.mem_cons_self)
          simp only [List.mem_cons, not_or]
          exact ⟨Ne.symm hc, hfirst⟩
        · exact ih (by rw [hsplit]; exact List.mem_cons_of_mem _ h)

/-- The parts of a text do not contain the separator. -/
theorem not_mem_of_mem_parts {sep : Char} {s part : String} (h : part ∈ parts sep s) :
    sep ∉ part.toList := by
  unfold parts at h
  obtain ⟨cs, hcs, rfl⟩ := List.mem_map.mp h
  rw [String.toList_ofList]
  exact not_mem_of_mem_splitAtEach hcs

/-- A text without a separator is one part. -/
theorem parts_of_not_mem {sep : Char} {s : String} (h : sep ∉ s.toList) : parts sep s = [s] := by
  unfold parts
  rw [splitAtEach_of_not_mem h, List.map_singleton, String.ofList_toList]

/-- The first separator of a text ends its first part. -/
theorem parts_append {sep : Char} {s : String} (h : sep ∉ s.toList) (rest : String) :
    parts sep (s ++ String.ofList [sep] ++ rest) = s :: parts sep rest := by
  have hsplit : splitAtEach sep (sep :: rest.toList) = [] :: splitAtEach sep rest.toList := by
    rw [splitAtEach, if_pos rfl]
  unfold parts
  rw [String.toList_append, String.toList_append, String.toList_ofList, List.append_assoc,
    List.singleton_append, splitAtEach_append h hsplit, List.append_nil, List.map_cons,
    String.ofList_toList]

/-- A text is cut in one way behind all texts without the separator. -/
theorem exists_parts_append (sep : Char) (rest : String) :
    ∃ first others, ∀ s : String, sep ∉ s.toList →
      parts sep (s ++ rest) = (s ++ first) :: others := by
  obtain ⟨first, others, hsplit⟩ := splitAtEach_ne_nil sep rest.toList
  refine ⟨String.ofList first, others.map String.ofList, ?_⟩
  intro s h
  unfold parts
  rw [String.toList_append, splitAtEach_append h hsplit, List.map_cons, String.ofList_append,
    String.ofList_toList]

/-- Cutting undoes joining. -/
theorem parts_intercalate_sep {sep : Char} {names : List String} (hnames : names ≠ [])
    (h : ∀ name ∈ names, sep ∉ name.toList) :
    parts sep (String.intercalate (String.ofList [sep]) names) = names := by
  induction names with
  | nil => exact absurd rfl hnames
  | cons name names ih =>
    have hname : sep ∉ name.toList := h name List.mem_cons_self
    cases names with
    | nil =>
      rw [String.intercalate_singleton]
      exact parts_of_not_mem hname
    | cons next names =>
      rw [String.intercalate_cons_cons, parts_append hname,
        ih (by simp) fun n hn => h n (List.mem_cons_of_mem _ hn)]

/-- A separator and more text behind joined texts do not change how these are cut. -/
theorem parts_intercalate_append {sep : Char} {names : List String} (hnames : names ≠ [])
    (h : ∀ name ∈ names, sep ∉ name.toList) (rest : String) :
    parts sep (String.intercalate (String.ofList [sep]) names ++ String.ofList [sep] ++ rest) =
      names ++ parts sep rest := by
  induction names with
  | nil => exact absurd rfl hnames
  | cons name names ih =>
    have hname : sep ∉ name.toList := h name List.mem_cons_self
    cases names with
    | nil => rw [String.intercalate_singleton, parts_append hname, List.singleton_append]
    | cons next names =>
      rw [String.intercalate_cons_cons, String.append_assoc, String.append_assoc,
        parts_append hname, ← String.append_assoc,
        ih (by simp) fun n hn => h n (List.mem_cons_of_mem _ hn)]
      rfl

theorem startsWith_iff {s lead : String} :
    startsWith s lead = true ↔ ∃ rest, s = lead ++ rest := by
  unfold startsWith
  rw [List.isPrefixOf_iff_prefix]
  constructor
  · rintro ⟨rest, hrest⟩
    exact ⟨String.ofList rest, String.toList_inj.mp (by simp [hrest])⟩
  · rintro ⟨rest, rfl⟩
    exact ⟨rest.toList, String.toList_append.symm⟩

theorem endsWith_iff {s tail : String} : endsWith s tail = true ↔ ∃ front, s = front ++ tail := by
  unfold endsWith
  rw [List.isPrefixOf_iff_prefix, List.reverse_prefix]
  constructor
  · rintro ⟨front, hfront⟩
    exact ⟨String.ofList front, String.toList_inj.mp (by simp [hfront])⟩
  · rintro ⟨front, rfl⟩
    exact ⟨front.toList, String.toList_append.symm⟩

theorem parts_intercalate {names : List String} (hnames : names ≠ [])
    (h : ∀ name ∈ names, '/' ∉ name.toList) :
    parts '/' (String.intercalate "/" names) = names :=
  parts_intercalate_sep hnames h

/-- Joined texts that are not empty are the parts that are not empty. -/
theorem nonempty_parts_intercalate {sep : Char} {names : List String}
    (h : ∀ name ∈ names, name ≠ "" ∧ sep ∉ name.toList) :
    ((parts sep (String.intercalate (String.ofList [sep]) names)).filter fun part => part != "") =
      names := by
  cases names with
  | nil =>
    rw [String.intercalate_nil]
    rfl
  | cons name names =>
    rw [parts_intercalate_sep (by simp) fun n hn => (h n hn).2, List.filter_eq_self]
    intro n hn
    simpa using (h n hn).1

/-- Different lists of texts that are not empty are joined to different texts. -/
theorem intercalate_injective (sep : Char) {names others : List String}
    (hnames : ∀ name ∈ names, name ≠ "" ∧ sep ∉ name.toList)
    (hothers : ∀ name ∈ others, name ≠ "" ∧ sep ∉ name.toList)
    (h : String.intercalate (String.ofList [sep]) names =
      String.intercalate (String.ofList [sep]) others) : names = others := by
  rw [← nonempty_parts_intercalate hnames, h, nonempty_parts_intercalate hothers]

/-- A character of joined texts is one of the texts or of what stands between them. -/
theorem not_mem_intercalate {c : Char} {between : String} (hbetween : c ∉ between.toList)
    {names : List String} (h : ∀ name ∈ names, c ∉ name.toList) :
    c ∉ (String.intercalate between names).toList := by
  induction names with
  | nil => simp
  | cons name names ih =>
    have hname := h name List.mem_cons_self
    cases names with
    | nil => rwa [String.intercalate_singleton]
    | cons next names =>
      have hrest := ih fun n hn => h n (List.mem_cons_of_mem _ hn)
      rw [String.intercalate_cons_cons, String.toList_append, String.toList_append]
      simp only [List.mem_append, not_or]
      exact ⟨⟨hname, hbetween⟩, hrest⟩

/-! ## Line ends -/

theorem splitAtEach_append_cons (sep : Char) (cs ds : List Char) :
    splitAtEach sep (cs ++ sep :: ds) = splitAtEach sep cs ++ splitAtEach sep ds := by
  induction cs with
  | nil => simp [splitAtEach]
  | cons c cs ih =>
    obtain ⟨first, rest, hcs⟩ := splitAtEach_ne_nil sep cs
    simp only [List.cons_append, splitAtEach, ih, hcs]
    split <;> rfl

theorem foldLineEnds_eq_self {cs : List Char} (h : '\r' ∉ cs) : foldLineEnds cs = cs := by
  fun_induction foldLineEnds cs with
  | case1 => rfl
  | case2 cs ih => exact absurd List.mem_cons_self h
  | case3 c cs hpair ih =>
    simp only [List.mem_cons, not_or] at h
    rw [if_neg (Ne.symm h.1), ih h.2]

/-- A line end stays one unless what stands before it ends with the first half of one. -/
theorem foldLineEnds_append {cs : List Char} (h : cs.getLast? ≠ some '\r') (ds : List Char) :
    foldLineEnds (cs ++ '\n' :: ds) = foldLineEnds cs ++ '\n' :: foldLineEnds ds := by
  fun_induction foldLineEnds cs with
  | case1 => rfl
  | case2 cs ih =>
    rw [List.cons_append, List.cons_append, foldLineEnds, ih]
    · rfl
    · cases cs <;> simp_all
  | case3 c cs hpair ih =>
    have hpair' : ∀ es, c = '\r' → cs ++ '\n' :: ds = '\n' :: es → False := by
      rintro es rfl hes
      cases cs with
      | nil => exact h rfl
      | cons d cs => exact hpair cs rfl (by rw [(List.cons.inj hes).1])
    rw [List.cons_append, foldLineEnds.eq_3 _ _ hpair', ih, List.cons_append]
    cases cs <;> simp_all

end SpanWeave.Text
