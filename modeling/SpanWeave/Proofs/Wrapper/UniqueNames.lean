import Mathlib.Data.Finset.Card
import Mathlib.Order.Bounds.Basic
import SpanWeave.Wrapper.Forwarding

/-!
# Names that are not taken

A unique name is its base with the fewest underscores that make it differ from all taken names.
There is one: of the candidates with up to as many underscores as there are taken names, all
different, not all can be taken. The search that adds one underscore after the other ends at that
name (`uniqueName_ends_search`).
-/

set_option autoImplicit false

namespace SpanWeave

variable {base : String} {taken : List String}

theorem toList_underscored (base : String) (count : Nat) :
    (underscored base count).toList = base.toList ++ List.replicate count '_' := by
  unfold underscored
  rw [String.toList_append, String.toList_ofList]

theorem underscored_injective (base : String) : Function.Injective (underscored base) := by
  intro j k h
  have hlength : (underscored base j).toList.length = (underscored base k).toList.length := by rw [h]
  rw [toList_underscored, toList_underscored] at hlength
  simpa using hlength

/-- Names differ if their bases differ in the first characters. -/
theorem underscored_ne {base' : String} (count : Nat) (hlength : count ≤ base.toList.length)
    (hlength' : count ≤ base'.toList.length)
    (h : base.toList.take count ≠ base'.toList.take count) (j k : Nat) :
    underscored base j ≠ underscored base' k := by
  intro heq
  have htake : (underscored base j).toList.take count = (underscored base' k).toList.take count := by
    rw [heq]
  rw [toList_underscored, toList_underscored, List.take_append_of_le_length hlength,
    List.take_append_of_le_length hlength'] at htake
  exact h htake

/-- A name with a character that the base has not, other than an underscore, is no candidate. -/
theorem underscored_ne_of_mem {name : String} {c : Char} (hname : c ∈ name.toList)
    (hbase : c ∉ base.toList) (hc : c ≠ '_') (count : Nat) : underscored base count ≠ name := by
  intro heq
  rw [← heq, toList_underscored, List.mem_append] at hname
  rcases hname with hname | hname
  · exact hbase hname
  · exact hc (List.eq_of_mem_replicate hname)

/-- Candidates that are all taken are at most as many as there are distinct taken names. -/
theorem count_le_card_of_taken {count : Nat} (h : ∀ k < count, underscored base k ∈ taken) :
    count ≤ taken.toFinset.card := by
  have hsubset : (Finset.range count).image (underscored base) ⊆ taken.toFinset := by
    intro name hname
    obtain ⟨k, hk, rfl⟩ := Finset.mem_image.mp hname
    exact List.mem_toFinset.mpr (h k (Finset.mem_range.mp hk))
  calc count = ((Finset.range count).image (underscored base)).card := by
        rw [Finset.card_image_of_injective _ (underscored_injective base), Finset.card_range]
    _ ≤ taken.toFinset.card := Finset.card_le_card hsubset

theorem exists_underscored_not_mem (base : String) (taken : List String) :
    ∃ k ∈ List.range (taken.length + 1), underscored base k ∉ taken := by
  by_contra hnone
  have htaken : ∀ k < taken.length + 1, underscored base k ∈ taken := by
    intro k hk
    by_contra hfree
    exact hnone ⟨k, List.mem_range.mpr hk, hfree⟩
  have hcount := (count_le_card_of_taken htaken).trans taken.toFinset_card_le
  omega

/-- The unique name is the first candidate that is free. -/
theorem uniqueName_spec (base : String) (taken : List String) :
    ∃ k, uniqueName base taken = underscored base k ∧ underscored base k ∉ taken ∧
      ∀ j < k, underscored base j ∈ taken := by
  unfold uniqueName
  dsimp only
  cases hfind : (List.range (taken.length + 1)).find? fun k =>
      !taken.contains (underscored base k) with
  | none =>
    obtain ⟨k, hk, hfree⟩ := exists_underscored_not_mem base taken
    have htaken := List.find?_eq_none.mp hfind k hk
    simp [hfree] at htaken
  | some k =>
    obtain ⟨hfree, -, hbefore⟩ := List.find?_range_eq_some.mp hfind
    refine ⟨k, rfl, by simpa using hfree, ?_⟩
    intro j hj
    simpa using hbefore j hj

/-! ## The search -/

/-- The search for a name that is not taken, which adds one underscore after the other:
`SearchEnds taken name count result` says that it stops at `result` if it starts at `name`, and that
it adds `count` underscores on the way. -/
inductive SearchEnds (taken : List String) : String → Nat → String → Prop
  | free {name : String} (h : name ∉ taken) : SearchEnds taken name 0 name
  | longer {name result : String} {count : Nat} (h : name ∈ taken)
    (rest : SearchEnds taken (name ++ "_") count result) : SearchEnds taken name (count + 1) result

/-- The search can end in one way only. -/
theorem SearchEnds.unique {name result result' : String} {count count' : Nat}
    (h : SearchEnds taken name count result) (h' : SearchEnds taken name count' result') :
    count' = count ∧ result' = result := by
  induction h generalizing count' with
  | free hfree =>
    cases h' with
    | free _ => exact ⟨rfl, rfl⟩
    | longer htaken _ => exact absurd htaken hfree
  | longer htaken _ ih =>
    cases h' with
    | free hfree => exact absurd htaken hfree
    | longer _ hrest =>
      obtain ⟨rfl, rfl⟩ := ih hrest
      exact ⟨rfl, rfl⟩

theorem underscored_zero (base : String) : underscored base 0 = base := by
  rw [← String.toList_inj, toList_underscored, List.replicate_zero, List.append_nil]

theorem underscored_append (base : String) (count : Nat) :
    underscored (base ++ "_") count = underscored base (count + 1) := by
  rw [← String.toList_inj, toList_underscored, toList_underscored, String.toList_append,
    List.append_assoc, List.replicate_succ]
  rfl

/-- The search stops at the first candidate that is free. -/
theorem searchEnds_of_first_free {count : Nat} (hfree : underscored base count ∉ taken)
    (hbefore : ∀ k < count, underscored base k ∈ taken) :
    SearchEnds taken base count (underscored base count) := by
  induction count generalizing base with
  | zero =>
    rw [underscored_zero] at hfree ⊢
    exact .free hfree
  | succ count ih =>
    -- the search from the next candidate on meets the same names, one underscore earlier
    have hrest : SearchEnds taken (base ++ "_") count (underscored (base ++ "_") count) := by
      apply ih
      · rwa [underscored_append]
      · intro k hk
        rw [underscored_append]
        exact hbefore (k + 1) (Nat.succ_lt_succ hk)
    have hbase := hbefore 0 count.succ_pos
    rw [underscored_zero] at hbase
    rw [← underscored_append]
    exact .longer hbase hrest

/-- The search for a free name ends, and it ends at the unique name, after at most as many
underscores as there are distinct taken names and no more than are needed. -/
theorem uniqueName_ends_search (base : String) (taken : List String) :
    ∃ count ≤ taken.toFinset.card,
      (∀ n name, SearchEnds taken base n name ↔ n = count ∧ name = uniqueName base taken) ∧
      uniqueName base taken = underscored base count ∧
      IsLeast {n | underscored base n ∉ taken} count := by
  obtain ⟨count, hname, hfree, hbefore⟩ := uniqueName_spec base taken
  have hends := searchEnds_of_first_free hfree hbefore
  rw [← hname] at hends
  refine ⟨count, count_le_card_of_taken hbefore, ?_, hname, hfree, ?_⟩
  · intro n name
    constructor
    · exact hends.unique
    · rintro ⟨rfl, rfl⟩
      exact hends
  · intro n hn
    by_contra hless
    exact hn (hbefore n (Nat.not_le.mp hless))

end SpanWeave
