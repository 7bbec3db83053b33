import Mathlib.Data.List.Nodup
import SpanWeave.Declaration

/-!
# The order of locations

Locations are ordered by path, then by line, then by column. The order is total and two different
locations never stand at one place in it, so a list whose items have locations of their own has only
one order by location: sorting forgets the order in which the items came.
-/

set_option autoImplicit false

namespace SpanWeave

namespace Location

variable {a b c : Location}

/-- One location comes up to another one if its path is smaller, or its line in one file, or its
column in one line. -/
theorem upTo_iff :
    a.upTo b = true ↔ a.path < b.path ∨
      a.path = b.path ∧ (a.line < b.line ∨ a.line = b.line ∧ a.column ≤ b.column) := by
  unfold upTo
  split
  · rename_i hpath
    have hsame : ¬ a.path < b.path := by
      rw [hpath]
      exact String.lt_irrefl _
    split
    · rename_i hline
      simp [hpath, hline]
    · rename_i hline
      simp [hpath, hline]
  · rename_i hpath
    simp [hpath]

theorem upTo_trans (hab : a.upTo b = true) (hbc : b.upTo c = true) : a.upTo c = true := by
  rw [upTo_iff] at *
  rcases hab with hab | ⟨hab, hlines⟩
  · rcases hbc with hbc | ⟨hbc, -⟩
    · exact Or.inl (String.lt_trans hab hbc)
    · exact Or.inl (hbc ▸ hab)
  · rcases hbc with hbc | ⟨hbc, hlines'⟩
    · exact Or.inl (hab ▸ hbc)
    · exact Or.inr ⟨hab.trans hbc, by omega⟩

theorem upTo_total (a b : Location) : (a.upTo b || b.upTo a) = true := by
  rw [Bool.or_eq_true, upTo_iff, upTo_iff]
  by_cases hpath : a.path = b.path
  · simp only [hpath, String.lt_irrefl, true_and, false_or]
    omega
  · by_cases hlt : a.path < b.path
    · exact Or.inl (Or.inl hlt)
    · have hgt : b.path < a.path := by
        by_contra hnot
        exact hpath (String.le_antisymm (String.not_lt.mp hnot) (String.not_lt.mp hlt))
      exact Or.inr (Or.inl hgt)

theorem upTo_antisymm (hab : a.upTo b = true) (hba : b.upTo a = true) : a = b := by
  rw [upTo_iff] at hab hba
  rcases hab with hab | ⟨hpath, hab⟩
  · rcases hba with hba | ⟨hpath, -⟩
    · exact absurd hba (String.lt_asymm hab)
    · rw [hpath] at hab
      exact absurd hab (String.lt_irrefl _)
  · rcases hba with hba | ⟨-, hba⟩
    · rw [hpath] at hba
      exact absurd hba (String.lt_irrefl _)
    · cases a
      cases b
      simp only [Location.mk.injEq]
      simp only at hpath hab hba
      exact ⟨hpath, by omega, by omega⟩

end Location

/-! ## Items by location -/

section

variable {α : Type} {origin : α → Location} {items others : List α}

/-- Sorted items come by location. -/
theorem pairwise_sorted (origin : α → Location) (items : List α) :
    (items.mergeSort fun a b => (origin a).upTo (origin b)).Pairwise
      fun a b => (origin a).upTo (origin b) = true := by
  apply List.pairwise_mergeSort
  · intro a b c
    exact Location.upTo_trans
  · intro a b
    exact Location.upTo_total (origin a) (origin b)

/-- Items with locations of their own are sorted alike in whatever order they come. -/
theorem sorted_eq_of_perm (hperm : items.Perm others) (hdistinct : (items.map origin).Nodup) :
    (items.mergeSort fun a b => (origin a).upTo (origin b)) =
      others.mergeSort fun a b => (origin a).upTo (origin b) := by
  refine List.Perm.eq_of_pairwise ?_ (pairwise_sorted origin items) (pairwise_sorted origin others)
    ((List.mergeSort_perm _ _).trans (hperm.trans (List.mergeSort_perm _ _).symm))
  intro a b ha hb hab hba
  rw [List.mem_mergeSort] at ha hb
  exact List.inj_on_of_nodup_map hdistinct ha (hperm.mem_iff.mpr hb)
    (Location.upTo_antisymm hab hba)

/-- One more item is sorted in behind the items that come strictly before it. -/
theorem sorted_cons (origin : α → Location) (item : α) (items : List α) :
    let sorted := items.mergeSort fun a b => (origin a).upTo (origin b)
    let before := sorted.filter fun b => !(origin item).upTo (origin b)
    let after := sorted.filter fun b => (origin item).upTo (origin b)
    sorted = before ++ after ∧
      ((item :: items).mergeSort fun a b => (origin a).upTo (origin b)) =
        before ++ item :: after := by
  have htrans : ∀ a b c : α, (origin a).upTo (origin b) = true →
      (origin b).upTo (origin c) = true → (origin a).upTo (origin c) = true :=
    fun a b c => Location.upTo_trans
  obtain ⟨before, after, hone, hrest, hsmaller⟩ :=
    List.mergeSort_cons htrans (fun a b => Location.upTo_total (origin a) (origin b)) item items
  have hsorted := pairwise_sorted origin (item :: items)
  rw [hone] at hsorted
  have hlater : ∀ b ∈ after, (origin item).upTo (origin b) = true :=
    (List.pairwise_cons.mp (List.pairwise_append.mp hsorted).2.1).1
  have hbefore : ((before ++ after).filter fun b => !(origin item).upTo (origin b)) = before := by
    rw [List.filter_append, List.filter_eq_self.mpr hsmaller,
      List.filter_eq_nil_iff.mpr fun b hb => by simp [hlater b hb], List.append_nil]
  have hafter : ((before ++ after).filter fun b => (origin item).upTo (origin b)) = after := by
    rw [List.filter_append, List.filter_eq_self.mpr hlater,
      List.filter_eq_nil_iff.mpr fun b hb => by simpa using hsmaller b hb, List.nil_append]
  dsimp only
  rw [hone, hrest, hbefore, hafter]
  exact ⟨rfl, rfl⟩

/-- Leaving items out before or after sorting comes to the same. -/
theorem filter_sorted (origin : α → Location) (keep : α → Bool) (items : List α) :
    (items.mergeSort fun a b => (origin a).upTo (origin b)).filter keep =
      (items.filter keep).mergeSort fun a b => (origin a).upTo (origin b) := by
  induction items with
  | nil => simp
  | cons item items ih =>
    obtain ⟨hrest, hone⟩ := sorted_cons origin item items
    by_cases hkeep : keep item = true
    · obtain ⟨-, hkept⟩ := sorted_cons origin item (items.filter keep)
      rw [hone, List.filter_append, List.filter_cons_of_pos hkeep, List.filter_cons_of_pos hkeep,
        hkept, ← ih, List.filter_comm keep, List.filter_comm keep]
    · rw [hone, List.filter_append, List.filter_cons_of_neg hkeep, List.filter_cons_of_neg hkeep,
        ← ih, ← List.filter_append, ← hrest]

/-- Among items in order at locations of their own, the first one of a kind is the one that comes up
to all others of that kind. -/
theorem find?_eq_some_iff_least (hsorted : items.Pairwise fun a b => (origin a).upTo (origin b))
    (hdistinct : (items.map origin).Nodup) {kind : α → Bool} {a : α} :
    items.find? kind = some a ↔
      a ∈ items ∧ kind a = true ∧ ∀ b ∈ items, kind b = true → (origin a).upTo (origin b) := by
  have hleast : ∀ {a}, items.find? kind = some a →
      ∀ b ∈ items, kind b = true → (origin a).upTo (origin b) := by
    intro a hfound b hb hkind
    obtain ⟨-, before, after, rfl, hbefore⟩ := List.find?_eq_some_iff_append.mp hfound
    rcases List.mem_append.mp hb with hb | hb
    · have hother := hbefore b hb
      rw [hkind] at hother
      cases hother
    · rcases List.mem_cons.mp hb with rfl | hb
      · simpa using Location.upTo_total (origin b) (origin b)
      · exact (List.pairwise_cons.mp (List.pairwise_append.mp hsorted).2.1).1 b hb
  constructor
  · intro hfound
    exact ⟨List.mem_of_find?_eq_some hfound, List.find?_some hfound, hleast hfound⟩
  · rintro ⟨ha, hkind, hupTo⟩
    obtain ⟨b, hb⟩ : ∃ b, items.find? kind = some b := by
      rw [← Option.isSome_iff_exists, List.find?_isSome]
      exact ⟨a, ha, hkind⟩
    have hmem := List.mem_of_find?_eq_some hb
    have hsame := Location.upTo_antisymm (hupTo b hmem (List.find?_some hb)) (hleast hb a ha hkind)
    rw [hb, List.inj_on_of_nodup_map hdistinct ha hmem hsame]

/-- The last item at a location is the only one there, and it is found. -/
theorem find?_reverse_eq_some_iff (hdistinct : (items.map origin).Nodup) {l : Location} {a : α} :
    items.reverse.find? (fun item => origin item == l) = some a ↔ a ∈ items ∧ origin a = l := by
  constructor
  · intro hfound
    have hthere := List.find?_some hfound
    exact ⟨List.mem_reverse.mp (List.mem_of_find?_eq_some hfound), by simpa using hthere⟩
  · rintro ⟨ha, rfl⟩
    obtain ⟨b, hb⟩ : ∃ b, items.reverse.find? (fun item => origin item == origin a) = some b := by
      rw [← Option.isSome_iff_exists, List.find?_isSome]
      exact ⟨a, List.mem_reverse.mpr ha, beq_self_eq_true _⟩
    have hmem := List.mem_reverse.mp (List.mem_of_find?_eq_some hb)
    have hsame := List.find?_some hb
    rw [hb, List.inj_on_of_nodup_map hdistinct hmem ha (by simpa using hsame)]

end

end SpanWeave
