import Mathlib.Data.List.Forall2
import SpanWeave.Proofs.TracedResult

/-!
# Lists that go together item by item

A step that is taken for every item of a list ties the list to the list of its results. What ties
two lists gives each item of one of them its counterpart in the other one. What becomes of an item
may hang on the items before it, so a list is also seen as its items with those before each.
-/

set_option autoImplicit false

namespace SpanWeave

variable {ε α β γ : Type} {R : α → β → Prop} {as : List α} {bs : List β} {cs : List γ}

theorem exists_right_of_forall₂ (h : List.Forall₂ R as bs) {a : α} (ha : a ∈ as) :
    ∃ b ∈ bs, R a b := by
  induction h with
  | nil => cases ha
  | cons hab _ ih =>
    rcases List.mem_cons.mp ha with rfl | ha
    · exact ⟨_, List.mem_cons_self, hab⟩
    · obtain ⟨b, hb, hfits⟩ := ih ha
      exact ⟨b, List.mem_cons_of_mem _ hb, hfits⟩

theorem exists_left_of_forall₂ (h : List.Forall₂ R as bs) {b : β} (hb : b ∈ bs) :
    ∃ a ∈ as, R a b := by
  obtain ⟨a, ha, hfits⟩ := exists_right_of_forall₂ h.flip hb
  exact ⟨a, ha, hfits⟩

theorem forall₂_comp {S : β → γ → Prop} {T : α → γ → Prop} (h : List.Forall₂ R as bs)
    (h' : List.Forall₂ S bs cs) (hcomp : ∀ a b c, R a b → S b c → T a c) :
    List.Forall₂ T as cs := by
  induction h generalizing cs with
  | nil =>
    cases h'
    exact .nil
  | cons hab _ ih =>
    cases h' with
    | cons hbc hrest => exact .cons (hcomp _ _ _ hab hbc) (ih hrest)

/-- A function that does not tell counterparts apart maps both lists to one list. -/
theorem map_eq_of_forall₂ {f : α → γ} {g : β → γ} (h : List.Forall₂ R as bs)
    (hsame : ∀ a b, R a b → f a = g b) : as.map f = bs.map g := by
  induction h with
  | nil => rfl
  | cons hab _ ih => rw [List.map_cons, List.map_cons, hsame _ _ hab, ih]

/-- A step that succeeds for a list succeeds for each of its items. -/
theorem forall₂_of_mapM_eq_ok {f : α → Except ε β} (h : as.mapM f = .ok bs) :
    List.Forall₂ (fun a b => f a = .ok b) as bs := by
  induction as generalizing bs with
  | nil =>
    cases h
    exact .nil
  | cons a as ih =>
    rw [List.mapM_cons] at h
    obtain ⟨b, hb, h⟩ := Traced.except_bind_eq_ok.mp h
    obtain ⟨rest, hrest, h⟩ := Traced.except_bind_eq_ok.mp h
    cases h
    exact .cons hb (ih hrest)

/-- A step fails for a list as it fails for the first item for which it does. -/
theorem mapM_eq_error_iff {f : α → Except ε β} {e : ε} :
    as.mapM f = .error e ↔ ∃ before a after, as = before ++ a :: after ∧
      (∀ b ∈ before, ∃ c, f b = .ok c) ∧ f a = .error e := by
  induction as with
  | nil =>
    constructor
    · intro h
      cases h
    · rintro ⟨before, a, after, hsplit, -⟩
      simp at hsplit
  | cons first as ih =>
    have hrest : ∀ c, (as.mapM f >>= fun cs => pure (c :: cs)) = .error e ↔
        as.mapM f = .error e := by
      intro c
      rw [Traced.except_bind_eq_error, or_iff_left]
      rintro ⟨cs, -, h⟩
      cases h
    rw [List.mapM_cons, Traced.except_bind_eq_error]
    simp only [hrest, ih]
    constructor
    · rintro (hfirst | ⟨c, hfirst, before, a, after, rfl, hbefore, hfails⟩)
      · exact ⟨[], first, as, rfl, List.forall_mem_nil _, hfirst⟩
      · exact ⟨first :: before, a, after, rfl, List.forall_mem_cons.mpr ⟨⟨c, hfirst⟩, hbefore⟩,
          hfails⟩
    · rintro ⟨before, a, after, hsplit, hbefore, hfails⟩
      cases before with
      | nil =>
        cases hsplit
        exact Or.inl hfails
      | cons b before =>
        cases hsplit
        obtain ⟨⟨c, hc⟩, hbefore⟩ := List.forall_mem_cons.mp hbefore
        exact Or.inr ⟨c, hc, before, a, after, rfl, hbefore, hfails⟩

/-- Values that are all present are found as a list. -/
theorem mapM_eq_some {f : α → Option β} (h : List.Forall₂ (fun a b => f a = some b) as bs) :
    as.mapM f = some bs := by
  induction h with
  | nil => rfl
  | cons ha _ ih =>
    rw [List.mapM_cons, ha, ih]
    rfl

/-! ## Items and what comes before them -/

/-- Each item of a list with the items before it. -/
def withEarlier {α : Type} (items : List α) : List (List α × α) :=
  items.zipIdx.map fun p => (items.take p.2, p.1)

theorem withEarlier_cons {α : Type} (item : α) (items : List α) :
    withEarlier (item :: items) =
      ([], item) :: (withEarlier items).map fun p => (item :: p.1, p.2) := by
  unfold withEarlier
  rw [List.zipIdx_cons, List.map_cons, List.zipIdx_succ, List.map_map, List.map_map]
  rfl

theorem withEarlier_concat {α : Type} (items : List α) (item : α) :
    withEarlier (items ++ [item]) = withEarlier items ++ [(items, item)] := by
  induction items with
  | nil => rfl
  | cons first items ih =>
    rw [List.cons_append, withEarlier_cons, ih, List.map_append, withEarlier_cons]
    rfl

end SpanWeave
