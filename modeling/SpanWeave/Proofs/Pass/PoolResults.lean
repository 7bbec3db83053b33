import Mathlib.Data.List.Forall2
import SpanWeave.Pass.Pool
import SpanWeave.Proofs.ItemByItem

/-!
# What comes of the work of a pool

Work that cannot fail has a value for each task. Whatever the order in which workers take the tasks
up, the values come back in the order of the tasks, and they come back all or not at all: the last
poll decides, because a request to stop never disappears once it shows.
-/

set_option autoImplicit false

namespace SpanWeave

variable {ε α β : Type}

/-- A request to stop that shows goes on showing. -/
theorem StopSignal.shows_mono {s : StopSignal} {earlier later : Nat} (h : earlier ≤ later)
    (hs : s.shows earlier = true) : s.shows later = true := by
  unfold StopSignal.shows at *
  cases hq : s.quietPolls with
  | none => simp [hq] at hs
  | some quiet =>
    simp only [hq, decide_eq_true_eq] at hs ⊢
    omega

/-- Before a poll that stays quiet all polls were quiet. -/
theorem StopSignal.quiet_before {s : StopSignal} {earlier later : Nat} (h : earlier ≤ later)
    (hs : s.shows later = false) : s.shows earlier = false := by
  cases he : s.shows earlier with
  | false => rfl
  | true =>
    have hl := StopSignal.shows_mono h he
    rw [hs] at hl
    exact hl.symm

/-- Without a request to stop every poll is quiet. -/
@[simp] theorem StopSignal.shows_default (polls : Nat) :
    ({} : StopSignal).shows polls = false := rfl

/-- A request to stop shows once it has been asked for often enough. -/
theorem StopSignal.shows_after (quiet polls : Nat) :
    (⟨some quiet⟩ : StopSignal).shows polls = decide (quiet ≤ polls) := rfl

namespace Pool

variable {s : StopSignal} {work : α → Traced ε β} {value : α → β}

/-- Work in turn comes to an end whether or not the request to stop shows. -/
theorem inTurn_result_ok (hwork : ∀ a, (work a).result = .ok (value a)) (tasks : List α)
    (polls : Nat) : ∃ found, (inTurn s work polls tasks).result = .ok found := by
  induction tasks generalizing polls with
  | nil => exact ⟨some [], rfl⟩
  | cons task tasks ih =>
    unfold inTurn
    by_cases hs : s.shows polls = true
    · exact ⟨none, by rw [if_pos hs]; rfl⟩
    · obtain ⟨found, hfound⟩ := ih (polls + 1)
      refine ⟨found.map (value task :: ·), ?_⟩
      rw [if_neg hs, Traced.result_bind_of_ok (hwork task), Traced.result_bind_of_ok hfound]
      rfl

/-- Work in turn under quiet polls gives the values of all tasks in order. -/
theorem inTurn_result_of_quiet (hwork : ∀ a, (work a).result = .ok (value a)) (tasks : List α)
    (polls : Nat) (hs : s.shows (polls + tasks.length) = false) :
    (inTurn s work polls tasks).result = .ok (some (tasks.map value)) := by
  induction tasks generalizing polls with
  | nil => rfl
  | cons task tasks ih =>
    have hlength : polls + (task :: tasks).length = polls + 1 + tasks.length := by
      simp only [List.length_cons]
      omega
    rw [hlength] at hs
    have hpoll : s.shows polls = false := StopSignal.quiet_before (by omega) hs
    unfold inTurn
    rw [if_neg (by simp [hpoll]), Traced.result_bind_of_ok (hwork task),
      Traced.result_bind_of_ok (ih (polls + 1) hs)]
    rfl

/-- Work in any order comes to an end whether or not the request to stop shows. -/
theorem inOrder_result_ok (hwork : ∀ a, (work a).result = .ok (value a)) (tasks : List α)
    (order : List Nat) (polls : Nat) :
    ∃ found, (inOrder s work tasks polls order).result = .ok found := by
  induction order generalizing polls with
  | nil => exact ⟨[], rfl⟩
  | cons k order ih =>
    unfold inOrder
    cases tasks[k]? with
    | none => exact ih polls
    | some task =>
      by_cases hs : s.shows polls = true
      · simpa only [if_pos hs] using ih (polls + 1)
      · obtain ⟨found, hfound⟩ := ih (polls + 1)
        refine ⟨(k, value task) :: found, ?_⟩
        simp only [if_neg hs]
        rw [Traced.result_bind_of_ok (hwork task), Traced.result_bind_of_ok hfound]
        rfl

/-- Work in any order under quiet polls gives each task's value with its position. -/
theorem inOrder_result_of_quiet (hwork : ∀ a, (work a).result = .ok (value a)) (tasks : List α)
    (order : List Nat) (polls : Nat) (hs : s.shows (polls + order.length) = false) :
    (inOrder s work tasks polls order).result =
      .ok (order.filterMap fun k => tasks[k]?.map fun task => (k, value task)) := by
  induction order generalizing polls with
  | nil => rfl
  | cons k order ih =>
    have hlength : polls + (k :: order).length = polls + 1 + order.length := by
      simp only [List.length_cons]
      omega
    rw [hlength] at hs
    have hpoll : s.shows polls = false := StopSignal.quiet_before (by omega) hs
    unfold inOrder
    cases htask : tasks[k]? with
    | none =>
      rw [List.filterMap_cons_none (by simp [htask])]
      exact ih polls (StopSignal.quiet_before (by omega) hs)
    | some task =>
      rw [List.filterMap_cons_some (by simp [htask] : _ = some (k, value task))]
      simp only [hpoll, Bool.false_eq_true, if_false]
      rw [Traced.result_bind_of_ok (hwork task), Traced.result_bind_of_ok (ih (polls + 1) hs)]
      rfl

/-- Among positions with values, looking a position up finds the value of its task. -/
theorem lookup_positions (tasks : List α) (order : List Nat) (k : Nat) (hk : k ∈ order) :
    (order.filterMap fun i => tasks[i]?.map fun task => (i, value task)).lookup k =
      tasks[k]?.map value := by
  induction order with
  | nil => cases hk
  | cons i order ih =>
    by_cases hik : i = k
    · subst hik
      cases htask : tasks[i]? with
      | some task =>
        rw [List.filterMap_cons_some (by simp [htask] : _ = some (i, value task))]
        simp
      | none =>
        -- the position is out of range, so no pair of the rest carries it either
        rw [List.lookup_eq_none_iff.mpr]
        · rfl
        · intro pair hpair
          obtain ⟨j, -, hj⟩ := List.mem_filterMap.mp hpair
          obtain ⟨task, hfound, rfl⟩ := Option.map_eq_some_iff.mp hj
          have hne : i ≠ j := by
            rintro rfl
            rw [htask] at hfound
            cases hfound
          simpa using hne
    · have hmem : k ∈ order := by
        cases hk with
        | head => exact absurd rfl hik
        | tail _ h => exact h
      cases htask : tasks[i]? with
      | none => rw [List.filterMap_cons_none (by simp [htask])]; exact ih hmem
      | some task =>
        rw [List.filterMap_cons_some (by simp [htask] : _ = some (i, value task)), List.lookup_cons]
        have hbeq : (k == i) = false := by simpa using Ne.symm hik
        rw [hbeq]
        exact ih hmem

/-- The values found at all positions, in whatever order, are gathered in the order of the tasks. -/
theorem gather_positions (tasks : List α) (order : List Nat)
    (horder : order.Perm (List.range tasks.length)) :
    gather tasks.length
        (order.filterMap fun k => tasks[k]?.map fun task => (k, value task)) =
      some (tasks.map value) := by
  apply mapM_eq_some
  rw [List.forall₂_iff_get]
  refine ⟨by simp, ?_⟩
  intro k hk hvalue
  have hbound : k < tasks.length := by simpa using hk
  have hmem : k ∈ order := horder.mem_iff.mpr (List.mem_range.mpr hbound)
  simp only [List.get_eq_getElem, List.getElem_range, List.getElem_map]
  rw [lookup_positions tasks order k hmem, List.getElem?_eq_getElem hbound]
  rfl

/-- Work in a pool comes to an end whether or not the request to stop shows. -/
theorem pooled_result_ok (hwork : ∀ a, (work a).result = .ok (value a)) (tasks : List α)
    (order : List Nat) : ∃ found, (pooled s order work tasks).result = .ok found := by
  obtain ⟨found, hfound⟩ := inOrder_result_ok (s := s) hwork tasks order 0
  refine ⟨gather tasks.length found, ?_⟩
  unfold pooled
  rw [Traced.result_bind_of_ok hfound]
  rfl

/-- Work in a pool under quiet polls gives the values of all tasks in the order of the tasks. -/
theorem pooled_result_of_quiet (hwork : ∀ a, (work a).result = .ok (value a)) (tasks : List α)
    (order : List Nat) (horder : order.Perm (List.range tasks.length))
    (hs : s.shows tasks.length = false) :
    (pooled s order work tasks).result = .ok (some (tasks.map value)) := by
  have hlength : order.length = tasks.length := by simpa using horder.length_eq
  have hfound := inOrder_result_of_quiet (s := s) hwork tasks order 0 (by simpa [hlength] using hs)
  unfold pooled
  rw [Traced.result_bind_of_ok hfound, gather_positions tasks order horder]
  rfl

/-- What comes of all tasks: nothing if the last poll shows the request to stop, and otherwise the
values in the order of the tasks, with any number of workers and in any order of work. -/
theorem runAll_result (hwork : ∀ a, (work a).result = .ok (value a)) (workers : Int)
    (order : Nat → List Nat) (tasks : List α)
    (horder : (order tasks.length).Perm (List.range tasks.length)) :
    (runAll s workers order work tasks).result =
      .ok (if s.shows tasks.length then none else some (tasks.map value)) := by
  unfold runAll worked
  cases hs : s.shows tasks.length with
  | false =>
    have hturn := inTurn_result_of_quiet (s := s) hwork tasks 0 (by simpa using hs)
    have hpooled := pooled_result_of_quiet (s := s) hwork tasks (order tasks.length) horder hs
    split
    · rw [Traced.result_bind_of_ok hturn]
      rfl
    · rw [Traced.result_bind_of_ok hpooled]
      rfl
  | true =>
    obtain ⟨turned, hturn⟩ := inTurn_result_ok (s := s) hwork tasks 0
    obtain ⟨found, hpooled⟩ := pooled_result_ok (s := s) hwork tasks (order tasks.length)
    split
    · rw [Traced.result_bind_of_ok hturn]
      rfl
    · rw [Traced.result_bind_of_ok hpooled]
      rfl

end Pool

end SpanWeave
