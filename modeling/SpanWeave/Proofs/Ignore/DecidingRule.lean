import Mathlib.Data.List.Induction
import SpanWeave.Ignore.Rule

/-!
# The rule that decides on a path

Of all rules about a path only the last one counts, so one more rule at the end changes nothing but
the paths that it is about.
-/

set_option autoImplicit false

namespace SpanWeave.IgnoreRule

/-- Rules leave a path out if the last one about it is there and does not keep the path. -/
def LeaveOut (rules : List IgnoreRule) (path : String) (isFolder : Bool) : Prop :=
  ∃ r, rules.reverse.find? (fun r => r.covers path isFolder) = some r ∧ r.negated = false

variable {rules : List IgnoreRule} {path : String} {isFolder : Bool}

/-- A rule at the end decides on the paths that it is about. -/
theorem ignores_append_singleton (rules : List IgnoreRule) (r : IgnoreRule) (path : String)
    (isFolder : Bool) :
    ignores (rules ++ [r]) path isFolder =
      if r.covers path isFolder then !r.negated else ignores rules path isFolder := by
  unfold ignores
  rw [List.foldl_append]
  rfl

theorem ignores_iff : ignores rules path isFolder = true ↔ LeaveOut rules path isFolder := by
  unfold LeaveOut
  induction rules using List.reverseRecOn with
  | nil => simp [ignores]
  | append_singleton rules r ih =>
    rw [ignores_append_singleton, List.reverse_append, List.reverse_singleton,
      List.singleton_append, List.find?_cons]
    cases hcovers : r.covers path isFolder with
    | true => simp
    | false => simpa using ih

instance : Decidable (LeaveOut rules path isFolder) := decidable_of_iff _ ignores_iff

theorem ignores_eq_false_iff :
    ignores rules path isFolder = false ↔ ¬ LeaveOut rules path isFolder := by
  rw [← ignores_iff, Bool.not_eq_true]

/-- One more rule at the end that keeps nothing leaves out what it is about. -/
theorem leaveOut_append_singleton {r : IgnoreRule} (hr : r.negated = false) :
    LeaveOut (rules ++ [r]) path isFolder ↔
      LeaveOut rules path isFolder ∨ r.covers path isFolder = true := by
  rw [← ignores_iff, ← ignores_iff, ignores_append_singleton]
  cases r.covers path isFolder <;> simp [hr]

/-- A rule about folders is not about files. -/
theorem covers_file {r : IgnoreRule} (hr : r.directoryOnly = true) (path : String) :
    r.covers path false = false := by
  unfold covers
  split
  · rfl
  · simp [hr]

end SpanWeave.IgnoreRule
