import SpanWeave.Log

/-!
# Work in turn and work in a pool

Tasks are done one after another or taken up by several workers in some order. A worker asks for a
stop before each task, and whoever collects the results asks once more at the end. A stop leaves no
results at all, and the results stand in the order of the tasks whatever order they were taken up
in.
-/

set_option autoImplicit false

namespace SpanWeave

/-- A request to stop. It shows once it has been asked for often enough, and never if there is none.
-/
structure StopSignal where
  quietPolls : Option Nat := none
deriving DecidableEq, Repr

/-- Whether the request shows after so many earlier polls. -/
def StopSignal.shows (s : StopSignal) (polls : Nat) : Bool :=
  match s.quietPolls with
  | some quiet => quiet ≤ polls
  | none => false

namespace Pool

/-- Tasks in turn are taken up once each. -/
theorem range_complete (count : Nat) : (List.range count).Perm (List.range count) :=
  List.Perm.refl (List.range count)

variable {ε α β : Type}

/-- Does tasks one after another; nothing comes of them if the request to stop shows. -/
def inTurn (s : StopSignal) (work : α → Traced ε β) : Nat → List α → Traced ε (Option (List β))
  | _, [] => return some []
  | polls, task :: tasks =>
    if s.shows polls then return none
    else do
      let result ← work task
      let results ← inTurn s work (polls + 1) tasks
      return results.map (result :: ·)

/-- Does the tasks at the given positions in the given order, and leaves out those before which the
request to stop shows. Each result has the position of its task. -/
def inOrder (s : StopSignal) (work : α → Traced ε β) (tasks : List α) :
    Nat → List Nat → Traced ε (List (Nat × β))
  | _, [] => return []
  | polls, k :: order =>
    match tasks[k]? with
    | none => inOrder s work tasks polls order
    | some task =>
      if s.shows polls then inOrder s work tasks (polls + 1) order
      else do
        let result ← work task
        let results ← inOrder s work tasks (polls + 1) order
        return (k, result) :: results

/-- The results of so many tasks by position, if each task has one. -/
def gather (count : Nat) (results : List (Nat × β)) : Option (List β) :=
  (List.range count).mapM fun k => results.lookup k

/-- The results of all tasks, taken up by workers in the given order, if each task has one. -/
def pooled (s : StopSignal) (order : List Nat) (work : α → Traced ε β) (tasks : List α) :
    Traced ε (Option (List β)) := do
  let found ← inOrder s work tasks 0 order
  return gather tasks.length found

/-- The results of all tasks as the workers leave them. With one worker or one task the tasks are
done in turn, and otherwise in the order that the workers take them up in. -/
def worked (s : StopSignal) (workers : Int) (order : Nat → List Nat) (work : α → Traced ε β)
    (tasks : List α) : Traced ε (Option (List β)) :=
  if workers ≤ 1 || tasks.length ≤ 1 then inTurn s work 0 tasks
  else pooled s (order tasks.length) work tasks

/-- The results of all tasks, or nothing after a stop, also after one that shows only when all tasks
are done. -/
def runAll (s : StopSignal) (workers : Int) (order : Nat → List Nat) (work : α → Traced ε β)
    (tasks : List α) : Traced ε (Option (List β)) := do
  let results ← worked s workers order work tasks
  return if s.shows tasks.length then none else results

end Pool

end SpanWeave
