import Mathlib.Data.List.Forall2
import SpanWeave.Proofs.Tracing.StorableTags
import SpanWeave.Tracing.Span

/-!
# Nested spans

Where spans come from is only known by what it promises (`SpanProvider.KeepsProtocol`): a span is
ended whenever the work under it is over, and marked before that if a failure passes.

The script of nested blocks is what they do one step after the other, as if nothing ever failed:
spans are entered and left, tags are set, failures are raised. A step fails if it raises, or if it
sets a tag on a span that records and the value cannot be shown. A run follows its script up to the
first failure. Then the spans that are open are marked and closed, the innermost first, and nothing
else happens. The main statement is `SpanOwner.trace_follows_script`.
-/

set_option autoImplicit false

namespace SpanWeave

variable {Object Class Failure : Type}

/-! ## What a provider promises -/

/-- A provider that ends its span on every exit of the work, marks it first if a failure passes, lets
the failure pass, and sets the attributes that it is given. -/
structure SpanProvider.KeepsProtocol (P : SpanProvider Object Failure) : Prop where
  ends (tracer name : String) (recording : Bool) {work : Bool → SpanRun Object Failure}
    {events : List (SpanEvent Object)} (h : work recording = ⟨events, none⟩) :
    P.startAsCurrentSpan tracer name recording work =
      ⟨.start tracer name :: events ++ [.finish tracer name], none⟩
  marks (tracer name : String) (recording : Bool) {work : Bool → SpanRun Object Failure}
    {events : List (SpanEvent Object)} {e : Failure} (h : work recording = ⟨events, some e⟩) :
    P.startAsCurrentSpan tracer name recording work =
      ⟨.start tracer name :: events ++ [.failed name, .finish tracer name], some e⟩
  sets (key : String) (value : Recorded Object) :
    P.setAttribute key value = .ofEvent (.tag key value)

theorem SpanProvider.standIn_keepsProtocol :
    (standIn : SpanProvider Object Failure).KeepsProtocol where
  ends tracer name recording work events h := by
    unfold standIn
    simp [h]
  marks tracer name recording work events e h := by
    unfold standIn
    simp [h]
  sets key value := rfl

/-! ## Scripts -/

/-- One step of a script. -/
inductive SpanStep (Value Failure : Type) where
  | enter (name : String) (recording : Bool)
  | setTag (key : String) (value : Value)
  | raise (failure : Failure)
  | leave

namespace SpanBlock

mutual

/-- The script of a block. -/
def script : SpanBlock Object Failure → List (SpanStep Object Failure)
  | .mk name recording tags inner failure =>
    .enter name recording :: (tags.map (fun t => .setTag t.1 t.2) ++
      (scriptAll inner ++ (failure.toList.map .raise ++ [.leave])))

/-- The script of blocks one after the other. -/
def scriptAll : List (SpanBlock Object Failure) → List (SpanStep Object Failure)
  | [] => []
  | block :: rest => script block ++ scriptAll rest

end

end SpanBlock

/-- A step for which it is settled what a tag is to hold, or how its value fails to be shown. -/
abbrev SettledStep (Object Failure : Type) := SpanStep (Except Failure (Recorded Object)) Failure

/-- What a step of a script is settled to be. Only tags are to be settled. -/
inductive SpanStep.SettledAs (W : ObjectSpace Object Class Failure) :
    SpanStep Object Failure → SettledStep Object Failure → Prop
  | enter (name : String) (recording : Bool) : SettledAs W (.enter name recording) (.enter name recording)
  | setTag (key : String) {value : Object} {recorded : Except Failure (Recorded Object)}
    (h : W.RecordedAs value recorded) : SettledAs W (.setTag key value) (.setTag key recorded)
  | raise (failure : Failure) : SettledAs W (.raise failure) (.raise failure)
  | leave : SettledAs W .leave .leave

/-- A span that has been entered and not been left. -/
structure OpenSpan where
  name : String
  recording : Bool

/-- Whether the innermost span takes tags. -/
def OpenSpan.takeTags (spans : List OpenSpan) : Bool := spans.head?.any OpenSpan.recording

namespace SpanStep

/-- The open spans after a step, the innermost first. -/
def spansAfter (spans : List OpenSpan) : SettledStep Object Failure → List OpenSpan
  | enter name recording => ⟨name, recording⟩ :: spans
  | leave => spans.tail
  | setTag .. | raise _ => spans

/-- The failure of a step inside open spans. A value that is to be tagged is shown only if the
innermost span records. -/
def failureIn? (spans : List OpenSpan) : SettledStep Object Failure → Option Failure
  | raise failure => some failure
  | setTag _ (.error failure) => if OpenSpan.takeTags spans then some failure else none
  | _ => none

/-- The first failure of steps one after the other. -/
def firstFailure? : List OpenSpan → List (SettledStep Object Failure) → Option Failure
  | _, [] => none
  | spans, s :: steps => (s.failureIn? spans).or (firstFailure? (s.spansAfter spans) steps)

/-- The steps before the first that fails. -/
def reached : List OpenSpan → List (SettledStep Object Failure) → List (SettledStep Object Failure)
  | _, [] => []
  | spans, s :: steps =>
    if (s.failureIn? spans).isSome then [] else s :: reached (s.spansAfter spans) steps

/-- What is seen of a step inside open spans. A tag is seen if the innermost span records. -/
def eventsIn (tracer : String) (spans : List OpenSpan) :
    SettledStep Object Failure → List (SpanEvent Object)
  | enter name recording => [.start tracer name, .yielded recording]
  | setTag key (.ok value) => if OpenSpan.takeTags spans then [.tag key value] else []
  | setTag _ (.error _) | raise _ => []
  | leave => spans.head?.toList.map fun s => .finish tracer s.name

/-- What is seen of steps one after the other. -/
def eventsOf (tracer : String) :
    List OpenSpan → List (SettledStep Object Failure) → List (SpanEvent Object)
  | _, [] => []
  | spans, s :: steps => s.eventsIn tracer spans ++ eventsOf tracer (s.spansAfter spans) steps

/-- The tag that a step sets on the innermost span, if that one records. -/
def tagOn? (spans : List OpenSpan) : SettledStep Object Failure → Option (String × Recorded Object)
  | setTag key (.ok value) => if OpenSpan.takeTags spans then some (key, value) else none
  | _ => none

/-- The tags that steps set on spans that record, in order. -/
def tagsOn : List OpenSpan → List (SettledStep Object Failure) → List (String × Recorded Object)
  | _, [] => []
  | spans, s :: steps => (s.tagOn? spans).toList ++ tagsOn (s.spansAfter spans) steps

end SpanStep

/-- What is seen of a failure that passes open spans: each is marked and then closed, the innermost
first. -/
def OpenSpan.unwinding (tracer : String) (spans : List OpenSpan) : List (SpanEvent Object) :=
  spans.flatMap fun s => [.failed s.name, .finish tracer s.name]

namespace SpanEvent

/-- The name of the span that a failure passes. -/
def failed? : SpanEvent Object → Option String
  | failed span => some span
  | _ => none

/-- A tag with its key. -/
def tag? : SpanEvent Object → Option (String × Recorded Object)
  | tag key value => some (key, value)
  | _ => none

/-- Events in which each span that is started is finished once, and spans are finished in the
reverse order of their starts. -/
inductive Bracketed (tracer : String) : List (SpanEvent Object) → Prop where
  | nil : Bracketed tracer []
  | yielded (recording : Bool) {rest : List (SpanEvent Object)} (h : Bracketed tracer rest) :
    Bracketed tracer (.yielded recording :: rest)
  | tag (key : String) (value : Recorded Object) {rest : List (SpanEvent Object)}
    (h : Bracketed tracer rest) : Bracketed tracer (.tag key value :: rest)
  | span (name : String) (marked : Bool) {inner rest : List (SpanEvent Object)}
    (hinner : Bracketed tracer inner) (hrest : Bracketed tracer rest) :
    Bracketed tracer (.start tracer name ::
      (inner ++ ((if marked then [.failed name] else []) ++ .finish tracer name :: rest)))

end SpanEvent

/-- What a use of spans shows under a tracer if it follows a script. -/
structure FollowsScript (tracer : String) (script : List (SettledStep Object Failure))
    (run : SpanRun Object Failure) : Prop where
  /-- Each span that is started is finished once, in the reverse order of the starts. -/
  bracketed : SpanEvent.Bracketed tracer run.events
  /-- What comes out is the first failure of the script. -/
  failure_eq : run.failure = SpanStep.firstFailure? [] script
  /-- The steps before it are taken. Then the open spans are marked and closed, the innermost first,
  and nothing else happens. -/
  events_eq : run.events = SpanStep.eventsOf tracer [] (SpanStep.reached [] script) ++
    OpenSpan.unwinding tracer ((SpanStep.reached [] script).foldl SpanStep.spansAfter [])
  /-- The spans that are open at that moment are marked, and no other one. -/
  marked : run.events.filterMap SpanEvent.failed? =
    ((SpanStep.reached [] script).foldl SpanStep.spansAfter []).map OpenSpan.name
  /-- Without a failure no span is left open. -/
  closed : run.failure = none → (SpanStep.reached [] script).foldl SpanStep.spansAfter [] = []
  /-- The tags are those that were set before on spans that record, in order. -/
  tags_eq : run.events.filterMap SpanEvent.tag? = SpanStep.tagsOn [] (SpanStep.reached [] script)

/-! ## Steps before and after others -/

namespace SpanStep

variable {tracer : String} {spans : List OpenSpan} {steps more : List (SettledStep Object Failure)}

theorem firstFailure?_append (spans : List OpenSpan) (steps more : List (SettledStep Object Failure)) :
    firstFailure? spans (steps ++ more) =
      (firstFailure? spans steps).or (firstFailure? (steps.foldl spansAfter spans) more) := by
  induction steps generalizing spans with
  | nil => rfl
  | cons s steps ih => rw [List.cons_append, firstFailure?, firstFailure?, ih, Option.or_assoc,
      List.foldl_cons]

/-- Behind steps without a failure, the script goes on. -/
theorem reached_append_of_none (h : firstFailure? spans steps = none) :
    reached spans (steps ++ more) = steps ++ reached (steps.foldl spansAfter spans) more := by
  induction steps generalizing spans with
  | nil => rfl
  | cons s steps ih =>
    rw [firstFailure?, Option.or_eq_none_iff] at h
    rw [List.cons_append, reached, h.1, if_neg (by simp), ih h.2]
    rfl

/-- Behind a failure, nothing is reached. -/
theorem reached_append_of_some {failure : Failure} (h : firstFailure? spans steps = some failure) :
    reached spans (steps ++ more) = reached spans steps := by
  induction steps generalizing spans with
  | nil => cases h
  | cons s steps ih =>
    rw [firstFailure?] at h
    rw [List.cons_append, reached, reached]
    split
    · rfl
    · rename_i hcalm
      rw [Option.not_isSome_iff_eq_none.mp hcalm, Option.none_or] at h
      rw [ih h]

theorem reached_eq_self (h : firstFailure? spans steps = none) : reached spans steps = steps := by
  have hwhole : reached spans (steps ++ []) = steps ++ reached _ [] := reached_append_of_none h
  simpa [reached] using hwhole

/-- What is seen of steps and more steps is seen of both in turn. -/
theorem eventsOf_append (tracer : String) (spans : List OpenSpan)
    (steps more : List (SettledStep Object Failure)) :
    eventsOf tracer spans (steps ++ more) =
      eventsOf tracer spans steps ++ eventsOf tracer (steps.foldl spansAfter spans) more := by
  induction steps generalizing spans with
  | nil => rfl
  | cons s steps ih => rw [List.cons_append, eventsOf, eventsOf, ih, List.append_assoc,
      List.foldl_cons]

/-- The tags that are seen of steps are those set on spans that record. -/
theorem filterMap_tag_eventsOf (tracer : String) (spans : List OpenSpan)
    (steps : List (SettledStep Object Failure)) :
    (eventsOf tracer spans steps).filterMap SpanEvent.tag? = tagsOn spans steps := by
  induction steps generalizing spans with
  | nil => rfl
  | cons s steps ih =>
    rw [eventsOf, tagsOn, List.filterMap_append, ih]
    congr 1
    cases s with
    | enter name recording => rfl
    | setTag key recorded =>
      cases recorded with
      | error failure => rfl
      | ok value =>
        unfold eventsIn tagOn?
        cases OpenSpan.takeTags spans <;> rfl
    | raise failure => rfl
    | leave => cases spans <;> rfl

/-- Nothing is marked before a failure. -/
theorem filterMap_failed_eventsOf (tracer : String) (spans : List OpenSpan)
    (steps : List (SettledStep Object Failure)) :
    (eventsOf tracer spans steps).filterMap SpanEvent.failed? = [] := by
  induction steps generalizing spans with
  | nil => rfl
  | cons s steps ih =>
    rw [eventsOf, List.filterMap_append, ih, List.append_nil]
    cases s with
    | enter name recording => rfl
    | setTag key recorded =>
      cases recorded with
      | error failure => rfl
      | ok value =>
        unfold eventsIn
        cases OpenSpan.takeTags spans <;> rfl
    | raise failure => rfl
    | leave => cases spans <;> rfl

end SpanStep

namespace OpenSpan

theorem unwinding_append (tracer : String) (spans outer : List OpenSpan) :
    (unwinding tracer (spans ++ outer) : List (SpanEvent Object)) =
      unwinding tracer spans ++ unwinding tracer outer :=
  List.flatMap_append

theorem filterMap_failed_unwinding (tracer : String) (spans : List OpenSpan) :
    (unwinding tracer spans : List (SpanEvent Object)).filterMap SpanEvent.failed? =
      spans.map OpenSpan.name := by
  induction spans with
  | nil => rfl
  | cons s spans ih => exact congrArg (s.name :: ·) ih

theorem filterMap_tag_unwinding (tracer : String) (spans : List OpenSpan) :
    (unwinding tracer spans : List (SpanEvent Object)).filterMap SpanEvent.tag? = [] := by
  induction spans with
  | nil => rfl
  | cons s spans ih => exact ih

end OpenSpan

/-! ## Runs of parts of a script -/

open SpanStep OpenSpan

/-- What a part of a script comes to inside open spans: its first failure, and what is seen up to
there, with the spans that the part itself has left open closed behind it. -/
structure RunsTo (tracer : String) (spans : List OpenSpan) (steps : List (SettledStep Object Failure))
    (run : SpanRun Object Failure) : Prop where
  failure_eq : run.failure = firstFailure? spans steps
  seen : ∃ opened, (reached spans steps).foldl spansAfter spans = opened ++ spans ∧
    run.events = eventsOf tracer spans (reached spans steps) ++ unwinding tracer opened ∧
      (run.failure = none → opened = [])

namespace RunsTo

variable {tracer : String} {spans : List OpenSpan} {steps more : List (SettledStep Object Failure)}
  {run next : SpanRun Object Failure}

theorem nil (tracer : String) (spans : List OpenSpan) :
    RunsTo tracer spans ([] : List (SettledStep Object Failure)) {} :=
  ⟨rfl, [], rfl, rfl, fun _ => rfl⟩

theorem raise (tracer : String) (spans : List OpenSpan) (e : Failure) :
    RunsTo tracer spans ([.raise e] : List (SettledStep Object Failure)) (.raise e) :=
  ⟨rfl, [], rfl, rfl, fun _ => rfl⟩

/-- A part that does not fail leaves the spans as they were. -/
theorem of_calm (h : RunsTo tracer spans steps run) (hcalm : run.failure = none) :
    steps.foldl spansAfter spans = spans ∧ run.events = eventsOf tracer spans steps := by
  obtain ⟨opened, hspans, hevents, hnone⟩ := h.seen
  obtain rfl := hnone hcalm
  rw [reached_eq_self (h.failure_eq.symm.trans hcalm)] at hspans hevents
  exact ⟨hspans, by simpa [unwinding] using hevents⟩

/-- A part is followed by the next one, unless it fails. -/
theorem andThen (h : RunsTo tracer spans steps run) (h' : RunsTo tracer spans more next) :
    RunsTo tracer spans (steps ++ more) (run.andThen next) := by
  unfold SpanRun.andThen
  cases hfailure : run.failure with
  | some e =>
    have hfails : firstFailure? spans steps = some e := h.failure_eq.symm.trans hfailure
    refine ⟨?_, ?_⟩
    · rw [firstFailure?_append, hfails, Option.some_or]
      exact hfailure
    · rw [reached_append_of_some hfails]
      exact h.seen
  | none =>
    have hcalm : firstFailure? spans steps = none := h.failure_eq.symm.trans hfailure
    obtain ⟨hback, hevents⟩ := h.of_calm hfailure
    obtain ⟨opened, hspans, hevents', hnone⟩ := h'.seen
    refine ⟨?_, opened, ?_, ?_, hnone⟩
    · rw [firstFailure?_append, hcalm, Option.none_or, hback]
      exact h'.failure_eq
    · rw [reached_append_of_none hcalm, List.foldl_append, hback, hspans]
    · rw [reached_append_of_none hcalm, eventsOf_append, hback, List.append_assoc, ← hevents',
        hevents]

variable {W : ObjectSpace Object Class Failure} {P : SpanProvider Object Failure}

/-- A tag is set on the span that is open. -/
theorem setTag (hP : P.KeepsProtocol) (tracer : String) (s : OpenSpan) (spans : List OpenSpan)
    (key : String) (value : Object) :
    RunsTo tracer (s :: spans) [.setTag key (W.record value)] (P.setTag W s.recording key value) := by
  obtain ⟨name, recording⟩ := s
  unfold SpanProvider.setTag
  cases recording with
  | false => cases W.record value <;> exact ⟨rfl, [], rfl, rfl, fun _ => rfl⟩
  | true =>
    cases W.record value with
    | error e => exact ⟨rfl, [], rfl, rfl, fun _ => rfl⟩
    | ok recorded =>
      rw [if_pos rfl]
      dsimp only
      rw [hP.sets]
      exact ⟨rfl, [], rfl, rfl, fun _ => rfl⟩

theorem setTags (hP : P.KeepsProtocol) (tracer : String) (s : OpenSpan) (spans : List OpenSpan)
    (tags : List (String × Object)) :
    RunsTo tracer (s :: spans) (tags.map fun t => .setTag t.1 (W.record t.2))
      (.all (tags.map fun t => P.setTag W s.recording t.1 t.2)) := by
  induction tags with
  | nil => exact .nil tracer (s :: spans)
  | cons t tags ih => exact (setTag hP tracer s spans t.1 t.2).andThen ih

/-- A span is opened for work, and it is closed when the work is over. -/
theorem span (hP : P.KeepsProtocol) {name : String} {recording : Bool}
    {work : Bool → SpanRun Object Failure}
    (hwork : work recording = (SpanRun.ofEvent (.yielded recording)).andThen run)
    (h : RunsTo tracer (⟨name, recording⟩ :: spans) steps run) :
    RunsTo tracer spans (.enter name recording :: (steps ++ [.leave]))
      (P.startAsCurrentSpan tracer name recording work) := by
  obtain ⟨events, failure⟩ := run
  have hfirst : firstFailure? spans (.enter name recording :: (steps ++ [.leave])) =
      firstFailure? (⟨name, recording⟩ :: spans) (steps ++ [.leave]) := rfl
  have hreached : reached spans (.enter name recording :: (steps ++ [.leave])) =
      .enter name recording :: reached (⟨name, recording⟩ :: spans) (steps ++ [.leave]) := rfl
  have hevents : ∀ behind : List (SettledStep Object Failure),
      eventsOf tracer spans (.enter name recording :: behind) =
        .start tracer name :: .yielded recording ::
          eventsOf tracer (⟨name, recording⟩ :: spans) behind := fun _ => rfl
  have hspans : ∀ behind : List (SettledStep Object Failure),
      (SpanStep.enter name recording :: behind).foldl spansAfter spans =
      behind.foldl spansAfter (⟨name, recording⟩ :: spans) := fun _ => rfl
  cases failure with
  | none =>
    obtain ⟨hback, hseen⟩ := h.of_calm rfl
    have hcalm : firstFailure? (⟨name, recording⟩ :: spans) steps = none := h.failure_eq.symm
    rw [hP.ends tracer name recording hwork]
    refine ⟨?_, [], ?_, ?_, fun _ => rfl⟩
    · rw [hfirst, firstFailure?_append, hcalm]
      rfl
    · rw [hreached, reached_append_of_none hcalm, hspans, List.foldl_append, hback]
      rfl
    · rw [hreached, reached_append_of_none hcalm, hevents, eventsOf_append, hback, ← hseen]
      simp [SpanRun.ofEvent, unwinding, reached, failureIn?, eventsOf, eventsIn]
  | some e =>
    have hfails : firstFailure? (⟨name, recording⟩ :: spans) steps = some e := h.failure_eq.symm
    obtain ⟨opened, hopened, hseen, -⟩ := h.seen
    rw [hP.marks tracer name recording hwork]
    refine ⟨?_, opened ++ [⟨name, recording⟩], ?_, ?_, fun h => by cases h⟩
    · rw [hfirst, firstFailure?_append, hfails]
      rfl
    · rw [hreached, reached_append_of_some hfails, hspans, hopened, List.append_assoc]
      rfl
    · rw [hreached, reached_append_of_some hfails, hevents, unwinding_append]
      dsimp only at hseen
      simp [hseen, SpanRun.ofEvent, unwinding]

end RunsTo

/-! ## Settled scripts -/

/-- A step with what is recorded of the value of a tag. -/
def SpanStep.settle (W : ObjectSpace Object Class Failure) :
    SpanStep Object Failure → SettledStep Object Failure
  | enter name recording => enter name recording
  | setTag key value => setTag key (W.record value)
  | raise failure => raise failure
  | leave => leave

theorem SpanStep.forall₂_settle (W : ObjectSpace Object Class Failure)
    (script : List (SpanStep Object Failure)) :
    List.Forall₂ (SettledAs W) script (script.map (settle W)) := by
  rw [List.forall₂_map_right_iff, List.forall₂_same]
  intro s _
  cases s with
  | enter name recording => exact .enter name recording
  | setTag key value => exact .setTag key (W.recordedAs_record value)
  | raise failure => exact .raise failure
  | leave => exact .leave

variable {W : ObjectSpace Object Class Failure} {P : SpanProvider Object Failure}

namespace SpanBlock

mutual

theorem run_runsTo (hP : P.KeepsProtocol) (tracer : String) (spans : List OpenSpan) :
    ∀ block : SpanBlock Object Failure,
      RunsTo tracer spans (block.script.map (settle W)) (block.run W P tracer)
  | .mk name recording tags inner failure => by
    have htags := RunsTo.setTags (W := W) hP tracer ⟨name, recording⟩ spans tags
    have hinner := runAll_runsTo hP tracer (⟨name, recording⟩ :: spans) inner
    have hend : RunsTo tracer (⟨name, recording⟩ :: spans)
        ((failure.toList.map SpanStep.raise).map (settle W)) (failure.elim {} .raise) := by
      cases failure with
      | none => exact .nil tracer _
      | some e => exact .raise tracer _ e
    have hbody := htags.andThen (hinner.andThen (hend.andThen (.nil tracer _)))
    have hscript : (SpanBlock.mk name recording tags inner failure).script.map (settle W) =
        .enter name recording :: ((tags.map (fun t => .setTag t.1 (W.record t.2)) ++
          ((scriptAll inner).map (settle W) ++
            ((failure.toList.map .raise).map (settle W) ++ []))) ++ [.leave]) := by
      unfold script
      simp [settle, Function.comp_def]
    rw [hscript]
    unfold run
    exact .span hP rfl hbody

theorem runAll_runsTo (hP : P.KeepsProtocol) (tracer : String) (spans : List OpenSpan) :
    ∀ blocks : List (SpanBlock Object Failure),
      RunsTo tracer spans ((scriptAll blocks).map (settle W)) (runAll W P tracer blocks)
  | [] => .nil tracer spans
  | block :: rest => by
    unfold scriptAll runAll
    rw [List.map_append]
    exact (run_runsTo hP tracer spans block).andThen (runAll_runsTo hP tracer spans rest)

end

end SpanBlock

/-! ## Brackets -/

namespace SpanEvent.Bracketed

variable {tracer : String} {events more : List (SpanEvent Object)}

theorem append (h : Bracketed tracer events) (h' : Bracketed tracer more) :
    Bracketed tracer (events ++ more) := by
  induction h with
  | nil => exact h'
  | yielded recording _ ih => exact .yielded recording ih
  | tag key value _ ih => exact .tag key value ih
  | span name marked hinner _ _ ih => simpa using span name marked hinner ih

theorem andThen {run next : SpanRun Object Failure} (h : Bracketed tracer run.events)
    (h' : Bracketed tracer next.events) : Bracketed tracer (run.andThen next).events := by
  unfold SpanRun.andThen
  split
  · exact h
  · exact h.append h'

theorem all {runs : List (SpanRun Object Failure)} (h : ∀ run ∈ runs, Bracketed tracer run.events) :
    Bracketed tracer (SpanRun.all runs).events := by
  induction runs with
  | nil => exact .nil
  | cons run runs ih =>
    obtain ⟨hrun, hruns⟩ := List.forall_mem_cons.mp h
    exact hrun.andThen (ih hruns)

theorem setTag (hP : P.KeepsProtocol) (tracer : String) (given : Bool) (key : String)
    (value : Object) : Bracketed tracer (P.setTag W given key value).events := by
  unfold SpanProvider.setTag
  split
  · split
    · rw [hP.sets]
      exact .tag _ _ .nil
    · exact .nil
  · exact .nil

theorem startAsCurrentSpan (hP : P.KeepsProtocol) (name : String) {recording : Bool}
    {work : Bool → SpanRun Object Failure} (h : Bracketed tracer (work recording).events) :
    Bracketed tracer (P.startAsCurrentSpan tracer name recording work).events := by
  cases hwork : work recording with
  | mk events failure =>
    rw [hwork] at h
    cases failure with
    | none =>
      rw [hP.ends tracer name recording hwork]
      simpa using span name false h .nil
    | some e =>
      rw [hP.marks tracer name recording hwork]
      simpa using span name true h .nil

end SpanEvent.Bracketed

namespace SpanBlock

mutual

theorem run_bracketed (hP : P.KeepsProtocol) (tracer : String) :
    ∀ block : SpanBlock Object Failure, SpanEvent.Bracketed tracer (block.run W P tracer).events
  | .mk name recording tags inner failure => by
    have hinner := runAll_bracketed hP tracer inner
    unfold run
    apply SpanEvent.Bracketed.startAsCurrentSpan hP
    apply SpanEvent.Bracketed.all
    rintro r hr
    simp only [List.mem_cons, List.not_mem_nil, or_false] at hr
    obtain rfl | rfl | rfl | rfl := hr
    · exact .yielded recording .nil
    · apply SpanEvent.Bracketed.all
      rintro r hr
      obtain ⟨t, -, rfl⟩ := List.mem_map.mp hr
      exact .setTag hP tracer recording t.1 t.2
    · exact hinner
    · cases failure <;> exact .nil

theorem runAll_bracketed (hP : P.KeepsProtocol) (tracer : String) :
    ∀ blocks : List (SpanBlock Object Failure),
      SpanEvent.Bracketed tracer (runAll W P tracer blocks).events
  | [] => .nil
  | block :: rest => by
    unfold runAll
    exact (run_bracketed hP tracer block).andThen (runAll_bracketed hP tracer rest)

end

end SpanBlock

/-! ## Main statement -/

/-- A bracketed run of a whole script follows it. -/
theorem RunsTo.follows {tracer : String} {steps : List (SettledStep Object Failure)}
    {run : SpanRun Object Failure} (h : RunsTo tracer [] steps run)
    (hbracketed : SpanEvent.Bracketed tracer run.events) : FollowsScript tracer steps run := by
  obtain ⟨opened, hopened, hseen, hnone⟩ := h.seen
  rw [List.append_nil] at hopened
  subst hopened
  refine ⟨hbracketed, h.failure_eq, hseen, ?_, hnone, ?_⟩
  · rw [hseen, List.filterMap_append, filterMap_failed_eventsOf, filterMap_failed_unwinding,
      List.nil_append]
  · rw [hseen, List.filterMap_append, filterMap_tag_eventsOf, filterMap_tag_unwinding,
      List.append_nil]

/-- On a provider that keeps the protocol, every use of a source of spans follows its script, be it
one block on a fresh source or several blocks one after the other. The tags hold what is recorded of
the objects that they are given. -/
theorem SpanOwner.trace_follows_script (W : ObjectSpace Object Class Failure)
    {P : SpanProvider Object Failure} (hP : P.KeepsProtocol) (o : SpanOwner) :
    (∀ block : SpanBlock Object Failure, ∃ steps run,
      List.Forall₂ (SpanStep.SettledAs W) block.script steps ∧
      o.trace W P block = ⟨.tracer o.tracer :: run.events, run.failure⟩ ∧
      FollowsScript o.tracer steps run) ∧
    ∀ blocks : List (SpanBlock Object Failure), ∃ steps,
      List.Forall₂ (SpanStep.SettledAs W) (SpanBlock.scriptAll blocks) steps ∧
      FollowsScript o.tracer steps (SpanBlock.runAll W P o.tracer blocks) := by
  refine ⟨?_, ?_⟩
  · intro block
    exact ⟨_, block.run W P o.tracer, SpanStep.forall₂_settle W block.script, rfl,
      (SpanBlock.run_runsTo hP o.tracer [] block).follows
        (SpanBlock.run_bracketed hP o.tracer block)⟩
  · intro blocks
    exact ⟨_, SpanStep.forall₂_settle W _, (SpanBlock.runAll_runsTo hP o.tracer [] blocks).follows
      (SpanBlock.runAll_bracketed hP o.tracer blocks)⟩

/-- Work with a span inside that does not record, one inside that fails, and one that is not reached.
-/
def failingWork : SpanBlock Datum String :=
  .mk "work" true [("count", .int 1), ("mixed", .list [.int 1, .text "a"])]
    [.mk "quiet" false [("lost", .int 2)] [] none,
      .mk "last" true [("flags", .tuple [.bool true, .bool false])] [] (some "boom"),
      .mk "never" true [] [] none]
    (some "late")

/-- The first failure comes out of the work, both spans that were open are marked, and the tags are
those set before on the two spans that record. -/
theorem SpanOwner.trace_follows_script_failingWork :
    (SpanProvider.standIn : SpanProvider Datum String).KeepsProtocol ∧
    ∃ steps, List.Forall₂ (SpanStep.SettledAs (Datum.objects.withFailures Empty.elim))
        failingWork.script steps ∧
      SpanStep.firstFailure? [] steps = some "boom" ∧
      ((SpanStep.reached [] steps).foldl SpanStep.spansAfter []).map OpenSpan.name =
        ["last", "work"] ∧
      SpanStep.tagsOn [] (SpanStep.reached [] steps) =
        [("count", .single (.int 1)), ("mixed", .single (.text "[1, 'a']")),
          ("flags", .list [.bool true, .bool false])] := by
  have hP : (SpanProvider.standIn : SpanProvider Datum String).KeepsProtocol :=
    SpanProvider.standIn_keepsProtocol
  obtain ⟨hblock, -⟩ := trace_follows_script (Datum.objects.withFailures Empty.elim) hP ⟨"m", "T", 0⟩
  obtain ⟨steps, run, hsettled, htrace, hfollows⟩ := hblock failingWork
  have hevents : run.events = (trace (Datum.objects.withFailures Empty.elim) .standIn ⟨"m", "T", 0⟩
      failingWork).events.tail := by
    rw [htrace]
    rfl
  have hfailure : run.failure = (trace (Datum.objects.withFailures Empty.elim) .standIn ⟨"m", "T", 0⟩
      failingWork).failure := by
    rw [htrace]
  refine ⟨hP, steps, hsettled, ?_, ?_, ?_⟩
  · rw [← hfollows.failure_eq, hfailure]
    rfl
  · rw [← hfollows.marked, hevents]
    rfl
  · rw [← hfollows.tags_eq, hevents]
    rfl

end SpanWeave
