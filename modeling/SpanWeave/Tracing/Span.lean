import SpanWeave.Tracing.ObjectSpace

/-!
# Spans

A block of work opens a span, sets tags on it, runs further blocks inside it, and may fail in the
end. Spans come from a provider, which is not part of the library: it runs work under a span of its
own and takes the attributes of spans. A span that does not record is not given to the work under it
and so takes no tags. A tag records its value first, and if the value cannot be shown, setting the
tag fails.
-/

set_option autoImplicit false

namespace SpanWeave

/-- What is seen of spans from outside. -/
inductive SpanEvent (Object : Type) where
  /-- A tracer is asked for. -/
  | tracer (tracer : String)
  | start (tracer span : String)
  /-- Whether a block is given its span, which it is if the span records. -/
  | yielded (recording : Bool)
  | tag (key : String) (value : Recorded Object)
  /-- A failure passes a span. -/
  | failed (span : String)
  | finish (tracer span : String)
deriving Repr

/-- What work comes to: what is seen of it, and the failure that comes out of it, if one does. -/
structure SpanRun (Object Failure : Type) where
  events : List (SpanEvent Object) := []
  failure : Option Failure := none
deriving Repr

namespace SpanRun

variable {Object Failure : Type}

/-- Work of which one event is seen. -/
def ofEvent (e : SpanEvent Object) : SpanRun Object Failure := ⟨[e], none⟩

/-- Work that fails. -/
def raise (e : Failure) : SpanRun Object Failure := ⟨[], some e⟩

/-- Work and then more work, which is not done if the first fails. -/
def andThen (first second : SpanRun Object Failure) : SpanRun Object Failure :=
  match first.failure with
  | some _ => first
  | none => ⟨first.events ++ second.events, second.failure⟩

/-- Work done in order, up to the first that fails. -/
def all (runs : List (SpanRun Object Failure)) : SpanRun Object Failure := runs.foldr andThen {}

end SpanRun

/-- Where spans come from. -/
structure SpanProvider (Object Failure : Type) where
  /-- Runs work under a new span of a tracer, given its name and whether it is to record. The work is
  told whether it does. -/
  startAsCurrentSpan (tracer name : String) (recording : Bool)
    (work : Bool → SpanRun Object Failure) : SpanRun Object Failure
  /-- Sets an attribute of the current span. -/
  setAttribute (key : String) (value : Recorded Object) : SpanRun Object Failure

namespace SpanProvider

variable {Object Class Failure : Type}

/-- A provider whose spans are all seen from outside. -/
def standIn : SpanProvider Object Failure where
  startAsCurrentSpan tracer name recording work :=
    let ⟨events, failure⟩ := work recording
    ⟨.start tracer name :: events ++ (if failure.isSome then [.failed name] else []) ++
      [.finish tracer name], failure⟩
  setAttribute key value := .ofEvent (.tag key value)

/-- A provider whose spans do not record and are not seen. -/
def silent : SpanProvider Object Failure where
  startAsCurrentSpan _ _ _ work := work false
  setAttribute _ _ := {}

/-- Sets a tag on a span, if there is one. -/
def setTag (P : SpanProvider Object Failure) (W : ObjectSpace Object Class Failure) (given : Bool)
    (key : String) (value : Object) : SpanRun Object Failure :=
  if given then
    match W.record value with
    | .ok recorded => P.setAttribute key recorded
    | .error e => .raise e
  else {}

end SpanProvider

/-- A block of work under a span of its own. -/
inductive SpanBlock (Object Failure : Type) where
  | mk (name : String) (recording : Bool) (tags : List (String × Object))
    (inner : List (SpanBlock Object Failure)) (failure : Option Failure)
deriving Repr

namespace SpanBlock

variable {Object Class Failure : Type} (W : ObjectSpace Object Class Failure)
  (P : SpanProvider Object Failure) (tracer : String)

mutual

/-- Runs a block under a tracer. -/
def run : SpanBlock Object Failure → SpanRun Object Failure
  | .mk name recording tags inner failure =>
    P.startAsCurrentSpan tracer name recording fun given =>
      .all [.ofEvent (.yielded given), .all (tags.map fun t => P.setTag W given t.1 t.2),
        runAll inner, failure.elim {} .raise]

/-- Runs blocks in order, up to the first that fails. -/
def runAll : List (SpanBlock Object Failure) → SpanRun Object Failure
  | [] => {}
  | block :: rest => (run block).andThen (runAll rest)

end

end SpanBlock

/-- A type that owns spans. Types of the same name are told apart by a number. -/
structure SpanOwner where
  module : String
  name : String
  copy : Nat := 0
deriving DecidableEq, Repr

/-- The name of the tracer that all spans of an owner come from. -/
def SpanOwner.tracer (o : SpanOwner) : String := o.module ++ "." ++ o.name

/-- What is seen of a block that runs on a fresh source of spans for an owner. -/
def SpanOwner.trace {Object Class Failure : Type} (W : ObjectSpace Object Class Failure)
    (P : SpanProvider Object Failure) (o : SpanOwner) (block : SpanBlock Object Failure) :
    SpanRun Object Failure :=
  (SpanRun.ofEvent (.tracer o.tracer)).andThen (block.run W P o.tracer)

/-- The owners that share a source of spans each, in the order in which they first asked for it. -/
structure SharedSources where
  owners : List SpanOwner := []
deriving DecidableEq, Repr

namespace SharedSources

/-- The number of the source of an owner, and the sources with it. -/
def sourceFor (s : SharedSources) (o : SpanOwner) : Nat × SharedSources :=
  match s.owners.findIdx? (· == o) with
  | some k => (k, s)
  | none => (s.owners.length, ⟨s.owners ++ [o]⟩)

end SharedSources

end SpanWeave
