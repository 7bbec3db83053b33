/-!
# Log records and traced computations

A traced computation yields a result or fails, and leaves records behind in either case. Records are
kept in the order in which they were made.
-/

set_option autoImplicit false

namespace SpanWeave

/-- How serious a record is. -/
inductive Level where
  | debug
  | info
  | warning
  | error
deriving DecidableEq, Repr

namespace Level

/-- The word for a level. -/
def word : Level → String
  | debug => "DEBUG"
  | info => "INFO"
  | warning => "WARNING"
  | error => "ERROR"

/-- The place of a level in the order of seriousness. -/
def rank : Level → Nat
  | debug => 0
  | info => 1
  | warning => 2
  | error => 3

/-- Whether a level is at least as serious as another one. -/
def atLeast (l least : Level) : Bool := least.rank ≤ l.rank

end Level

/-- One record of a log. -/
structure Record where
  level : Level
  /-- The part of the program that speaks. -/
  speaker : String
  message : String
deriving DecidableEq, Repr

/-- The full name of a part of the program; the whole program if no part is named. -/
def speakerName (part : String) : String :=
  if part = "" then "instrumentgen" else "instrumentgen." ++ part

/-- A computation that leaves records behind. -/
structure Traced (ε α : Type) where
  log : List Record
  result : Except ε α

namespace Traced

variable {ε α β : Type}

/-- A computation that only succeeds. -/
def done (a : α) : Traced ε α := ⟨[], .ok a⟩

/-- A computation that only fails. -/
def fail (e : ε) : Traced ε α := ⟨[], .error e⟩

/-- A computation that only leaves a record. -/
def note (level : Level) (speaker message : String) : Traced ε Unit :=
  ⟨[⟨level, speaker, message⟩], .ok ()⟩

/-- An outcome without records. -/
def ofExcept (r : Except ε α) : Traced ε α := ⟨[], r⟩

/-- One computation and then another one that depends on its result. -/
def andThen (x : Traced ε α) (f : α → Traced ε β) : Traced ε β :=
  match x.result with
  | .ok a => ⟨x.log ++ (f a).log, (f a).result⟩
  | .error e => ⟨x.log, .error e⟩

instance : Monad (Traced ε) where
  pure := done
  bind := andThen

/-- The same computation, its failure put in other terms. -/
def mapError {ε' : Type} (f : ε → ε') (x : Traced ε α) : Traced ε' α :=
  ⟨x.log, x.result.mapError f⟩

/-- The outcome of a computation as the result of one that does not fail. -/
def settle {ε' : Type} (x : Traced ε α) : Traced ε' (Except ε α) := ⟨x.log, .ok x.result⟩

end Traced

end SpanWeave
