import SpanWeave.Files.Path
import SpanWeave.Wrapper.Eligibility
import SpanWeave.Wrapper.Failure

/-!
# Findings of a pass

Why a marked declaration has no wrapper of its own. A finding is a cause and the declaration it is
about; its code, its severity and its words follow from the cause.
-/

set_option autoImplicit false

namespace SpanWeave

/-- How serious a report is. -/
inductive Severity where
  | info
  | warning
  | error
deriving DecidableEq, Repr

namespace Severity

/-- The word for a severity. -/
def word : Severity → String
  | info => "info"
  | warning => "warning"
  | error => "error"

/-- The severity of a word. -/
def ofWord? : String → Option Severity
  | "info" => some info
  | "warning" => some warning
  | "error" => some error
  | _ => none

end Severity

/-- A report in words. -/
structure Diagnostic where
  code : String
  severity : Severity
  message : String
  origin : Option Location
deriving DecidableEq, Repr

/-- The report on one line, its place first. -/
def Diagnostic.text (d : Diagnostic) : String :=
  let place :=
    match d.origin with
    | some origin => origin.text ++ ": "
    | none => ""
  place ++ d.severity.word ++ " [" ++ d.code ++ "] " ++ d.message

/-- Why a marked declaration has no wrapper of its own. -/
inductive Cause where
  /-- The type is not eligible. -/
  | passedOver (type : TypeIdentity) (verdict : Verdict)
  /-- No wrapper can be made of the type. -/
  | failed (type : TypeIdentity) (error : GenerationError)
  /-- Another declaration of the same type gets the wrapper. -/
  | duplicate (type : TypeIdentity) (kept : Location)
  /-- The wrapper would import relative to a directory that it is not in. -/
  | relativeImport (type : TypeIdentity) (directory : Path)
  /-- The file of the wrapper is taken by the wrapper of another type. -/
  | occupied (type : TypeIdentity) (target : Path) (owner : TypeIdentity)
deriving DecidableEq, Repr

namespace Cause

/-- The code of a cause. -/
def code : Cause → String
  | passedOver _ verdict => verdict.code
  | failed _ error => error.code
  | duplicate .. => "duplicate"
  | relativeImport .. => "relative-import"
  | occupied .. => "duplicate-artifact"

/-- The severity of a cause. -/
def severity : Cause → Severity
  | passedOver .. => .info
  | duplicate .. => .warning
  | failed .. | relativeImport .. | occupied .. => .error

/-- A cause in words. -/
def message : Cause → String
  | passedOver type verdict => verdict.skipMessage type.qualifiedName
  | failed type error => type.qualifiedName ++ ": " ++ error.message
  | duplicate type kept =>
    type.qualifiedName ++ " is marked more than once; the declaration at " ++ kept.text ++
      " generates the wrapper"
  | relativeImport type directory =>
    type.qualifiedName ++ ": relative imports do not resolve from " ++ directory.text ++
      "; use absolute imports or write wrappers next to their sources"
  | occupied type target owner =>
    type.qualifiedName ++ ": " ++ target.text ++ " is already generated for " ++ owner.qualifiedName

end Cause

/-- A cause and the declaration it is about. -/
structure Finding where
  cause : Cause
  origin : Location
deriving DecidableEq, Repr

/-- The report of a finding. -/
def Finding.diagnostic (f : Finding) : Diagnostic :=
  ⟨f.cause.code, f.cause.severity, f.cause.message, some f.origin⟩

end SpanWeave
