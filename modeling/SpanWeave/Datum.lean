import SpanWeave.Number.Shortest
import SpanWeave.Text.Quoted

/-!
# Free data

The values that a settings document or a traced call can hold, and the text each of them is shown
as. A text shown by itself stands bare, and inside a collection it stands between quotes.
-/

set_option autoImplicit false

namespace SpanWeave

/-- A value of free data. -/
inductive Datum where
  | null
  | bool (b : Bool)
  | int (n : Int)
  | float (x : Binary64)
  | text (s : String)
  /-- Raw bytes. -/
  | bytes (bs : List UInt8)
  /-- A calendar date or an instant, kept as written. -/
  | moment (written : String)
  | list (items : List Datum)
  | tuple (items : List Datum)
  /-- Keys with their values, in the order of writing; a later key overrides an equal earlier one.
  -/
  | dict (entries : List (Datum × Datum))
  /-- Members without an order of their own. -/
  | set (items : List Datum)
deriving Repr

namespace Datum

/-- One byte inside a quoted run of bytes. -/
def quotedByte (b : UInt8) : List Char :=
  let c := Char.ofNat b.toNat
  if c = '\'' || c = '\\' then ['\\', c]
  else if c = '\t' then ['\\', 't']
  else if c = '\n' then ['\\', 'n']
  else if c = '\r' then ['\\', 'r']
  else if 32 ≤ b.toNat && b.toNat < 127 then [c]
  else '\\' :: 'x' :: Text.hexDigits 2 b.toNat

mutual

/-- A value as it stands inside a collection. -/
def shown : Datum → String
  | null => "None"
  | bool b => if b then "True" else "False"
  | int n => toString n
  | float x => x.text
  | text s => Text.quoted s
  | bytes bs => "b'" ++ String.ofList (bs.flatMap quotedByte) ++ "'"
  | moment written => written
  | list items => "[" ++ String.intercalate ", " (shownItems items) ++ "]"
  | tuple [] => "()"
  | tuple [x] => "(" ++ shown x ++ ",)"
  | tuple (x :: y :: items) =>
    "(" ++ String.intercalate ", " (shown x :: shown y :: shownItems items) ++ ")"
  | dict entries => "\x7b" ++ String.intercalate ", " (shownEntries entries) ++ "\x7d"
  | set [] => "set()"
  | set (x :: items) => "\x7b" ++ String.intercalate ", " (shown x :: shownItems items) ++ "\x7d"

/-- The items of a collection. -/
def shownItems : List Datum → List String
  | [] => []
  | x :: xs => shown x :: shownItems xs

/-- The entries of a dictionary. -/
def shownEntries : List (Datum × Datum) → List String
  | [] => []
  | (k, v) :: rest => (shown k ++ ": " ++ shown v) :: shownEntries rest

end

/-- A value as it stands by itself. -/
def display : Datum → String
  | text s => s
  | d => d.shown

/-- Whether the value counts as present: not nothing, zero, false or empty. -/
def isPresent : Datum → Bool
  | null => false
  | bool b => b
  | int n => n != 0
  | float x => !x.isZero
  | text s => !s.isEmpty
  | bytes bs => !bs.isEmpty
  | moment _ => true
  | list xs => !xs.isEmpty
  | tuple xs => !xs.isEmpty
  | dict es => !es.isEmpty
  | set xs => !xs.isEmpty

/-- The value under a text key among entries; the last such entry counts. -/
def entryAt? (key : String) : List (Datum × Datum) → Option Datum
  | [] => none
  | (k, v) :: rest =>
    match entryAt? key rest with
    | some later => some later
    | none =>
      match k with
      | text s => if s = key then some v else none
      | _ => none

end Datum

end SpanWeave
