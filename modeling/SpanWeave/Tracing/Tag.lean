import SpanWeave.Datum

/-!
# Tag values

A tag of a span holds a text, a truth value, a number, or a list of such values. Whatever else is to
be recorded is recorded as the text that shows it.
-/

set_option autoImplicit false

namespace SpanWeave

/-- A value that a tag can hold by itself. -/
inductive TagScalar where
  | text (s : String)
  | bool (b : Bool)
  | int (n : Int)
  | float (x : Binary64)
deriving DecidableEq, Repr

namespace TagScalar

/-- The value of free data that a tag can hold by itself. -/
def ofDatum? : Datum → Option TagScalar
  | .text s => some (text s)
  | .bool b => some (bool b)
  | .int n => some (int n)
  | .float x => some (float x)
  | _ => none

/-- Whether a value may stand in a list that begins with another one: both are of one kind, and a
truth value also counts as a whole number. -/
def mayFollow (first item : TagScalar) : Bool :=
  match first, item with
  | text _, text _ => true
  | bool _, bool _ => true
  | int _, int _ | int _, bool _ => true
  | float _, float _ => true
  | _, _ => false

end TagScalar

/-- The value of a tag. -/
inductive TagValue where
  | scalar (x : TagScalar)
  | list (xs : List TagScalar)
deriving DecidableEq, Repr

namespace TagValue

/-- The items of a list that a tag can hold: there is one, and all may follow the first one. -/
def ofItems? (items : List Datum) : Option TagValue :=
  match items.mapM TagScalar.ofDatum? with
  | some (first :: rest) =>
    if rest.all first.mayFollow then some (list (first :: rest)) else none
  | _ => none

/-- The value of a tag that is to record free data. -/
def ofDatum (d : Datum) : TagValue :=
  match TagScalar.ofDatum? d with
  | some x => scalar x
  | none =>
    let value? :=
      match d with
      | .list items | .tuple items => ofItems? items
      | _ => none
    value?.getD (scalar (.text d.display))

end TagValue

end SpanWeave
