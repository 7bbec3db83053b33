import SpanWeave.Tracing.Tag

/-!
# Objects and their classes

What a program asks to record are objects, and it declares classes of its own, on top of the
built-in ones or apart from them. Recording looks at little: at the class of an object, at the
objects that count as instances of a class, at the items of a list, and at the text that shows an
object. Free data are the objects of the built-in classes.
-/

set_option autoImplicit false

namespace SpanWeave

/-- The built-in classes of values that a tag can hold by itself. -/
inductive ScalarClass where
  | text
  | bool
  | int
  | float
deriving DecidableEq, Repr

/-- The objects of a program, as far as recording looks at them. -/
structure ObjectSpace (Object Class Failure : Type) where
  /-- The class that an object is made from. -/
  classOf : Object → Class
  /-- Whether an object is an instance of a class, its own one or one that this is built on. -/
  isInstance : Object → Class → Bool
  builtin : ScalarClass → Class
  /-- The items of an instance of a list or tuple class, in order. -/
  items? : Object → Option (List Object)
  /-- The text that shows an object. An object of a declared class shows itself, which may fail. -/
  shown : Object → Except Failure Object
  isInstance_classOf (o : Object) : isInstance o (classOf o) = true
  /-- The class of truth values is built on that of whole numbers. Otherwise none of the four is
  built on another one. -/
  isInstance_builtin {o : Object} {own : ScalarClass} (h : classOf o = builtin own)
    (c : ScalarClass) : isInstance o (builtin c) = true ↔ c = own ∨ own = .bool ∧ c = .int
  isInstance_shown {o s : Object} (h : shown o = .ok s) : isInstance s (builtin .text) = true

/-- What a tag is given to hold. -/
inductive Recorded (Object : Type) where
  | single (o : Object)
  | list (items : List Object)
deriving Repr

namespace ObjectSpace

variable {Object Class Failure : Type} (W : ObjectSpace Object Class Failure)

/-- Whether an object is an instance of one of the four classes of scalars. -/
def isScalar (o : Object) : Bool :=
  [ScalarClass.text, .bool, .int, .float].any fun c => W.isInstance o (W.builtin c)

/-- Whether items are recorded one by one: there is a first one, and all are scalars and instances
of the class of the first one. -/
def keepsItems : List Object → Bool
  | [] => false
  | first :: rest =>
    (first :: rest).all fun item => W.isInstance item (W.classOf first) && W.isScalar item

/-- What the tag of an object is given; if it is the text of the object, showing it may fail. -/
def record (o : Object) : Except Failure (Recorded Object) :=
  if W.isScalar o then .ok (.single o)
  else
    match (W.items? o).filter W.keepsItems with
    | some items => .ok (.list items)
    | none => (W.shown o).map .single

/-- The same objects where failures are told in another way. -/
def withFailures {Other : Type} (tell : Failure → Other) : ObjectSpace Object Class Other :=
  { W with
    shown := fun o => (W.shown o).mapError tell
    isInstance_shown := by
      intro o s h
      cases hshown : W.shown o with
      | error e =>
        rw [hshown] at h
        cases h
      | ok s =>
        rw [hshown] at h
        cases h
        exact W.isInstance_shown hshown }

end ObjectSpace

/-! ## Free data as objects -/

/-- The classes of free data. -/
inductive DatumClass where
  | scalar (c : ScalarClass)
  | null
  | bytes
  | moment
  | list
  | tuple
  | dict
  | set
deriving DecidableEq, Repr

namespace Datum

/-- The class of free data. -/
def classOf : Datum → DatumClass
  | null => .null
  | bool _ => .scalar .bool
  | int _ => .scalar .int
  | float _ => .scalar .float
  | text _ => .scalar .text
  | bytes _ => .bytes
  | moment _ => .moment
  | list _ => .list
  | tuple _ => .tuple
  | dict _ => .dict
  | set _ => .set

/-- The items of a list or tuple. -/
def items? : Datum → Option (List Datum)
  | list items | tuple items => some items
  | _ => none

/-- Free data as the objects of a program that declares no class. -/
def objects : ObjectSpace Datum DatumClass Empty where
  classOf := classOf
  isInstance d c := d.classOf = c || (d.classOf = .scalar .bool && c = .scalar .int)
  builtin := .scalar
  items? := items?
  shown d := .ok (.text d.display)
  isInstance_classOf d := by simp
  isInstance_builtin h c := by
    simp only [h, Bool.or_eq_true, Bool.and_eq_true, decide_eq_true_eq, DatumClass.scalar.injEq]
    exact or_congr_left eq_comm
  isInstance_shown h := by
    cases h
    rfl

end Datum

/-- A value of a tag as free data. -/
def TagScalar.datum : TagScalar → Datum
  | text s => .text s
  | bool b => .bool b
  | int n => .int n
  | float x => .float x

/-- What a tag holds, as it was given to it. -/
def TagValue.recorded : TagValue → Recorded Datum
  | scalar x => .single x.datum
  | list xs => .list (xs.map TagScalar.datum)

end SpanWeave
