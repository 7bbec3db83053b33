import Mathlib.Data.Set.List
import Mathlib.Tactic.ByContra
import SpanWeave.Tracing.ObjectSpace

/-!
# What tags can store

A tag can store a scalar, and items that are all made from one of the four classes of scalars. Of
everything else the text is to be recorded (`CallsFor`). Recording looks at items less closely: they
are scalars, and instances of the class of the first one. So items are recorded one by one as well
if they only pass for items of one class (`Disguises`), and nothing else goes wrong. As long as a
program declares no class on top of the four, such items begin with a whole number, and truth values
stand among the whole numbers behind it.
-/

set_option autoImplicit false

namespace SpanWeave

namespace ObjectSpace

variable {Object Class Failure : Type} (W : ObjectSpace Object Class Failure)

/-! ## What is to be recorded -/

/-- Whether an object is an instance of one of the four classes. -/
def IsScalar (o : Object) : Prop := ∃ c, W.isInstance o (W.builtin c) = true

/-- Whether there are items, all made from one and the same of the four classes. -/
def OfOneClass (items : List Object) : Prop :=
  items ≠ [] ∧ ∃ c, ∀ item ∈ items, W.classOf item = W.builtin c

/-- Whether a tag can store what it is given. -/
def Storable : Recorded Object → Prop
  | .single o => W.IsScalar o
  | .list items => W.OfOneClass items

/-- What is to be recorded of an object: a scalar itself, the items of a list if they are of one
class, and the text of everything else. -/
inductive CallsFor (o : Object) : Except Failure (Recorded Object) → Prop
  | itself (h : W.IsScalar o) : CallsFor o (.ok (.single o))
  | items {items : List Object} (h : ¬ W.IsScalar o) (hitems : W.items? o = some items)
    (hclass : W.OfOneClass items) : CallsFor o (.ok (.list items))
  | text (h : ¬ W.IsScalar o) (hother : ∀ items, W.items? o = some items → ¬ W.OfOneClass items) :
    CallsFor o ((W.shown o).map .single)

/-! ## What is recorded -/

/-- Whether items pass for scalars of one class: they are scalars, and instances of the class of the
first one. -/
def PassForOneClass (items : List Object) : Prop :=
  ∃ first, items.head? = some first ∧
    ∀ item ∈ items, W.IsScalar item ∧ W.isInstance item (W.classOf first) = true

/-- What a tag is given for an object: a scalar itself, the items of a list if they pass for scalars
of one class, and the text of everything else. -/
inductive RecordedAs (o : Object) : Except Failure (Recorded Object) → Prop
  | itself (h : W.IsScalar o) : RecordedAs o (.ok (.single o))
  | items {items : List Object} (h : ¬ W.IsScalar o) (hitems : W.items? o = some items)
    (hpass : W.PassForOneClass items) : RecordedAs o (.ok (.list items))
  | text (h : ¬ W.IsScalar o) (hother : ∀ items, W.items? o = some items → ¬ W.PassForOneClass items) :
    RecordedAs o ((W.shown o).map .single)

/-- Whether an object has items that are not of one class and still pass for it. -/
def Disguises (o : Object) : Prop :=
  ¬ W.IsScalar o ∧ ∃ items, W.items? o = some items ∧ W.PassForOneClass items ∧
    ¬ W.OfOneClass items

variable {W} {o : Object} {items : List Object} {r : Recorded Object}

theorem isScalar_iff : W.isScalar o = true ↔ W.IsScalar o := by
  unfold isScalar
  rw [List.any_eq_true]
  constructor
  · rintro ⟨c, -, h⟩
    exact ⟨c, h⟩
  · rintro ⟨c, h⟩
    exact ⟨c, by cases c <;> decide, h⟩

theorem keepsItems_iff : W.keepsItems items = true ↔ W.PassForOneClass items := by
  unfold PassForOneClass
  cases items with
  | nil => simp [keepsItems]
  | cons first rest =>
    unfold keepsItems
    rw [List.all_eq_true]
    simp only [Bool.and_eq_true, isScalar_iff, List.head?_cons, Option.some.injEq, exists_eq_left']
    exact forall₂_congr fun item _ => and_comm

/-- An object that is made from one of the four classes is a scalar. -/
theorem isScalar_of_classOf {c : ScalarClass} (h : W.classOf o = W.builtin c) : W.IsScalar o :=
  ⟨c, (W.isInstance_builtin h c).mpr (Or.inl rfl)⟩

theorem OfOneClass.passes (h : W.OfOneClass items) : W.PassForOneClass items := by
  obtain ⟨hne, c, hclass⟩ := h
  obtain ⟨first, rest, rfl⟩ := List.exists_cons_of_ne_nil hne
  refine ⟨first, rfl, ?_⟩
  intro item hitem
  refine ⟨isScalar_of_classOf (hclass item hitem), ?_⟩
  rw [hclass first List.mem_cons_self, ← hclass item hitem]
  exact W.isInstance_classOf item

theorem record_of_isScalar (h : W.IsScalar o) : W.record o = .ok (.single o) := by
  unfold record
  rw [if_pos (isScalar_iff.mpr h)]

theorem record_of_passes (h : ¬ W.IsScalar o) (hitems : W.items? o = some items)
    (hpass : W.PassForOneClass items) : W.record o = .ok (.list items) := by
  unfold record
  rw [if_neg (mt isScalar_iff.mp h), hitems, Option.filter_some, if_pos (keepsItems_iff.mpr hpass)]

theorem record_of_not_passes (h : ¬ W.IsScalar o)
    (hpass : ∀ items, W.items? o = some items → ¬ W.PassForOneClass items) :
    W.record o = (W.shown o).map .single := by
  unfold record
  rw [if_neg (mt isScalar_iff.mp h)]
  cases hitems : W.items? o with
  | none => rfl
  | some items =>
    rw [Option.filter_some, if_neg (mt keepsItems_iff.mp (hpass items hitems))]

theorem recordedAs_record (o : Object) : W.RecordedAs o (W.record o) := by
  by_cases hscalar : W.IsScalar o
  · rw [record_of_isScalar hscalar]
    exact .itself hscalar
  · by_cases hpass : ∃ items, W.items? o = some items ∧ W.PassForOneClass items
    · obtain ⟨items, hitems, hpass⟩ := hpass
      rw [record_of_passes hscalar hitems hpass]
      exact .items hscalar hitems hpass
    · have hother : ∀ items, W.items? o = some items → ¬ W.PassForOneClass items :=
        fun items hitems hitem => hpass ⟨items, hitems, hitem⟩
      rw [record_of_not_passes hscalar hother]
      exact .text hscalar hother

/-- What is called for can be stored. -/
theorem CallsFor.storable (h : W.CallsFor o (.ok r)) : W.Storable r := by
  generalize ha : (Except.ok r : Except Failure (Recorded Object)) = a at h
  cases h with
  | itself hscalar =>
    cases ha
    exact hscalar
  | items _ _ hclass =>
    cases ha
    exact hclass
  | text _ _ =>
    cases hshown : W.shown o with
    | error e =>
      rw [hshown] at ha
      cases ha
    | ok s =>
      rw [hshown] at ha
      cases ha
      exact ⟨.text, W.isInstance_shown hshown⟩

theorem exists_record_of_disguises (h : W.Disguises o) :
    ∃ items, W.record o = .ok (.list items) ∧ ¬ W.OfOneClass items := by
  obtain ⟨hscalar, items, hitems, hpass, hclass⟩ := h
  exact ⟨items, record_of_passes hscalar hitems hpass, hclass⟩

theorem callsFor_record (h : ¬ W.Disguises o) : W.CallsFor o (W.record o) := by
  have hrecorded := W.recordedAs_record o
  generalize W.record o = recorded at hrecorded ⊢
  cases hrecorded with
  | itself hscalar => exact .itself hscalar
  | items hscalar hitems hpass =>
    apply CallsFor.items hscalar hitems
    by_contra hclass
    exact h ⟨hscalar, _, hitems, hpass, hclass⟩
  | text hscalar hother =>
    exact .text hscalar fun items hitems hclass => hother items hitems hclass.passes

theorem storable_iff_of_record (h : W.record o = .ok r) : W.Storable r ↔ ¬ W.Disguises o := by
  constructor
  · intro hstorable hdisguised
    obtain ⟨items, hitems, hclass⟩ := exists_record_of_disguises hdisguised
    cases h.symm.trans hitems
    exact hclass hstorable
  · intro hnone
    have hcalled := callsFor_record hnone
    rw [h] at hcalled
    exact hcalled.storable

theorem callsFor_record_iff : W.CallsFor o (W.record o) ↔ ¬ W.Disguises o := by
  refine ⟨?_, callsFor_record⟩
  intro hcalled hdisguised
  obtain ⟨items, hitems, hclass⟩ := exists_record_of_disguises hdisguised
  rw [hitems] at hcalled
  exact hclass hcalled.storable

/-! ## Items of built-in classes -/

/-- Items whose scalars are all made from the four classes themselves only pass for items of one
class if they begin with a whole number and hold truth values beside whole numbers behind it. -/
theorem onlyPasses_iff_of_builtin (first : Object) (rest : List Object)
    (h : ∀ item ∈ first :: rest, W.IsScalar item → ∃ c, W.classOf item = W.builtin c) :
    (W.PassForOneClass (first :: rest) ∧ ¬ W.OfOneClass (first :: rest)) ↔
      W.classOf first = W.builtin .int ∧
      (∀ item ∈ rest, W.classOf item = W.builtin .int ∨ W.classOf item = W.builtin .bool) ∧
      ∃ item ∈ rest, W.classOf item = W.builtin .bool := by
  constructor
  · rintro ⟨⟨_, hfirst, hpass⟩, hclass⟩
    cases hfirst
    obtain ⟨own, hown⟩ := h first List.mem_cons_self (hpass first List.mem_cons_self).1
    -- an item is of the class of the first one, or a truth value behind a whole number
    have hitem : ∀ item ∈ first :: rest,
        W.classOf item = W.builtin own ∨ own = .int ∧ W.classOf item = W.builtin .bool := by
      intro item hitem
      obtain ⟨hscalar, hinstance⟩ := hpass item hitem
      obtain ⟨c, hc⟩ := h item hitem hscalar
      rw [hown, W.isInstance_builtin hc] at hinstance
      rcases hinstance with rfl | ⟨rfl, rfl⟩
      · exact Or.inl hc
      · exact Or.inr ⟨rfl, hc⟩
    have hother : ∃ item ∈ first :: rest, W.classOf item ≠ W.builtin own := by
      by_contra hnone
      refine hclass ⟨List.cons_ne_nil _ _, own, ?_⟩
      intro item hitem
      by_contra hother
      exact hnone ⟨item, hitem, hother⟩
    obtain ⟨other, hmem, hother⟩ := hother
    obtain ⟨rfl, hbool⟩ := (hitem other hmem).resolve_left hother
    refine ⟨hown, ?_, other, ?_, hbool⟩
    · intro item hmem
      exact (hitem item (List.mem_cons_of_mem _ hmem)).imp_right And.right
    · rcases List.mem_cons.mp hmem with rfl | hmem
      · exact absurd hown hother
      · exact hmem
  · rintro ⟨hint, hrest, truth, hmem, hbool⟩
    have hitem : ∀ item ∈ first :: rest,
        W.classOf item = W.builtin .int ∨ W.classOf item = W.builtin .bool :=
      List.forall_mem_cons.mpr ⟨Or.inl hint, hrest⟩
    refine ⟨⟨first, rfl, ?_⟩, ?_⟩
    · intro item hmem
      rw [hint]
      rcases hitem item hmem with hc | hc
      · exact ⟨isScalar_of_classOf hc, (W.isInstance_builtin hc .int).mpr (Or.inl rfl)⟩
      · exact ⟨isScalar_of_classOf hc, (W.isInstance_builtin hc .int).mpr (Or.inr ⟨rfl, rfl⟩)⟩
    · rintro ⟨-, c, hclass⟩
      have hsame : W.classOf truth = W.builtin .int := by
        rw [hclass truth (List.mem_cons_of_mem _ hmem), ← hclass first List.mem_cons_self, hint]
      have htruth : W.isInstance truth (W.builtin .bool) = true :=
        (W.isInstance_builtin hbool .bool).mpr (Or.inl rfl)
      rw [W.isInstance_builtin hsame] at htruth
      rcases htruth with hc | ⟨hc, -⟩ <;> cases hc

end ObjectSpace

/-! ## Free data -/

namespace TagScalar

theorem ofDatum?_eq_some_iff {d : Datum} {x : TagScalar} : ofDatum? d = some x ↔ d = x.datum := by
  constructor
  · intro h
    cases d <;> cases h <;> rfl
  · rintro rfl
    cases x <;> rfl

theorem mapM_ofDatum?_eq_some_iff {items : List Datum} {xs : List TagScalar} :
    items.mapM ofDatum? = some xs ↔ items = xs.map datum := by
  induction items generalizing xs with
  | nil => cases xs <;> simp
  | cons d items ih =>
    rw [List.mapM_cons]
    simp only [Option.bind_eq_bind, Option.bind_eq_some_iff, ofDatum?_eq_some_iff, ih,
      Option.pure_def, Option.some.injEq]
    constructor
    · rintro ⟨x, rfl, rest, rfl, rfl⟩
      rfl
    · intro h
      cases xs with
      | nil => cases h
      | cons x xs =>
        obtain ⟨rfl, rfl⟩ := List.cons.inj h
        exact ⟨x, rfl, xs, rfl, rfl⟩

/-- Whether a scalar may follow another one is whether it is an instance of the class of that. -/
theorem isInstance_datum (first item : TagScalar) :
    Datum.objects.isInstance item.datum (Datum.objects.classOf first.datum) =
      first.mayFollow item := by
  cases first <;> cases item <;> rfl

theorem isScalar_datum (x : TagScalar) : Datum.objects.IsScalar x.datum := by
  cases x with
  | text s => exact ⟨.text, rfl⟩
  | bool b => exact ⟨.bool, rfl⟩
  | int n => exact ⟨.int, rfl⟩
  | float x => exact ⟨.float, rfl⟩

end TagScalar

namespace Datum

theorem isScalar_iff_exists {d : Datum} : objects.IsScalar d ↔ ∃ x : TagScalar, d = x.datum := by
  constructor
  · rintro ⟨c, h⟩
    cases d with
    | text s => exact ⟨.text s, rfl⟩
    | bool b => exact ⟨.bool b, rfl⟩
    | int n => exact ⟨.int n, rfl⟩
    | float x => exact ⟨.float x, rfl⟩
    | _ => cases c <;> cases h
  · rintro ⟨x, rfl⟩
    exact x.isScalar_datum

/-- Scalars are kept as items if those behind the first one may follow it. -/
theorem keepsItems_map_datum (first : TagScalar) (rest : List TagScalar) :
    objects.keepsItems ((first :: rest).map TagScalar.datum) = rest.all first.mayFollow := by
  have hfirst : first.mayFollow first = true := by cases first <;> rfl
  have hitem : ∀ x : TagScalar, (objects.isInstance x.datum (objects.classOf first.datum) &&
      objects.isScalar x.datum) = first.mayFollow x := by
    intro x
    rw [ObjectSpace.isScalar_iff.mpr x.isScalar_datum, Bool.and_true, TagScalar.isInstance_datum]
  calc objects.keepsItems ((first :: rest).map TagScalar.datum)
      = ((first :: rest).map TagScalar.datum).all fun item =>
          objects.isInstance item (objects.classOf first.datum) && objects.isScalar item := rfl
    _ = (first :: rest).all first.mayFollow := by
      rw [List.all_map]
      exact congrArg (List.all _) (funext hitem)
    _ = rest.all first.mayFollow := by rw [List.all_cons, hfirst, Bool.true_and]

theorem recorded_of_ofItems? {items : List Datum} {v : TagValue}
    (h : TagValue.ofItems? items = some v) :
    objects.keepsItems items = true ∧ v.recorded = .list items := by
  unfold TagValue.ofItems? at h
  split at h
  · rename_i first rest hscalars
    split at h
    · rename_i hfollow
      cases h
      rw [TagScalar.mapM_ofDatum?_eq_some_iff.mp hscalars]
      exact ⟨(keepsItems_map_datum first rest).trans hfollow, rfl⟩
    · cases h
  · cases h

theorem exists_ofItems?_of_keepsItems {items : List Datum} (h : objects.keepsItems items = true) :
    ∃ v, TagValue.ofItems? items = some v := by
  have hpass := ObjectSpace.keepsItems_iff.mp h
  have hscalars : items ∈ Set.range (List.map TagScalar.datum) := by
    rw [Set.range_list_map]
    intro item hitem
    obtain ⟨first, -, hall⟩ := hpass
    obtain ⟨x, rfl⟩ := isScalar_iff_exists.mp (hall item hitem).1
    exact ⟨x, rfl⟩
  obtain ⟨xs, rfl⟩ := hscalars
  cases xs with
  | nil => cases h
  | cons first rest =>
    rw [keepsItems_map_datum] at h
    refine ⟨.list (first :: rest), ?_⟩
    unfold TagValue.ofItems?
    rw [TagScalar.mapM_ofDatum?_eq_some_iff.mpr rfl]
    exact if_pos h

theorem ofDatum_of_not_scalar {d : Datum} (h : TagScalar.ofDatum? d = none) :
    TagValue.ofDatum d = (d.items?.bind TagValue.ofItems?).getD (.scalar (.text d.display)) := by
  unfold TagValue.ofDatum
  rw [h]
  cases d <;> rfl

/-- The value of a tag is what is recorded of free data as objects. -/
theorem record_objects (d : Datum) : objects.record d = .ok (TagValue.ofDatum d).recorded := by
  cases hx : TagScalar.ofDatum? d with
  | some x =>
    have hd := TagScalar.ofDatum?_eq_some_iff.mp hx
    rw [ObjectSpace.record_of_isScalar (isScalar_iff_exists.mpr ⟨x, hd⟩)]
    unfold TagValue.ofDatum
    rw [hx, hd]
    rfl
  | none =>
    have hscalar : ¬ objects.IsScalar d := by
      rw [isScalar_iff_exists]
      rintro ⟨x, hd⟩
      rw [TagScalar.ofDatum?_eq_some_iff.mpr hd] at hx
      cases hx
    have hitems : objects.items? d = d.items? := rfl
    unfold ObjectSpace.record
    rw [if_neg (mt ObjectSpace.isScalar_iff.mp hscalar), ofDatum_of_not_scalar hx, hitems]
    cases d.items? with
    | none => rfl
    | some items =>
      rw [Option.filter_some, Option.bind_some]
      cases hv : TagValue.ofItems? items with
      | some v =>
        obtain ⟨hkeeps, hrecorded⟩ := recorded_of_ofItems? hv
        rw [if_pos hkeeps, Option.getD_some, hrecorded]
      | none =>
        have hkeeps : ¬ objects.keepsItems items = true := by
          intro hkeeps
          obtain ⟨v, hsome⟩ := exists_ofItems?_of_keepsItems hkeeps
          rw [hv] at hsome
          cases hsome
        rw [if_neg hkeeps]
        rfl

theorem classOf_int_iff {d : Datum} : d.classOf = .scalar .int ↔ ∃ n, d = .int n := by
  cases d <;> simp [classOf]

theorem classOf_bool_iff {d : Datum} : d.classOf = .scalar .bool ↔ ∃ b, d = .bool b := by
  cases d <;> simp [classOf]

/-- The free data that only pass for items of one class begin with a whole number. -/
theorem disguises_objects_iff {d : Datum} : objects.Disguises d ↔
    ∃ n rest, d.items? = some (.int n :: rest) ∧
      (∀ x ∈ rest, (∃ m, x = .int m) ∨ ∃ b, x = .bool b) ∧ ∃ b, .bool b ∈ rest := by
  have hbuiltin : ∀ x : Datum, objects.IsScalar x → ∃ c, objects.classOf x = objects.builtin c := by
    intro x hx
    obtain ⟨x, rfl⟩ := isScalar_iff_exists.mp hx
    cases x <;> exact ⟨_, rfl⟩
  have hpass := fun first rest => ObjectSpace.onlyPasses_iff_of_builtin (W := objects) first rest
    fun x _ => hbuiltin x
  constructor
  · rintro ⟨-, items, hitems, ⟨first, hfirst, hall⟩, hclass⟩
    obtain ⟨rest, rfl⟩ := List.head?_eq_some_iff.mp hfirst
    obtain ⟨hint, hrest, x, hx, hbool⟩ := (hpass first rest).mp ⟨⟨first, hfirst, hall⟩, hclass⟩
    obtain ⟨n, rfl⟩ := classOf_int_iff.mp hint
    obtain ⟨b, rfl⟩ := classOf_bool_iff.mp hbool
    refine ⟨n, rest, hitems, ?_, b, hx⟩
    intro y hy
    exact (hrest y hy).imp classOf_int_iff.mp classOf_bool_iff.mp
  · rintro ⟨n, rest, hitems, hrest, b, hb⟩
    have hscalar : ¬ objects.IsScalar d := by
      rw [isScalar_iff_exists]
      rintro ⟨x, rfl⟩
      cases x <;> cases hitems
    refine ⟨hscalar, _, hitems, (hpass (.int n) rest).mpr ⟨rfl, ?_, .bool b, hb, rfl⟩⟩
    intro y hy
    exact (hrest y hy).imp classOf_int_iff.mpr classOf_bool_iff.mpr

end Datum

/-! ## Main statement -/

/-- What is recorded of an object is what is to be recorded, and a tag can store it, unless the
object has items that are not of one class and only pass for it. The value of a tag is recorded from
free data in this way, and free data only pass for items of one class if they begin with a whole
number and hold truth values, and otherwise whole numbers, behind it. -/
theorem ObjectSpace.record_stores_iff {Object Class Failure : Type}
    (W : ObjectSpace Object Class Failure) (o : Object) (d : Datum) :
    (W.CallsFor o (W.record o) ↔ ¬ W.Disguises o) ∧
    (∀ r, W.record o = .ok r → (W.Storable r ↔ ¬ W.Disguises o)) ∧
    Datum.objects.record d = .ok (TagValue.ofDatum d).recorded ∧
    (Datum.objects.Disguises d ↔
      ∃ n rest, d.items? = some (.int n :: rest) ∧
        (∀ x ∈ rest, (∃ m, x = .int m) ∨ ∃ b, x = .bool b) ∧ ∃ b, .bool b ∈ rest) := by
  refine ⟨callsFor_record_iff, ?_, d.record_objects, Datum.disguises_objects_iff⟩
  intro r hr
  exact storable_iff_of_record hr

theorem ObjectSpace.record_stores_iff_flags :
    Datum.objects.record (.tuple [.bool true, .bool false]) =
      .ok (.list [.bool true, .bool false]) ∧
    Datum.objects.Storable (.list [.bool true, .bool false]) := by
  obtain ⟨-, hstores, -, hdisguised⟩ := record_stores_iff Datum.objects
    (.tuple [.bool true, .bool false]) (.tuple [.bool true, .bool false])
  have hrecord : Datum.objects.record (.tuple [.bool true, .bool false]) =
      .ok (.list [.bool true, .bool false]) := rfl
  refine ⟨hrecord, (hstores _ hrecord).mpr ?_⟩
  rw [hdisguised]
  rintro ⟨n, rest, hitems, -⟩
  cases hitems

/-- A truth value behind a whole number is stored beside it, though the items are of two classes and
their text is to be recorded. In the other order it is. -/
theorem TagValue.ofDatum_stores_mixture :
    ofDatum (.list [.int 1, .bool true]) = .list [.int 1, .bool true] ∧
    ofDatum (.list [.bool true, .int 1]) = .scalar (.text "[True, 1]") ∧
    ¬ Datum.objects.Storable (ofDatum (.list [.int 1, .bool true])).recorded ∧
    Datum.objects.CallsFor (.list [.int 1, .bool true])
      (.ok (.single (.text "[1, True]"))) := by
  have hvalue : ofDatum (.list [.int 1, .bool true]) = .list [.int 1, .bool true] := rfl
  have htwo : ¬ Datum.objects.OfOneClass [.int 1, .bool true] := by
    rintro ⟨-, c, hclass⟩
    have hint := hclass (.int 1) (by simp)
    have hbool := hclass (.bool true) (by simp)
    cases hint.trans hbool.symm
  refine ⟨hvalue, by decide, ?_, ?_⟩
  · rw [hvalue]
    exact htwo
  · refine .text ?_ ?_
    · rintro ⟨c, h⟩
      cases c <;> cases h
    · intro items hitems
      cases hitems
      exact htwo

end SpanWeave
