import Mathlib.Algebra.Group.Nat.Defs
import Mathlib.Data.List.Basic
import SpanWeave.Proofs.Text.Parts
import SpanWeave.Text.Quoted

/-!
# The value of a literal

A literal without a prefix between single or double quotes, as a program reads it: one code point
after another, where a backslash begins an escape. The text that `escaped` writes is such a literal.
Its value is the text in UTF-16 units, and so the text itself exactly if no character lies beyond the
basic plane: a pair of surrogate escapes is read as two code points.
-/

set_option autoImplicit false

namespace SpanWeave.Text

/-! ## Reading a literal -/

/-- The code points that escapes of one letter or sign stand for. -/
def signEscape? : Char → Option Nat
  | '\\' => some 92
  | '\'' => some 39
  | '"' => some 34
  | 'a' => some 7
  | 'b' => some 8
  | 'f' => some 12
  | 'n' => some 10
  | 'r' => some 13
  | 't' => some 9
  | 'v' => some 11
  | _ => none

/-- The value of a hexadecimal digit. -/
def hexValue? (c : Char) : Option Nat :=
  if '0' ≤ c ∧ c ≤ '9' then some (c.toNat - 48)
  else if 'a' ≤ c ∧ c ≤ 'f' then some (c.toNat - 87)
  else if 'A' ≤ c ∧ c ≤ 'F' then some (c.toNat - 55)
  else none

/-- The value of an octal digit. -/
def octalValue? (c : Char) : Option Nat :=
  if '0' ≤ c ∧ c ≤ '7' then some (c.toNat - 48) else none

/-- Where the reader of a literal stands: among plain characters, behind a backslash, behind so many
octal digits of a value, before so many hexadecimal digits that are still to come, before the brace
of a name, among the letters of a name, or behind the last quote. -/
inductive LiteralState where
  | plain
  | escape
  | octal (count value : Nat)
  | hex (left value : Nat)
  | brace
  | name (letters : List Char)
  | closed
deriving DecidableEq, Repr

namespace LiteralState

/-- A character that belongs to no escape. -/
def stepPlain (quote c : Char) : Option (List Nat × LiteralState) :=
  if c = quote then some ([], closed)
  else if c = '\\' then some ([], escape)
  else if c = '\n' || c.toNat = 0 then none
  else some ([c.toNat], plain)

/-- The character behind a backslash. -/
def stepEscape (c : Char) : Option (List Nat × LiteralState) :=
  match signEscape? c, octalValue? c with
  | some n, _ => some ([n], plain)
  | none, some d => some ([], octal 1 d)
  | none, none =>
    if c = '\n' then some ([], plain)
    else if c = 'x' then some ([], hex 2 0)
    else if c = 'u' then some ([], hex 4 0)
    else if c = 'U' then some ([], hex 8 0)
    else if c = 'N' then some ([], brace)
    else if c.toNat = 0 then none
    -- an escape of no meaning stands for itself
    else some ([92, c.toNat], plain)

/-- The code points that one more character yields, and where the reader stands behind it. The names
of characters are given. -/
def step (named : String → Option Nat) (quote : Char) :
    LiteralState → Char → Option (List Nat × LiteralState)
  | plain, c => stepPlain quote c
  | escape, c => stepEscape c
  | octal count value, c =>
    match octalValue? c with
    | some d =>
      if count = 2 then some ([8 * value + d], plain) else some ([], octal (count + 1) (8 * value + d))
    | none => (stepPlain quote c).map fun p => (value :: p.1, p.2)
  | hex left value, c => do
    let d ← hexValue? c
    if left ≠ 1 then some ([], hex (left - 1) (16 * value + d))
    else if 16 * value + d ≤ 0x10FFFF then some ([16 * value + d], plain)
    else none
  | brace, c => if c = '{' then some ([], name []) else none
  | name letters, c =>
    if c = '}' then (named (String.ofList letters.reverse)).map fun n => ([n], plain)
    else if c = quote || c = '\\' || c = '\n' then none
    else some ([], name (c :: letters))
  | closed, _ => none

/-- The code points that characters yield, and where the reader stands behind them. -/
def run (named : String → Option Nat) (quote : Char) :
    LiteralState → List Char → Option (List Nat × LiteralState)
  | s, [] => some ([], s)
  | s, c :: cs => do
    let p ← step named quote s c
    let q ← run named quote p.2 cs
    return (p.1 ++ q.1, q.2)

end LiteralState

/-- The code points of the literal that a text is. Three quotes would begin a literal of another
form. -/
def literalValue? (named : String → Option Nat) (s : String) : Option (List Nat) :=
  match foldLineEnds s.toList with
  | [] => none
  | quote :: cs =>
    if (quote = '"' || quote = '\'') && !List.isPrefixOf [quote, quote] cs then
      match LiteralState.run named quote .plain cs with
      | some (value, .closed) => some value
      | _ => none
    else none

example : literalValue? (fun _ => none) "'a\\x41\\101\\q\\u20ac\\\n'" =
    some [97, 65, 65, 92, 113, 8364] := by
  decide +kernel

/-! ## What is written for a character -/

/-- The UTF-16 units of a character. -/
def utf16Units (c : Char) : List Nat :=
  if c.toNat < 0x10000 then [c.toNat]
  else [0xD800 + (c.toNat - 0x10000) / 0x400, 0xDC00 + (c.toNat - 0x10000) % 0x400]

theorem toNat_lt (c : Char) : c.toNat < 0x110000 := by
  rcases c.valid with h | ⟨-, h⟩
  · exact Nat.lt_trans h (by decide)
  · exact h

theorem utf16Units_lt {c : Char} : ∀ n ∈ utf16Units c, n < 0x10000 := by
  have hmax := toNat_lt c
  unfold utf16Units
  split
  · simpa
  · simp only [List.forall_mem_cons, List.not_mem_nil, false_imp_iff, implies_true, and_true]
    omega

/-- The units of a character are its code point unless it lies beyond the basic plane. -/
theorem utf16Units_append_eq_iff {c : Char} {rest more : List Nat} :
    utf16Units c ++ rest = c.toNat :: more ↔ c.toNat < 0x10000 ∧ rest = more := by
  have hmax := toNat_lt c
  unfold utf16Units
  split
  · simp [*]
  · simp only [List.cons_append, List.cons.injEq]
    omega

/-- A character that stands in ASCII and can be seen. -/
def IsVisible (c : Char) : Prop := 32 ≤ c.toNat ∧ c.toNat < 127

instance (c : Char) : Decidable (IsVisible c) := inferInstanceAs (Decidable (_ ∧ _))

/-- A character is written by a sign, as it is, or in units. -/
theorem escapedChar_cases (c : Char) :
    (∃ sign ∈ ['\\', '"', 'n', 'r', 't', 'b', 'f'], escapedChar c = ['\\', sign] ∧
      signEscape? sign = some c.toNat ∧ c.toNat < 0x10000) ∨
    (escapedChar c = [c] ∧ IsVisible c ∧ c ≠ '"' ∧ c ≠ '\\') ∨
    escapedChar c = (utf16Units c).flatMap escapedUnit := by
  unfold escapedChar
  split_ifs with hself hn hr ht hb hf hvisible hbasic
  · left
    rcases (by simpa using hself : c = '"' ∨ c = '\\') with rfl | rfl
    · exact ⟨'"', by decide, rfl, rfl, by decide⟩
    · exact ⟨'\\', by decide, rfl, rfl, by decide⟩
  · exact Or.inl ⟨'n', by decide, rfl, by rw [hn]; rfl, by rw [hn]; decide⟩
  · exact Or.inl ⟨'r', by decide, rfl, by rw [hr]; rfl, by rw [hr]; decide⟩
  · exact Or.inl ⟨'t', by decide, rfl, by rw [ht]; rfl, by rw [ht]; decide⟩
  · exact Or.inl ⟨'b', by decide, rfl, by rw [hb]; rfl, by omega⟩
  · exact Or.inl ⟨'f', by decide, rfl, by rw [hf]; rfl, by omega⟩
  · simp only [Bool.or_eq_true, decide_eq_true_eq, not_or] at hself
    exact Or.inr (Or.inl ⟨rfl, by simpa [IsVisible] using hvisible, hself⟩)
  · exact Or.inr (Or.inr (by simp [utf16Units, hbasic]))
  · exact Or.inr (Or.inr (by simp [utf16Units, hbasic]))

theorem hexDigit_mod (n : Nat) : hexDigit (n % 16) = hexDigit n := by
  unfold hexDigit
  rw [Nat.mod_mod]

theorem hexValue?_hexDigit (n : Nat) : hexValue? (hexDigit n) = some (n % 16) := by
  have hdigits : ∀ d < 16, hexValue? (hexDigit d) = some d := by decide
  rw [← hexDigit_mod]
  exact hdigits _ (Nat.mod_lt _ (by decide))

theorem isVisible_escapedUnit (n : Nat) : ∀ c ∈ escapedUnit n, IsVisible c := by
  have hdigit : ∀ n, IsVisible (hexDigit n) := by
    have hdigits : ∀ d < 16, IsVisible (hexDigit d) := by decide
    intro n
    rw [← hexDigit_mod]
    exact hdigits _ (Nat.mod_lt _ (by decide))
  have hletters : IsVisible '\\' ∧ IsVisible 'u' := by decide
  simp [escapedUnit, hexDigits, hdigit, hletters]

/-- What is written for a character can be seen, and it does not begin with a quote. -/
theorem escapedChar_visible (c : Char) :
    (∀ d ∈ escapedChar c, IsVisible d) ∧ ∃ first rest, escapedChar c = first :: rest ∧ first ≠ '"' := by
  obtain ⟨sign, hsign, hc, -⟩ | ⟨hc, hvisible, hquote, -⟩ | hc := escapedChar_cases c
  · have hsigns : (['\\', '"', 'n', 'r', 't', 'b', 'f'].all fun d => decide (IsVisible d)) = true := by
      decide
    have hvisible : IsVisible sign := of_decide_eq_true (List.all_eq_true.mp hsigns sign hsign)
    rw [hc]
    refine ⟨?_, _, _, rfl, by decide⟩
    simpa using ⟨by decide, hvisible⟩
  · rw [hc]
    exact ⟨by simpa using hvisible, _, _, rfl, hquote⟩
  · rw [hc]
    refine ⟨?_, ?_⟩
    · intro d hd
      obtain ⟨n, -, hd⟩ := List.mem_flatMap.mp hd
      exact isVisible_escapedUnit n d hd
    · unfold utf16Units
      split <;> exact ⟨_, _, rfl, by decide⟩

/-! ## Reading what is written -/

namespace LiteralState

variable {named : String → Option Nat} {quote : Char}

theorem run_append {s s' s'' : LiteralState} {cs ds : List Char} {ms ns : List Nat}
    (hcs : run named quote s cs = some (ms, s')) (hds : run named quote s' ds = some (ns, s'')) :
    run named quote s (cs ++ ds) = some (ms ++ ns, s'') := by
  induction cs generalizing s ms with
  | nil =>
    cases hcs
    exact hds
  | cons c cs ih =>
    simp only [run, List.cons_append, Option.bind_eq_bind, Option.bind_eq_some_iff] at hcs ⊢
    obtain ⟨p, hp, q, hq, hpure⟩ := hcs
    cases hpure
    exact ⟨p, hp, _, ih hq, by rw [List.append_assoc]; rfl⟩

/-- Parts that are each read from among plain characters to among plain characters. -/
theorem run_flatMap {α : Type} {f : α → List Char} {g : α → List Nat} {xs : List α}
    (h : ∀ x ∈ xs, run named quote plain (f x) = some (g x, plain)) :
    run named quote plain (xs.flatMap f) = some (xs.flatMap g, plain) := by
  induction xs with
  | nil => rfl
  | cons x xs ih =>
    obtain ⟨hx, hxs⟩ := List.forall_mem_cons.mp h
    exact run_append hx (ih hxs)

/-- Digits that are not the last ones to come add to the value. -/
theorem run_hexDigits (width left value n : Nat) :
    run named quote (hex (width + (left + 1)) value) (hexDigits width n) =
      some ([], hex (left + 1) (value * 16 ^ width + n % 16 ^ width)) := by
  induction width generalizing left n with
  | zero => simp [hexDigits, run, Nat.mod_one]
  | succ width ih =>
    have hdigit : run named quote (hex (left + 1 + 1) (value * 16 ^ width + n / 16 % 16 ^ width))
        [hexDigit n] = some ([], hex (left + 1)
          (16 * (value * 16 ^ width + n / 16 % 16 ^ width) + n % 16)) := by
      simp [run, step, hexValue?_hexDigit]
    have hvalue : 16 * (value * 16 ^ width + n / 16 % 16 ^ width) + n % 16 =
        value * 16 ^ (width + 1) + n % 16 ^ (width + 1) := by
      rw [Nat.pow_succ', Nat.mod_mul, Nat.mul_add, Nat.mul_left_comm]
      omega
    rw [hexDigits, ← hvalue, Nat.add_right_comm, Nat.add_assoc width]
    exact run_append (ih (left + 1) (n / 16)) hdigit

theorem run_escapedUnit {n : Nat} (h : n < 0x10000) :
    run named '"' plain (escapedUnit n) = some ([n], plain) := by
  have hfront : run named '"' plain ['\\', 'u'] = some ([], hex 4 0) := rfl
  have hlast : run named '"' (hex 1 (n / 16)) [hexDigit n] = some ([n], plain) := by
    have hvalue : 16 * (n / 16) + n % 16 = n := by omega
    have hbound : n ≤ 0x10FFFF := by omega
    simp [run, step, hexValue?_hexDigit, hvalue, hbound]
  have hdigits : run named '"' (hex 4 0) (hexDigits 3 (n / 16)) = some ([], hex 1 (n / 16)) := by
    have hmod : n / 16 % 16 ^ 3 = n / 16 := Nat.mod_eq_of_lt (by omega)
    rw [run_hexDigits 3 0 0, hmod]
    simp
  exact run_append hfront (run_append hdigits hlast)

/-- What is written for a character is read as its units. -/
theorem run_escapedChar (c : Char) :
    run named '"' plain (escapedChar c) = some (utf16Units c, plain) := by
  obtain ⟨sign, -, hc, hsign, hbasic⟩ | ⟨hc, hvisible, hquote, hescape⟩ | hc := escapedChar_cases c
  · rw [hc, utf16Units, if_pos hbasic]
    simp [run, step, stepPlain, stepEscape, hsign]
  · have hplain : ¬ (c = '\n' || c.toNat = 0) = true := by
      rintro h
      rcases (by simpa using h : c = '\n' ∨ c.toNat = 0) with rfl | h
      · exact absurd hvisible (by decide)
      · exact absurd hvisible.1 (by omega)
    have hbasic : c.toNat < 0x10000 := Nat.lt_trans hvisible.2 (by decide)
    rw [hc, utf16Units, if_pos hbasic]
    simp [run, step, stepPlain, hquote, hescape, hplain]
  · have hunits : ∀ n ∈ utf16Units c, run named '"' plain (escapedUnit n) = some ([n], plain) :=
      fun n hn => run_escapedUnit (utf16Units_lt n hn)
    rw [hc, run_flatMap hunits]
    simp

end LiteralState

/-- Everything that is written can be seen. -/
theorem escaped_visible (s : String) : ∀ c ∈ (escaped s).toList, IsVisible c := by
  have hquote : IsVisible '"' := by decide
  unfold escaped
  rw [String.toList_ofList]
  simp only [List.mem_cons, List.mem_append, List.mem_flatMap, List.not_mem_nil, or_false]
  rintro c ((rfl | ⟨d, -, hc⟩) | rfl)
  · exact hquote
  · exact (escapedChar_visible d).1 c hc
  · exact hquote

/-- The text that is written is a literal whose value is the text in UTF-16 units. -/
theorem literalValue?_escaped (named : String → Option Nat) (s : String) :
    literalValue? named (escaped s) = some (s.toList.flatMap utf16Units) := by
  have hfold : foldLineEnds (escaped s).toList = '"' :: (s.toList.flatMap escapedChar ++ ['"']) := by
    rw [foldLineEnds_eq_self]
    · unfold escaped
      rw [String.toList_ofList, List.cons_append]
    · exact fun h => absurd (escaped_visible s _ h) (by decide)
  have hform : ['"', '"'].isPrefixOf (s.toList.flatMap escapedChar ++ ['"']) = false := by
    cases s.toList with
    | nil => rfl
    | cons c cs =>
      obtain ⟨first, rest, hc, hfirst⟩ := (escapedChar_visible c).2
      rw [List.flatMap_cons, hc]
      simp [List.isPrefixOf, Ne.symm hfirst]
  have hread : LiteralState.run named '"' .plain (s.toList.flatMap escapedChar ++ ['"']) =
      some (s.toList.flatMap utf16Units ++ [], .closed) :=
    LiteralState.run_append (LiteralState.run_flatMap fun c _ => LiteralState.run_escapedChar c) rfl
  unfold literalValue?
  rw [hfold]
  simp [hform, hread]

/-- The units of a text are its code points exactly if all its characters are in the basic plane. -/
theorem flatMap_utf16Units_eq_iff {cs : List Char} :
    cs.flatMap utf16Units = cs.map Char.toNat ↔ ∀ c ∈ cs, c.toNat < 0x10000 := by
  induction cs with
  | nil => simp
  | cons c cs ih =>
    rw [List.flatMap_cons, List.map_cons, utf16Units_append_eq_iff, ih, List.forall_mem_cons]

end SpanWeave.Text
