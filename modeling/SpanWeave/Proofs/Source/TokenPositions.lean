import SpanWeave.Source.Token

/-!
# Where tokens stand

Tokens stand one behind the other: each takes at least one unit of the text, so it starts strictly
before the next one. Two tokens never start at the same line and column, and what the tokens call a
name is an identifier.
-/

set_option autoImplicit false

namespace SpanWeave.Source

/-- Reading order of places. -/
def Position.Before (p q : Position) : Prop :=
  p.line < q.line ∨ p.line = q.line ∧ p.column < q.column

namespace Position

variable {p q r : Position}

theorem Before.trans (hpq : p.Before q) (hqr : q.Before r) : p.Before r := by
  unfold Before at *
  omega

theorem Before.ne (h : p.Before q) : p ≠ q := by
  rintro rfl
  unfold Before at h
  omega

/-- Every unit takes room. -/
theorem before_after (p : Position) (g : Text.Glyph) : p.Before (p.after g) := by
  have hwidth : 0 < g.width := by
    cases g with
    | char c => exact Char.utf8Size_pos c
    | stray b => exact Nat.one_pos
  unfold after Before
  split
  · left
    exact Nat.lt_succ_self p.line
  · right
    refine ⟨rfl, ?_⟩
    show p.column < p.column + g.width
    omega

/-- A run of units ends where it begins or later. -/
theorem foldl_after (gs : List Text.Glyph) (p : Position) :
    gs.foldl after p = p ∨ p.Before (gs.foldl after p) := by
  induction gs generalizing p with
  | nil => exact Or.inl rfl
  | cons g gs ih =>
    right
    rw [List.foldl_cons]
    rcases ih (p.after g) with hsame | hbefore
    · rw [hsame]
      exact before_after p g
    · exact (before_after p g).trans hbefore

/-- A run of at least one unit ends later than it begins. -/
theorem before_foldl_after {gs : List Text.Glyph} (h : gs ≠ []) (p : Position) :
    p.Before (gs.foldl after p) := by
  obtain ⟨g, rest, rfl⟩ := List.exists_cons_of_ne_nil h
  rw [List.foldl_cons]
  rcases foldl_after rest (p.after g) with hsame | hbefore
  · rw [hsame]
    exact before_after p g
  · exact (before_after p g).trans hbefore

end Position

/-! ## Measuring one token -/

/-- A string has at least its opening quote. -/
theorem stringLength_pos {cs : List Char} {n : Nat} (h : stringLength? cs = some n) : 0 < n := by
  unfold stringLength? at h
  dsimp only at h
  split at h
  · split at h
    · simp only [Option.map_eq_some_iff] at h
      obtain ⟨inner, -, hn⟩ := h
      split at hn <;> omega
    · cases h
  · cases h

/-- No operator is empty. -/
theorem marks_nonempty : ∀ m ∈ marks, 0 < m.length := by decide

/-- A token takes at least one character. -/
theorem measure_pos (cs : List Char) : 0 < (measure cs).2 := by
  unfold measure
  split
  · rename_i n hstring
    exact stringLength_pos hstring
  · split
    · exact Nat.one_pos
    · rename_i c rest
      split
      · exact Nat.succ_pos _
      · dsimp only
        split
        · assumption
        · split
          · rename_i m hfind
            exact marks_nonempty m (List.mem_of_find?_eq_some hfind)
          · exact Nat.one_pos

/-- What is measured as a name is an identifier. -/
theorem measure_name {cs : List Char} {s : String} (h : (measure cs).1 = .name s) :
    Text.isIdentifier s = true := by
  unfold measure at h
  split at h
  · cases h
  · split at h
    · cases h
    · split at h
      · rename_i c rest hnone hstart
        simp only [Lexeme.name.injEq] at h
        subst h
        unfold Text.isIdentifier
        rw [String.toList_ofList, Text.isIdentifierChars, hstart, Bool.true_and, List.all_eq_true]
        intro d hd
        exact List.all_eq_true.mp List.all_takeWhile d hd
      · dsimp only at h
        split at h
        · cases h
        · split at h <;> cases h

/-! ## Reading tokens -/

/-- Tokens that are read from a place on start there or later, one strictly after the other, and
their names are identifiers. -/
theorem readTokens_ordered (rounds : Nat) (lead : List Layout) (depth : Nat) (here : Position)
    (gs : List Text.Glyph) (cs : List Char) :
    (∀ t ∈ readTokens rounds lead depth here gs cs, t.start = here ∨ here.Before t.start) ∧
      (readTokens rounds lead depth here gs cs).Pairwise fun t u => t.start.Before u.start := by
  induction rounds generalizing lead depth here gs cs with
  | zero => exact ⟨fun t ht => by simp [readTokens] at ht, List.Pairwise.nil⟩
  | succ rounds ih =>
    unfold readTokens
    split
    · exact ⟨fun t ht => by simp at ht, List.Pairwise.nil⟩
    · rename_i hgs
      split
      · rename_i l n hlayout
        obtain ⟨hlater, hordered⟩ :=
          ih (l :: lead) depth ((gs.take n).foldl Position.after here) (gs.drop n) (cs.drop n)
        refine ⟨?_, hordered⟩
        intro t ht
        rcases Position.foldl_after (gs.take n) here with hsame | hbefore
        · have hstart := hlater t ht
          rwa [hsame] at hstart
        · right
          rcases hlater t ht with hstart | hstart
          · rw [hstart]
            exact hbefore
          · exact hbefore.trans hstart
      · -- the token itself takes at least one unit, so all others start later
        have htaken : gs.take (measure cs).2 ≠ [] := by
          have hpos := measure_pos cs
          have hne : gs ≠ [] := by simpa using hgs
          intro hnil
          rw [List.take_eq_nil_iff] at hnil
          rcases hnil with hzero | hempty
          · omega
          · exact hne hempty
        have hbehind := Position.before_foldl_after htaken here
        obtain ⟨hlater, hordered⟩ :=
          ih [] (depthAfter depth (measure cs).1)
            ((gs.take (measure cs).2).foldl Position.after here)
            (gs.drop (measure cs).2) (cs.drop (measure cs).2)
        have hall : ∀ t ∈ readTokens rounds [] (depthAfter depth (measure cs).1)
            ((gs.take (measure cs).2).foldl Position.after here) (gs.drop (measure cs).2)
            (cs.drop (measure cs).2), here.Before t.start := by
          intro t ht
          rcases hlater t ht with hstart | hstart
          · rw [hstart]
            exact hbehind
          · exact hbehind.trans hstart
        constructor
        · intro t ht
          rcases List.mem_cons.mp ht with rfl | ht
          · exact Or.inl rfl
          · exact Or.inr (hall t ht)
        · exact List.Pairwise.cons hall hordered

/-- The names among tokens are identifiers. -/
theorem readTokens_names (rounds : Nat) (lead : List Layout) (depth : Nat) (here : Position)
    (gs : List Text.Glyph) (cs : List Char) :
    ∀ t ∈ readTokens rounds lead depth here gs cs, ∀ s, t.symbol.lexeme = .name s →
      Text.isIdentifier s = true := by
  induction rounds generalizing lead depth here gs cs with
  | zero =>
    intro t ht
    simp [readTokens] at ht
  | succ rounds ih =>
    unfold readTokens
    split
    · intro t ht
      simp at ht
    · split
      · rename_i l n hlayout
        exact ih _ _ _ _ _
      · intro t ht s hs
        rcases List.mem_cons.mp ht with rfl | ht
        · exact measure_name hs
        · exact ih _ _ _ _ _ t ht s hs

/-- The tokens of a text start one strictly after the other. -/
theorem tokens_ordered (gs : List Text.Glyph) :
    (tokens gs).Pairwise fun t u => t.start.Before u.start :=
  (readTokens_ordered gs.length [] 0 ⟨1, 1⟩ gs (gs.map look)).2

/-- The names among the symbols of a text are identifiers. -/
theorem isIdentifier_of_mem_tokens {gs : List Text.Glyph} {symbol : Symbol} {s : String}
    (hmem : symbol ∈ (tokens gs).map Token.symbol) (hname : symbol.lexeme = .name s) :
    Text.isIdentifier s = true := by
  obtain ⟨t, ht, rfl⟩ := List.mem_map.mp hmem
  exact readTokens_names _ _ _ _ _ _ t ht s hname

/-- Where a token starts in the spelling of a text. -/
theorem start_ofTokens {ts : List Token} {i : Nat} (h : i < ts.length) (d : Position) :
    (ts.toArray[i]?.map Token.start).getD d = ts[i].start := by
  rw [List.getElem?_toArray, List.getElem?_eq_getElem h]
  rfl

end SpanWeave.Source
