import SpanWeave.Proofs.Source.TokenTexts

/-!
# Reading words again

A text of words with gaps between them is read as these words, whatever follows the last one, as
long as no character of a name does. So a piece that is cut out of a text and read by itself begins
with the same words.
-/

set_option autoImplicit false

namespace SpanWeave.Source

/-- No character of a name follows. -/
def EndsWord (cs : List Char) : Prop := ∀ c ∈ cs.head?, Text.isIdentifierContinue c = false

/-- A name reaches as far as its characters do. -/
theorem endsWord_of_measure {cs : List Char} {s : String} {n : Nat}
    (h : measure cs = (.name s, n)) : EndsWord (cs.drop n) := by
  unfold measure at h
  split at h
  · cases h
  · split at h
    · cases h
    · rename_i c rest _
      split at h
      · cases h
        have hdrop : rest.drop (rest.takeWhile Text.isIdentifierContinue).length =
            rest.dropWhile Text.isIdentifierContinue := by
          have hleft := @List.drop_left _ (rest.takeWhile Text.isIdentifierContinue)
            (rest.dropWhile Text.isIdentifierContinue)
          rwa [List.takeWhile_append_dropWhile] at hleft
        intro d hd
        rw [List.length_cons, List.drop_succ_cons, hdrop] at hd
        have hnot := List.head?_dropWhile_not Text.isIdentifierContinue rest
        rw [hd] at hnot
        exact hnot
      · dsimp only at h
        split at h
        · cases h
        · split at h <;> cases h

/-- A word that is read as a name wherever it ends. -/
structure StandsAlone (word : String) : Prop where
  nonempty : word ≠ ""
  layout : ∀ cs, layout? ((word.toList ++ cs).map .char) (word.toList ++ cs) = none
  measure : ∀ cs, EndsWord cs → measure (word.toList ++ cs) = (.name word, word.toList.length)

/-- Characters of a name are taken up to the first one that is none. -/
theorem measure_append (c : Char) (rest : List Char) {cs : List Char}
    (hstring : stringLength? (c :: (rest ++ cs)) = none)
    (hstart : Text.isIdentifierStart c = true) (hrest : rest.all Text.isIdentifierContinue = true)
    (hcs : EndsWord cs) :
    measure (c :: (rest ++ cs)) = (.name (String.ofList (c :: rest)), rest.length + 1) := by
  have htaken : (rest ++ cs).takeWhile Text.isIdentifierContinue = rest := by
    rw [List.takeWhile_append_of_pos (List.all_eq_true.mp hrest)]
    cases cs with
    | nil => simp
    | cons d cs => rw [List.takeWhile_cons_of_neg (by simp [hcs d rfl]), List.append_nil]
  unfold measure
  rw [hstring]
  dsimp only
  rw [if_pos hstart, htaken]
  rfl

theorem standsAlone_words :
    StandsAlone "from" ∧ StandsAlone "__future__" ∧ StandsAlone "import" :=
  ⟨⟨by decide, fun _ => rfl, fun _ hcs => measure_append 'f' "rom".toList rfl
      (by decide) (by decide) hcs⟩,
    ⟨by decide, fun _ => rfl, fun _ hcs => measure_append '_' "_future__".toList rfl
      (by decide) (by decide) hcs⟩,
    ⟨by decide, fun _ => rfl, fun _ hcs => measure_append 'i' "mport".toList rfl
      (by decide) (by decide) hcs⟩⟩

theorem readTokens_of_layout {rounds depth n : Nat} {lead : List Layout} {here : Position}
    {gs : List Text.Glyph} {cs : List Char} {l : Layout} (h : layout? gs cs = some (l, n)) :
    readTokens (rounds + 1) lead depth here gs cs =
      readTokens rounds (l :: lead) depth ((gs.take n).foldl Position.after here) (gs.drop n)
        (cs.drop n) := by
  cases gs with
  | nil => simp [layout?] at h
  | cons g gs =>
    rw [readTokens, h]
    rfl

/-- Layout is passed over, whatever is read behind it. -/
theorem readTokens_gap {gap : List Char} (hgap : Gap gap) (cs : List Char) {rounds : Nat}
    (hrounds : (gap ++ cs).length ≤ rounds) (lead : List Layout) (depth : Nat) (here : Position) :
    ∃ rounds' lead' here', cs.length ≤ rounds' ∧
      readTokens rounds lead depth here ((gap ++ cs).map .char) (gap ++ cs) =
        readTokens rounds' lead' depth here' (cs.map .char) cs := by
  -- each piece of the gap takes one round, so what is left of the rounds suffices for the rest
  induction hgap generalizing rounds lead here with
  | nil => exact ⟨rounds, lead, here, hrounds, rfl⟩
  | @blank c gap h after ih =>
    obtain ⟨rounds, rfl⟩ := Nat.exists_eq_add_of_le' (Nat.le_trans (Nat.succ_pos _) hrounds)
    have hlayout : layout? ((c :: (gap ++ cs)).map .char) (c :: (gap ++ cs)) =
        some (.blank (.char c), 1) := by
      simp [layout?, h]
    rw [List.cons_append, readTokens_of_layout hlayout]
    exact ih (Nat.le_of_succ_le_succ hrounds) _ _
  | @remark line gap h after ih =>
    obtain ⟨rounds, rfl⟩ := Nat.exists_eq_add_of_le' (Nat.le_trans (Nat.succ_pos _) hrounds)
    have htaken : ('#' :: (line ++ '\n' :: (gap ++ cs))).takeWhile (· != '\n') = '#' :: line := by
      rw [List.takeWhile_cons_of_pos (by decide), List.takeWhile_append_of_pos]
      · simp
      · intro c hc
        rw [bne_iff_ne]
        rintro rfl
        exact h hc
    have hlayout : ∃ l, layout? (('#' :: (line ++ '\n' :: (gap ++ cs))).map .char)
        ('#' :: (line ++ '\n' :: (gap ++ cs))) = some (l, line.length + 1) := by
      refine ⟨.remark ((('#' :: (line ++ '\n' :: (gap ++ cs))).map .char).take (line.length + 1)), ?_⟩
      rw [List.map_cons, layout?]
      dsimp only
      rw [if_neg (by decide), if_pos rfl, htaken]
      rfl
    obtain ⟨l, hlayout⟩ := hlayout
    have hlength : (('\n' :: gap) ++ cs).length ≤ rounds := by
      simp only [List.cons_append, List.length_cons, List.length_append, List.append_assoc] at hrounds ⊢
      omega
    have hdrop : ('#' :: (line ++ '\n' :: (gap ++ cs))).drop (line.length + 1) =
        ('\n' :: gap) ++ cs := by
      rw [List.drop_succ_cons, List.drop_left]
      rfl
    rw [List.cons_append, List.append_assoc, List.cons_append, readTokens_of_layout hlayout,
      ← List.map_drop, hdrop]
    exact ih hlength _ _
  | @joined gap after ih =>
    obtain ⟨rounds, rfl⟩ := Nat.exists_eq_add_of_le' (Nat.le_trans (Nat.succ_pos _) hrounds)
    have hlayout : layout? (('\\' :: '\n' :: (gap ++ cs)).map .char) ('\\' :: '\n' :: (gap ++ cs)) =
        some (.continuation [.char '\\', .char '\n'], 2) := rfl
    have hlength : (gap ++ cs).length ≤ rounds := by
      simp only [List.cons_append, List.length_cons] at hrounds
      omega
    rw [List.cons_append, List.cons_append, readTokens_of_layout hlayout]
    exact ih hlength _ _
  | @joinedReturn gap after ih =>
    obtain ⟨rounds, rfl⟩ := Nat.exists_eq_add_of_le' (Nat.le_trans (Nat.succ_pos _) hrounds)
    have hlayout : layout? (('\\' :: '\r' :: '\n' :: (gap ++ cs)).map .char)
        ('\\' :: '\r' :: '\n' :: (gap ++ cs)) =
          some (.continuation [.char '\\', .char '\r', .char '\n'], 3) := rfl
    have hlength : (gap ++ cs).length ≤ rounds := by
      simp only [List.cons_append, List.length_cons] at hrounds
      omega
    rw [List.cons_append, List.cons_append, List.cons_append, readTokens_of_layout hlayout]
    exact ih hlength _ _

/-- A word behind layout is read as a name. -/
theorem readTokens_word {gap : List Char} (hgap : Gap gap) {word : String} (hword : StandsAlone word)
    {cs : List Char} (hcs : EndsWord cs) {rounds : Nat}
    (hrounds : (gap ++ (word.toList ++ cs)).length ≤ rounds) (lead : List Layout) (depth : Nat)
    (here : Position) :
    ∃ t rounds' depth' here', t.symbol.lexeme = .name word ∧ cs.length ≤ rounds' ∧
      readTokens rounds lead depth here ((gap ++ (word.toList ++ cs)).map .char)
          (gap ++ (word.toList ++ cs)) =
        t :: readTokens rounds' [] depth' here' (cs.map .char) cs := by
  obtain ⟨rounds', lead', here', hle, hread⟩ :=
    readTokens_gap hgap (word.toList ++ cs) hrounds lead depth here
  obtain ⟨c, rest, hc⟩ := List.exists_cons_of_ne_nil (show word.toList ≠ [] by
    simpa using hword.nonempty)
  obtain ⟨rounds, rfl⟩ : ∃ r, rounds' = r + 1 := by
    rw [List.length_append, hc, List.length_cons] at hle
    exact ⟨rounds' - 1, by omega⟩
  rw [hread, readTokens, hword.layout cs]
  have hne : ((word.toList ++ cs).map Text.Glyph.char).isEmpty = false := by simp [hc]
  rw [hne, hword.measure cs hcs]
  simp only [Bool.false_eq_true, if_false, ← List.map_drop, List.drop_left]
  refine ⟨_, rounds, _, _, ?_, ?_, rfl⟩
  · rfl
  · rw [List.length_append, hc, List.length_cons] at hle
    omega

/-! ## Words of a text -/

/-- The layout before a token, stray bytes left out. -/
def Token.gap (t : Token) : List Char := Text.shown (t.lead.flatMap Layout.glyphs)

/-- The tokens from an index on are those of a part of the text. -/
theorem drop_readTokens (rounds depth : Nat) (here : Position) (gs : List Text.Glyph) (i : Nat) :
    ∃ rounds' depth' here' gs', (readTokens rounds [] depth here gs (gs.map look)).drop i =
      readTokens rounds' [] depth' here' gs' (gs'.map look) := by
  induction i generalizing rounds depth here gs with
  | zero => exact ⟨rounds, depth, here, gs, rfl⟩
  | succ i ih =>
    cases hts : readTokens rounds [] depth here gs (gs.map look) with
    | nil => exact ⟨0, 0, here, [], rfl⟩
    | cons t ts =>
      obtain ⟨more, rest, n, hfirst⟩ := readTokens_eq_cons hts
      obtain ⟨rounds', depth', here', rfl⟩ := hfirst.others
      exact ih rounds' depth' here' (rest.drop n)

/-- Layout is shown from its first character on. -/
theorem head?_shown_append {lead : List Layout} (hproper : ∀ l ∈ lead, l.Proper) (cs : List Char) :
    (Text.shown (lead.flatMap Layout.glyphs) ++ cs).head? =
      ((lead.flatMap Layout.glyphs).map look ++ cs).head? := by
  cases lead with
  | nil => rfl
  | cons l lead =>
    have hl := hproper l List.mem_cons_self
    cases hl with
    | @blank g h =>
      have hg : g = .char (look g) := by
        apply eq_char_of_look rfl
        rintro hnul
        rw [hnul] at h
        exact absurd h (by decide)
      rw [List.flatMap_cons, Layout.glyphs, hg]
      rfl
    | remark h gs =>
      rw [List.flatMap_cons, Layout.glyphs, eq_char_of_look h (by decide)]
      rfl
    | continuation h gs =>
      rw [List.flatMap_cons, Layout.glyphs, eq_char_of_look h (by decide)]
      rfl

/-- A token that spells something, first of a part of the text. -/
theorem text_of_readTokens {rounds depth : Nat} {here : Position} {gs : List Text.Glyph}
    {t : Token} {ts : List Token} (h : readTokens rounds [] depth here gs (gs.map look) = t :: ts)
    {s : String} (hs : t.symbol.lexeme.Spells s) (hchars : Char.ofNat 0 ∉ s.toList) :
    Gap t.gap ∧ Text.shown t.text = s.toList ∧
      (EndsWord (gs.map look) → EndsWord (t.gap ++ s.toList)) ∧
        ∃ rounds' depth' here' gs', ts = readTokens rounds' [] depth' here' gs' (gs'.map look) ∧
          (t.symbol.lexeme = .name s → EndsWord (gs'.map look)) := by
  obtain ⟨more, rest, n, hfirst⟩ := readTokens_eq_cons h
  have hlead : t.lead = more := hfirst.lead
  have htaken : (rest.take n).map look = s.toList := by
    rw [List.map_take, take_of_measure hfirst.measured hs]
  obtain ⟨rounds', depth', here', hothers⟩ := hfirst.others
  unfold Token.gap
  rw [hlead]
  refine ⟨hfirst.gap, ?_, ?_, rounds', depth', here', rest.drop n, hothers, ?_⟩
  · rw [hfirst.text, shown_eq_look (htaken ▸ hchars), htaken]
  · intro hends c hc
    apply hends c
    rw [head?_shown_append hfirst.proper] at hc
    rw [hfirst.split, List.map_append, ← List.take_append_drop n rest, List.map_append, htaken,
      ← List.append_assoc, List.head?_append, hc]
    rfl
  · intro hname
    rw [List.map_drop]
    exact endsWord_of_measure (hname ▸ hfirst.measured)

end SpanWeave.Source
