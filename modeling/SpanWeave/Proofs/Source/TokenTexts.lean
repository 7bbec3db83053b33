import SpanWeave.Source.Token

/-!
# How a text begins

Reading tokens loses nothing: a text begins with the layout before its first token, goes on with
what the token spells, and the other tokens are those of the rest. So the first words of a text and
the layout between them can be read off its tokens.
-/

set_option autoImplicit false

namespace SpanWeave.Source

/-- What a token spells, if it is a word or an operator. -/
inductive Lexeme.Spells : Lexeme → String → Prop
  | name (s : String) : Spells (.name s) s
  | mark (s : String) : Spells (.mark s) s

/-- A word or an operator takes the characters that it spells. -/
theorem take_of_measure {cs : List Char} {lexeme : Lexeme} {n : Nat}
    (h : measure cs = (lexeme, n)) {s : String} (hs : lexeme.Spells s) : cs.take n = s.toList := by
  unfold measure at h
  split at h
  · cases h
    cases hs
  · split at h
    · cases h
      cases hs
    · rename_i c rest _
      split at h
      · cases h
        cases hs
        rw [String.toList_ofList]
        exact (List.prefix_iff_eq_take.mp
          ((List.prefix_cons_inj c).mpr (List.takeWhile_prefix _))).symm
      · dsimp only at h
        split at h
        · cases h
          cases hs
        · split at h
          · rename_i m hfind
            cases h
            cases hs
            have hfound := List.find?_some hfind
            rw [← String.length_toList]
            exact (List.prefix_iff_eq_take.mp (List.isPrefixOf_iff_prefix.mp hfound)).symm
          · cases h
            cases hs

/-! ## Layout -/

/-- A piece of layout as it is read: it begins with a character that begins no token. -/
inductive Layout.Proper : Layout → Prop
  | blank {g : Text.Glyph} (h : isLayoutBlank (look g) = true) : Proper (.blank g)
  | remark {g : Text.Glyph} (h : look g = '#') (gs : List Text.Glyph) : Proper (.remark (g :: gs))
  | continuation {g : Text.Glyph} (h : look g = '\\') (gs : List Text.Glyph) :
    Proper (.continuation (g :: gs))

/-- A piece of layout holds the units that it takes. -/
theorem layout?_eq_some {gs : List Text.Glyph} {l : Layout} {n : Nat}
    (h : layout? gs (gs.map look) = some (l, n)) : l.glyphs = gs.take n ∧ l.Proper := by
  cases gs with
  | nil => cases h
  | cons g gs =>
    unfold layout? at h
    rw [List.map_cons] at h
    dsimp only at h
    split at h
    · rename_i hblank
      cases h
      exact ⟨rfl, .blank hblank⟩
    · split at h
      · rename_i hmark
        cases h
        refine ⟨rfl, ?_⟩
        rw [List.takeWhile_cons_of_pos (by simp [hmark])]
        exact .remark hmark _
      · split at h
        · rename_i hpos
          cases h
          refine ⟨rfl, ?_⟩
          obtain ⟨k, hk⟩ := Nat.exists_eq_succ_of_ne_zero (Nat.pos_iff_ne_zero.mp hpos)
          have hslash : look g = '\\' := by
            unfold continuationLength at hpos
            split at hpos <;> simp_all
          rw [hk, List.take_succ_cons]
          exact .continuation hslash _
        · cases h

/-- Characters that may stand between tokens: blanks, remarks with the ends of their lines, and line
continuations. -/
inductive Gap : List Char → Prop
  | nil : Gap []
  | blank {c : Char} {cs : List Char} (h : isLayoutBlank c = true) (after : Gap cs) : Gap (c :: cs)
  | remark {cs ds : List Char} (h : '\n' ∉ cs) (after : Gap ('\n' :: ds)) :
    Gap ('#' :: (cs ++ '\n' :: ds))
  | joined {cs : List Char} (after : Gap cs) : Gap ('\\' :: '\n' :: cs)
  | joinedReturn {cs : List Char} (after : Gap cs) : Gap ('\\' :: '\r' :: '\n' :: cs)

theorem look_char (cs : List Char) : (cs.map Text.Glyph.char).map look = cs := by
  rw [List.map_map]
  exact List.map_id _

/-- A unit that looks like a character is it; stray bytes look like none that is read. -/
theorem eq_char_of_look {g : Text.Glyph} {c : Char} (h : look g = c) (hc : c ≠ Char.ofNat 0) :
    g = .char c := by
  cases g with
  | char d => exact congrArg Text.Glyph.char h
  | stray b => exact absurd h.symm hc

theorem shown_append (gs hs : List Text.Glyph) :
    Text.shown (gs ++ hs) = Text.shown gs ++ Text.shown hs :=
  List.filterMap_append

/-- Characters of a unit are shown as they look. -/
theorem shown_eq_look {gs : List Text.Glyph} (h : Char.ofNat 0 ∉ gs.map look) :
    Text.shown gs = gs.map look := by
  induction gs with
  | nil => rfl
  | cons g gs ih =>
    simp only [List.map_cons, List.mem_cons, not_or] at h
    rw [eq_char_of_look rfl (Ne.symm h.1), List.map_cons, ← ih h.2]
    rfl

/-- The line of a remark holds no line end and is followed by one, unless the text ends with it. -/
theorem line_of_remark {gs more : List Text.Glyph} {g : Text.Glyph} {tail : List Text.Glyph}
    (h : gs.drop ((gs.map look).takeWhile (· != '\n')).length = more ++ g :: tail)
    (hg : isLayoutBlank (look g) = false) :
    '\n' ∉ Text.shown (gs.take ((gs.map look).takeWhile (· != '\n')).length) ∧
      ∃ more', more = .char '\n' :: more' := by
  have hend : isLayoutBlank '\n' = true := by decide
  induction gs with
  | nil => simp at h
  | cons first gs ih =>
    by_cases hfirst : look first = '\n'
    · rw [List.map_cons, List.takeWhile_cons_of_neg (by simp [hfirst])] at h ⊢
      refine ⟨List.not_mem_nil, ?_⟩
      cases more with
      | nil =>
        rw [← (List.cons.inj h).1, hfirst, hend] at hg
        cases hg
      | cons other more' =>
        rw [← (List.cons.inj h).1, eq_char_of_look hfirst (by decide)]
        exact ⟨more', rfl⟩
    · rw [List.map_cons, List.takeWhile_cons_of_pos (by simp [hfirst]), List.length_cons] at h ⊢
      rw [List.drop_succ_cons] at h
      obtain ⟨hline, hmore⟩ := ih h
      refine ⟨?_, hmore⟩
      rw [List.take_succ_cons, ← List.singleton_append, shown_append, List.mem_append, not_or]
      refine ⟨fun hmem => ?_, hline⟩
      cases first with
      | char c => exact hfirst (List.mem_singleton.mp hmem).symm
      | stray b => exact absurd hmem List.not_mem_nil

theorem continuationLength_cases {cs : List Char} (h : 0 < continuationLength cs) :
    (∃ ds, cs = '\\' :: '\r' :: '\n' :: ds ∧ continuationLength cs = 3) ∨
      (∃ ds, cs = '\\' :: '\n' :: ds ∧ continuationLength cs = 2) ∨
        cs = ['\\'] ∧ continuationLength cs = 1 := by
  unfold continuationLength at h ⊢
  split at h
  · exact Or.inl ⟨_, rfl, rfl⟩
  · exact Or.inr (Or.inl ⟨_, rfl, rfl⟩)
  · exact Or.inr (Or.inr ⟨rfl, rfl⟩)
  · cases h

/-- A piece of layout before others makes a gap with them unless it ends the text. -/
theorem gap_of_layout {gs more tail : List Text.Glyph} {g : Text.Glyph} {l : Layout} {n : Nat}
    (h : layout? gs (gs.map look) = some (l, n)) (hgs : gs.drop n = more ++ g :: tail)
    (hg : isLayoutBlank (look g) = false) (hmore : Gap (Text.shown more)) :
    Gap (Text.shown (l.glyphs ++ more)) := by
  cases gs with
  | nil => cases h
  | cons first gs =>
    unfold layout? at h
    rw [List.map_cons] at h
    dsimp only at h
    split at h
    · rename_i hblank
      cases h
      have hfirst : first = .char (look first) := by
        apply eq_char_of_look rfl
        rintro hnul
        rw [hnul] at hblank
        exact absurd hblank (by decide)
      rw [hfirst]
      exact .blank hblank hmore
    · split at h
      · rename_i hmark
        rw [hmark, List.takeWhile_cons_of_pos (by decide), List.length_cons] at h
        cases h
        rw [List.drop_succ_cons] at hgs
        obtain ⟨hline, more', rfl⟩ := line_of_remark hgs hg
        rw [Layout.glyphs, List.take_succ_cons, eq_char_of_look hmark (by decide),
          List.cons_append]
        generalize gs.take ((gs.map look).takeWhile (· != '\n')).length = line at hline ⊢
        have hshown : Text.shown (.char '#' :: (line ++ .char '\n' :: more')) =
            '#' :: (Text.shown line ++ '\n' :: Text.shown more') :=
          congrArg ('#' :: ·) (shown_append _ _)
        rw [hshown]
        exact .remark hline hmore
      · split at h
        · rename_i hpos
          cases h
          obtain ⟨ds, hds, hthree⟩ | ⟨ds, hds, htwo⟩ | ⟨hds, hone⟩ := continuationLength_cases hpos
          · rw [hthree]
            obtain ⟨hfirst, hds⟩ := List.cons.inj hds
            obtain ⟨second, gs, rfl, hsecond, hds⟩ := List.map_eq_cons_iff.mp hds
            obtain ⟨third, gs, rfl, hthird, -⟩ := List.map_eq_cons_iff.mp hds
            rw [eq_char_of_look hfirst (by decide), eq_char_of_look hsecond (by decide),
              eq_char_of_look hthird (by decide)]
            exact .joinedReturn hmore
          · rw [htwo]
            obtain ⟨hfirst, hds⟩ := List.cons.inj hds
            obtain ⟨second, gs, rfl, hsecond, -⟩ := List.map_eq_cons_iff.mp hds
            rw [eq_char_of_look hfirst (by decide), eq_char_of_look hsecond (by decide)]
            exact .joined hmore
          · -- a backslash at the end of the text has nothing behind it
            rw [hone, List.drop_succ_cons, List.map_eq_nil_iff.mp (List.cons.inj hds).2] at hgs
            simp at hgs
        · cases h

/-- The first character of a text with layout before it: there is no layout, or the first piece is a
blank, or it begins a remark or a continuation. -/
theorem lead_cases {lead : List Layout} (hproper : ∀ l ∈ lead, l.Proper) {c : Char}
    {cs rest : List Char} (h : (lead.flatMap Layout.glyphs).map look ++ rest = c :: cs) :
    lead = [] ∧ rest = c :: cs ∨
      (∃ g others, lead = .blank g :: others ∧ look g = c ∧ isLayoutBlank c = true ∧
        (others.flatMap Layout.glyphs).map look ++ rest = cs) ∨ c = '#' ∨ c = '\\' := by
  cases lead with
  | nil => exact Or.inl ⟨rfl, h⟩
  | cons l others =>
    right
    have hl := hproper l List.mem_cons_self
    cases hl with
    | blank hblank =>
      obtain ⟨hc, hrest⟩ := List.cons.inj h
      exact Or.inl ⟨_, _, rfl, hc, hc ▸ hblank, hrest⟩
    | remark hmark gs =>
      obtain ⟨hc, -⟩ := List.cons.inj h
      exact Or.inr (Or.inl (hc.symm.trans hmark))
    | continuation hslash gs =>
      obtain ⟨hc, -⟩ := List.cons.inj h
      exact Or.inr (Or.inr (hc.symm.trans hslash))

/-- There is no layout before a text whose first character begins none. -/
theorem lead_eq_nil {lead : List Layout} (hproper : ∀ l ∈ lead, l.Proper) {c : Char}
    (hblank : isLayoutBlank c = false) (hremark : c ≠ '#') (hslash : c ≠ '\\')
    {cs rest : List Char} (h : (lead.flatMap Layout.glyphs).map look ++ rest = c :: cs) :
    lead = [] ∧ rest = c :: cs := by
  obtain hnone | ⟨g, others, -, -, hc, -⟩ | hc | hc := lead_cases hproper h
  · exact hnone
  · rw [hblank] at hc
    cases hc
  · exact absurd hc hremark
  · exact absurd hc hslash

/-! ## The first token -/

/-- A token that is read first of a text: the layout between what came before and the token, the text
from the token on, and how many units of it the token takes. -/
structure Token.IsFirst (t : Token) (lead : List Layout) (gs : List Text.Glyph) (ts : List Token)
    (more : List Layout) (rest : List Text.Glyph) (n : Nat) : Prop where
  lead : t.lead = lead.reverse ++ more
  proper : ∀ l ∈ more, l.Proper
  gap : Gap (Text.shown (more.flatMap Layout.glyphs))
  split : gs = more.flatMap Layout.glyphs ++ rest
  begins : ∃ g tail, rest = g :: tail ∧ isLayoutBlank (look g) = false
  measured : measure (rest.map look) = (t.symbol.lexeme, n)
  text : t.text = rest.take n
  others : ∃ rounds depth here,
    ts = readTokens rounds [] depth here (rest.drop n) ((rest.drop n).map look)

/-- The first token of a text stands behind the layout before it, and the other tokens are those of
what it leaves. -/
theorem readTokens_eq_cons {rounds : Nat} {lead : List Layout} {depth : Nat} {here : Position}
    {gs : List Text.Glyph} {t : Token} {ts : List Token}
    (h : readTokens rounds lead depth here gs (gs.map look) = t :: ts) :
    ∃ more rest n, t.IsFirst lead gs ts more rest n := by
  induction rounds generalizing lead here gs with
  | zero => cases h
  | succ rounds ih =>
    unfold readTokens at h
    split at h
    · cases h
    · rename_i hgs
      split at h
      · -- one more piece of layout before the token
        rename_i l taken hlayout
        obtain ⟨hglyphs, hproper⟩ := layout?_eq_some hlayout
        rw [← List.map_drop] at h
        obtain ⟨more, rest, n, hfirst⟩ := ih h
        obtain ⟨g, tail, rfl, hg⟩ := hfirst.begins
        refine ⟨l :: more, g :: tail, n,
          { hfirst with lead := ?_, proper := ?_, gap := ?_, split := ?_ }⟩
        · rw [hfirst.lead, List.reverse_cons, List.append_assoc, List.singleton_append]
        · exact List.forall_mem_cons.mpr ⟨hproper, hfirst.proper⟩
        · exact gap_of_layout hlayout hfirst.split hg hfirst.gap
        · rw [List.flatMap_cons, hglyphs, List.append_assoc, ← hfirst.split,
            List.take_append_drop]
      · rename_i hlayout
        dsimp only at h
        rw [← List.map_drop] at h
        cases h
        obtain ⟨g, tail, rfl⟩ := List.exists_cons_of_ne_nil (by simpa using hgs : gs ≠ [])
        have hg : isLayoutBlank (look g) = false := by
          cases hblank : isLayoutBlank (look g) with
          | false => rfl
          | true => simp [layout?, hblank] at hlayout
        exact ⟨[], g :: tail, _,
          { lead := (List.append_nil _).symm
            proper := List.forall_mem_nil _
            gap := .nil
            split := rfl
            begins := ⟨g, tail, rfl, hg⟩
            measured := rfl
            text := rfl
            others := ⟨_, _, _, rfl⟩ }⟩

/-- What a text looks like whose first token is a word or an operator. -/
theorem look_of_readTokens {rounds depth : Nat} {here : Position} {gs : List Text.Glyph}
    {t : Token} {ts : List Token} (h : readTokens rounds [] depth here gs (gs.map look) = t :: ts)
    {s : String} (hs : t.symbol.lexeme.Spells s) :
    (∀ l ∈ t.lead, l.Proper) ∧ ∃ rest,
      gs.map look = (t.lead.flatMap Layout.glyphs).map look ++ (s.toList ++ rest.map look) ∧
        ∃ rounds' depth' here', ts = readTokens rounds' [] depth' here' rest (rest.map look) := by
  obtain ⟨more, rest, n, hfirst⟩ := readTokens_eq_cons h
  have hlead : t.lead = more := hfirst.lead
  rw [hlead]
  refine ⟨hfirst.proper, rest.drop n, ?_, hfirst.others⟩
  rw [List.map_drop, ← take_of_measure hfirst.measured hs, List.take_append_drop, hfirst.split,
    List.map_append]

end SpanWeave.Source
