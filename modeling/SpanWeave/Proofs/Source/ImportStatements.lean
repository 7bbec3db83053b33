import SpanWeave.Proofs.Source.ClassHeads
import SpanWeave.Proofs.Source.FirstWords
import SpanWeave.Proofs.Text.IdentifierNames

/-!
# Import statements of a text

Every import of a module is a run of tokens that the grammar reads as one. If it imports from
`__future__`, its text begins with the three words of such a statement, with the layout of the
source between them, and a reader of the text alone sees the same words.
-/

set_option autoImplicit false

namespace SpanWeave.Source

open Grammar (run runUpTo importing)

/-! ## What an import names -/

/-- A grammar leads from one cursor to another at some depth. -/
def Grammar.Leads (g : Grammar) (c d : Cursor) : Prop := ∃ fuel, runUpTo fuel g c = some d

namespace Grammar.Leads

variable {g first second : Grammar} {c d : Cursor} {s : String}

theorem word (h : (Grammar.word s).Leads c d) : c.atWord s = true ∧ d = c.next := by
  obtain ⟨fuel, h⟩ := h
  cases fuel with
  | zero => cases h
  | succ fuel =>
    rw [runUpTo] at h
    split at h
    · rename_i hword
      cases h
      exact ⟨hword, rfl⟩
    · cases h

theorem mark (h : (Grammar.mark s).Leads c d) : c.atMark s = true ∧ d = c.next := by
  obtain ⟨fuel, h⟩ := h
  cases fuel with
  | zero => cases h
  | succ fuel =>
    rw [runUpTo] at h
    split at h
    · rename_i hmark
      cases h
      exact ⟨hmark, rfl⟩
    · cases h

theorem name (h : Grammar.name.Leads c d) : (∃ s, c.label? = some s) ∧ d = c.next := by
  obtain ⟨fuel, h⟩ := h
  cases fuel with
  | zero => cases h
  | succ fuel =>
    rw [runUpTo] at h
    split at h
    · rename_i hname
      obtain ⟨s, hs, -⟩ := (Option.any_eq_true _ _).mp hname
      cases h
      exact ⟨⟨s, hs⟩, rfl⟩
    · cases h

theorem both (h : (Grammar.both first second).Leads c d) :
    ∃ e, first.Leads c e ∧ second.Leads e d := by
  obtain ⟨fuel, h⟩ := h
  cases fuel with
  | zero => cases h
  | succ fuel =>
    obtain ⟨e, hfirst, hsecond⟩ := Option.bind_eq_some_iff.mp h
    exact ⟨e, ⟨fuel, hfirst⟩, fuel, hsecond⟩

theorem either (h : (Grammar.either first second).Leads c d) :
    first.Leads c d ∨ second.Leads c d := by
  obtain ⟨fuel, h⟩ := h
  cases fuel with
  | zero => cases h
  | succ fuel =>
    rw [runUpTo] at h
    split at h
    · rename_i e hfirst
      cases h
      exact Or.inl ⟨fuel, hfirst⟩
    · exact Or.inr ⟨fuel, h⟩

theorem reaches (h : g.Leads c d) : c.Reaches d := by
  obtain ⟨fuel, hrun⟩ := h
  exact runUpTo_reaches hrun

end Grammar.Leads

/-- Whether a statement that imports from `__future__` begins at the cursor. -/
def Cursor.atFutureImport (c : Cursor) : Bool :=
  c.atWord "from" && c.next.atWord "__future__" && c.next.next.atWord "import"

theorem Cursor.lexeme_of_atWord {c : Cursor} {s : String} (h : c.atWord s = true) :
    ∃ symbol, c.head? = some symbol ∧ symbol.lexeme = .name s := by
  obtain ⟨symbol, hsymbol, hlexeme⟩ := (Option.any_eq_true _ _).mp h
  exact ⟨symbol, hsymbol, beq_iff_eq.mp hlexeme⟩

theorem Cursor.lexeme_of_atMark {c : Cursor} {s : String} (h : c.atMark s = true) :
    ∃ symbol, c.head? = some symbol ∧ symbol.lexeme = .mark s := by
  obtain ⟨symbol, hsymbol, hlexeme⟩ := (Option.any_eq_true _ _).mp h
  exact ⟨symbol, hsymbol, beq_iff_eq.mp hlexeme⟩

theorem Cursor.lexeme_of_label {c : Cursor} {s : String} (h : c.label? = some s) :
    ∃ symbol, c.head? = some symbol ∧ symbol.lexeme = .name s := by
  unfold Cursor.label? at h
  split at h
  · rename_i name opens joins hhead
    cases h
    exact ⟨_, hhead, rfl⟩
  · cases h

/-- A word is no mark, and no other word. -/
theorem Cursor.atWord_cases {c : Cursor} {s : String} (h : c.atWord s = true) :
    (∀ m, c.atMark m = false) ∧ ∀ s', c.atWord s' = true → s' = s := by
  obtain ⟨symbol, hsymbol, hlexeme⟩ := lexeme_of_atWord h
  refine ⟨fun m => ?_, fun s' h' => ?_⟩
  · simp [Cursor.atMark, hsymbol, hlexeme]
  · obtain ⟨symbol', hsymbol', hlexeme'⟩ := lexeme_of_atWord h'
    cases hsymbol.symm.trans hsymbol'
    cases hlexeme.symm.trans hlexeme'
    rfl

section Imports

open Grammar

variable {c d : Cursor}

theorem not_mark_leads {s m : String} (hword : c.atWord s = true) : ¬ (mark m).Leads c d := by
  intro h
  have hmark := (Leads.mark h).1
  rw [(Cursor.atWord_cases hword).1] at hmark
  cases hmark

theorem not_nameBut_leads {s : String} (hword : c.atWord s = true) :
    ¬ (nameBut s).Leads c d := by
  rintro ⟨fuel, h⟩
  cases fuel with
  | zero => cases h
  | succ fuel =>
    rw [runUpTo] at h
    split at h
    · rename_i hname
      obtain ⟨t, ht, hfits⟩ := (Option.any_eq_true _ _).mp hname
      rw [Bool.and_eq_true, bne_iff_ne] at hfits
      -- the name at the cursor is the one that is left out
      obtain ⟨symbol, hsymbol, hlexeme⟩ := Cursor.lexeme_of_atWord hword
      obtain ⟨symbol', hsymbol', hlexeme'⟩ := Cursor.lexeme_of_label ht
      cases hsymbol.symm.trans hsymbol'
      cases hlexeme.symm.trans hlexeme'
      exact hfits.2 rfl
    · cases h

/-- The name that no module begins with is not the module from which something is imported. -/
theorem not_importedModule_leads {s : String} (hword : c.atWord s = true) :
    ¬ (choice [sequence [oneMark ["...", "."], many (oneMark ["...", "."]), optional dottedName],
      dottedFrom (nameBut s)]).Leads c d := by
  intro h
  rcases Leads.either h with hdots | hdotted
  · obtain ⟨e, hdots, -⟩ := Leads.both hdots
    -- of the dots, three are tried before one
    rcases Leads.either hdots with hthree | hone
    · exact not_mark_leads hword hthree
    · exact not_mark_leads hword hone
  · obtain ⟨e, hfirst, -⟩ := Leads.both hdotted
    exact not_nameBut_leads hword hfirst

/-- The list of what an import names begins with a name. -/
theorem importList_leads (h : importList.Leads c d) :
    (∃ s, c.label? = some s) ∧ c.next.Reaches d := by
  obtain ⟨e, h, hmore⟩ := Leads.both h
  obtain ⟨f, h, halias⟩ := Leads.both h
  obtain ⟨g, h, hdots⟩ := Leads.both h
  obtain ⟨hname, rfl⟩ := Leads.name h
  exact ⟨hname, (hdots.reaches.trans halias.reaches).trans hmore.reaches⟩

/-- What an import takes from a module begins with a name or a parenthesis. -/
theorem importedNames_leads (h : importedNames.Leads c d) :
    ∃ symbol s, c.head? = some symbol ∧ symbol.lexeme.Spells s ∧
      (symbol.lexeme = .name s ∨ s = "(") ∧ c.next.Reaches d := by
  rcases Leads.either h with hopen | hlist
  · obtain ⟨e, hopen, hrest⟩ := Leads.both hopen
    obtain ⟨hat, rfl⟩ := Leads.mark hopen
    obtain ⟨symbol, hsymbol, hlexeme⟩ := Cursor.lexeme_of_atMark hat
    exact ⟨symbol, "(", hsymbol, hlexeme ▸ .mark "(", Or.inr rfl, hrest.reaches⟩
  · obtain ⟨⟨s, hs⟩, hrest⟩ := importList_leads hlist
    obtain ⟨symbol, hsymbol, hlexeme⟩ := Cursor.lexeme_of_label hs
    exact ⟨symbol, s, hsymbol, hlexeme ▸ .name s, Or.inl hlexeme, hrest⟩

/-- Behind its three words, an import from `__future__` goes on with a name or a parenthesis. -/
theorem importing_of_atFutureImport (h : importing.Leads c d) (hfuture : c.atFutureImport = true) :
    ∃ symbol s, c.next.next.next.head? = some symbol ∧ symbol.lexeme.Spells s ∧
      (symbol.lexeme = .name s ∨ s = "(") ∧ c.next.next.next.next.Reaches d := by
  unfold Cursor.atFutureImport at hfuture
  simp only [Bool.and_eq_true] at hfuture
  obtain ⟨⟨hfrom, hmodule⟩, -⟩ := hfuture
  -- a statement that begins with `from` is not of the first form
  rcases Leads.either h with h | h
  · obtain ⟨e, hword, -⟩ := Leads.both h
    exact absurd ((Cursor.atWord_cases hfrom).2 _ (Leads.word hword).1) (by decide)
  -- and one that goes on with `__future__` is not of the last form
  rcases Leads.either h with h | h
  · obtain ⟨e, hword, h⟩ := Leads.both h
    cases (Leads.word hword).2
    obtain ⟨e, hword, h⟩ := Leads.both h
    cases (Leads.word hword).2
    obtain ⟨e, hword, h⟩ := Leads.both h
    cases (Leads.word hword).2
    exact importedNames_leads h
  · obtain ⟨e, hword, h⟩ := Leads.both h
    cases (Leads.word hword).2
    obtain ⟨e, hname, -⟩ := Leads.both h
    exact absurd hname (not_importedModule_leads hmodule)

end Imports

/-! ## The statements of a text -/

/-- An import of a text: where it begins, where it ends, and what is written between. -/
structure ImportSite (ts : List Token) (written : String) (c d : Cursor) : Prop where
  reached : (Cursor.mk 0 (ts.map Token.symbol)).Reaches c
  read : run importing c = some d
  written : written = (Spelling.ofTokens ts.toArray).between c d

/-- Statements read between two cursors, with their imports. -/
structure ImportsBetween (sp : Spelling) (c : Cursor) (statements : List Statement) (d : Cursor) :
    Prop where
  reaches : c.Reaches d
  sites : ∀ written, .importing written ∈ statements → ∃ site stop,
    c.Reaches site ∧ run importing site = some stop ∧ written = sp.between site stop

theorem ImportsBetween.of_none {sp : Spelling} {c d : Cursor} {statements : List Statement}
    (hreach : c.Reaches d) (h : ∀ written, .importing written ∉ statements) :
    ImportsBetween sp c statements d :=
  ⟨hreach, fun written hmem => absurd hmem (h written)⟩

/-- The imports among statements are read where the statements are. -/
theorem imports_invariant (sp : Spelling) : ReadingInvariant sp (ImportsBetween sp) where
  skip h := .of_none h (by simp)
  later hcd h := by
    refine ⟨hcd.trans h.reaches, fun written hmem => ?_⟩
    obtain ⟨site, stop, hsite, hread⟩ := h.sites written hmem
    exact ⟨site, stop, hcd.trans hsite, hread⟩
  append h hmore := by
    refine ⟨h.reaches.trans hmore.reaches, fun written hmem => ?_⟩
    rcases List.mem_append.mp hmem with hmem | hmem
    · exact h.sites written hmem
    · obtain ⟨site, stop, hsite, hread⟩ := hmore.sites written hmem
      exact ⟨site, stop, h.reaches.trans hsite, hread⟩
  other h := .of_none h.reaches (by simp)
  simple {c d s} h := by
    refine ⟨simpleStatement_reaches h, fun written hmem => ?_⟩
    obtain rfl := List.mem_singleton.mp hmem
    unfold simpleStatement at h
    split at h
    · obtain ⟨stop, hrun, h⟩ := Option.bind_eq_some_iff.mp h
      split at h
      · cases h
        exact ⟨c, d, .refl c, hrun, rfl⟩
      · cases h
    · -- no other simple statement imports anything
      obtain ⟨form, -, hform⟩ := List.exists_of_findSome?_eq_some h
      split at hform
      · split at hform <;> cases hform
      · cases hform
  function hhead hbody := .of_none ((functionHead_reaches hhead).trans hbody.reaches) (by simp)
  classDef {_ c _ _ _ _} hhead hbody :=
    .of_none (((Cursor.Reaches.next c).trans (classHead_standsAt hhead).2).trans hbody.reaches)
      (by simp)

/-- Every import of a text is read at a place in it. -/
theorem exists_importSite {ts : List Token} {written : String}
    (h : .importing written ∈ (readStatements ts).statements) :
    ∃ c d, ImportSite ts written c d := by
  have hbetween : (readStatements ts).Keeps (ImportsBetween (.ofTokens ts.toArray))
      ⟨0, ts.map Token.symbol⟩ := (imports_invariant _).readStatements
  obtain ⟨c, d, hreach, hread, hwritten⟩ := hbetween.sites written h
  exact ⟨c, d, hreach, hread, hwritten⟩

/-! ## The text of an import from `__future__` -/

/-- A text that begins with the words of an import from `__future__`, with gaps between them. -/
structure FutureText (cs first second rest : List Char) : Prop where
  text : cs = "from".toList ++ (first ++ ("__future__".toList ++ (second ++
    ("import".toList ++ rest))))
  gapFrom : Gap first
  gapModule : Gap second
  endsFrom : EndsWord (first ++ "__future__".toList)
  endsModule : EndsWord (second ++ "import".toList)
  endsImport : EndsWord rest

theorem EndsWord.append {cs : List Char} (h : EndsWord cs) (hne : cs ≠ []) (ds : List Char) :
    EndsWord (cs ++ ds) := by
  obtain ⟨c, cs, rfl⟩ := List.exists_cons_of_ne_nil hne
  exact h

/-- Nothing stands in a gap before a character that no layout begins with. -/
theorem Gap.eq_nil_of_append {gap rest cs : List Char} {c : Char} (h : Gap gap)
    (hblank : isLayoutBlank c = false) (hremark : c ≠ '#') (hslash : c ≠ '\\')
    (heq : gap ++ rest = c :: cs) : gap = [] := by
  cases h with
  | nil => rfl
  | blank hb =>
    rw [(List.cons.inj heq).1, hblank] at hb
    cases hb
  | remark => exact absurd (List.cons.inj heq).1.symm hremark
  | joined => exact absurd (List.cons.inj heq).1.symm hslash
  | joinedReturn => exact absurd (List.cons.inj heq).1.symm hslash

theorem Gap.blank_of_append {gap rest cs : List Char} (h : Gap gap) (hne : rest.head? ≠ some ' ')
    (heq : gap ++ rest = ' ' :: cs) : ∃ gap', gap = ' ' :: gap' ∧ Gap gap' ∧ gap' ++ rest = cs := by
  cases h with
  | nil => exact absurd (congrArg List.head? heq) hne
  | @blank c gap' hb after =>
    obtain ⟨hc, hrest⟩ := List.cons.inj heq
    exact ⟨gap', by rw [hc], after, hrest⟩
  | remark => exact absurd (List.cons.inj heq).1 (by decide)
  | joined => exact absurd (List.cons.inj heq).1 (by decide)
  | joinedReturn => exact absurd (List.cons.inj heq).1 (by decide)

namespace FutureText

variable {cs first second rest : List Char} (h : FutureText cs first second rest)

include h

theorem atFutureImport :
    (Cursor.mk 0 ((tokens (cs.map .char)).map Token.symbol)).atFutureImport = true := by
  obtain ⟨hfrom, hmodule, himport⟩ := standsAlone_words
  have hends :
      EndsWord (first ++ ("__future__".toList ++ (second ++ ("import".toList ++ rest)))) := by
    rw [← List.append_assoc]
    exact h.endsFrom.append (by simp) _
  have hends' : EndsWord (second ++ ("import".toList ++ rest)) := by
    rw [← List.append_assoc]
    exact h.endsModule.append (by simp) _
  unfold tokens
  rw [look_char, List.length_map, h.text]
  obtain ⟨t, r, d, p, ht, hr, hread⟩ :=
    readTokens_word .nil hfrom hends (Nat.le_refl _) [] 0 ⟨1, 1⟩
  obtain ⟨u, r', d', p', hu, hr', hread'⟩ := readTokens_word h.gapFrom hmodule hends' hr [] d p
  obtain ⟨v, r'', d'', p'', hv, -, hread''⟩ :=
    readTokens_word h.gapModule himport h.endsImport hr' [] d' p'
  rw [List.nil_append] at hread
  rw [hread, hread', hread'']
  simp [Cursor.atFutureImport, Cursor.atWord, Cursor.next, Cursor.head?, ht, hu, hv]

/-- The text shows that it asks for a feature if one blank stands before the module and one follows
it. -/
theorem startsWith_iff :
    Text.startsWith (String.ofList cs) "from __future__ " = true ↔
      first = [' '] ∧ second.head? = some ' ' := by
  have hbegins : "from __future__ ".toList =
      "from".toList ++ (' ' :: ("__future__".toList ++ [' '])) := by
    decide
  have hcs : (String.ofList cs).toList = cs := String.toList_ofList
  unfold Text.startsWith
  rw [hbegins, hcs, List.isPrefixOf_iff_prefix, h.text, List.prefix_append_right_inj]
  constructor
  · rintro ⟨tail, htail⟩
    obtain ⟨gap, rfl, hgap, hrest⟩ := h.gapFrom.blank_of_append (by simp) htail.symm
    replace hrest := hrest.trans (List.append_assoc _ _ _)
    have hnone : gap = [] :=
      hgap.eq_nil_of_append (by decide) (by decide) (by decide) (show _ = '_' :: _ from hrest)
    rw [hnone, List.nil_append] at hrest
    obtain ⟨gap', rfl, -⟩ :=
      h.gapModule.blank_of_append (by simp) (List.append_cancel_left hrest)
    exact ⟨by rw [hnone], rfl⟩
  · rintro ⟨rfl, hsecond⟩
    obtain ⟨tail, rfl⟩ := List.head?_eq_some_iff.mp hsecond
    exact ⟨tail ++ ("import".toList ++ rest), by simp⟩

end FutureText

theorem Cursor.Reaches.rest_eq {c : Cursor} {ts : List Token}
    (h : (Cursor.mk 0 (ts.map Token.symbol)).Reaches c) :
    c.rest = (ts.drop c.index).map Token.symbol := by
  obtain ⟨n, hindex, hrest⟩ := h
  rw [hrest, hindex, List.map_drop, Nat.zero_add]

/-- A cursor among the symbols of tokens stands at one of the tokens. -/
theorem Cursor.exists_token {c : Cursor} {ts : List Token} (hc : c.rest = ts.map Token.symbol)
    {symbol : Symbol} (h : c.head? = some symbol) :
    ∃ t us, ts = t :: us ∧ t.symbol = symbol ∧ c.next.rest = us.map Token.symbol := by
  unfold Cursor.head? at h
  rw [hc] at h
  cases ts with
  | nil => cases h
  | cons t us =>
    refine ⟨t, us, rfl, Option.some.inj h, ?_⟩
    rw [Cursor.next, hc]
    rfl

theorem shown_spell (t : Token) (ts : List Token) :
    Text.shown (spell (t :: ts)) =
      Text.shown t.text ++ ts.flatMap fun u => u.gap ++ Text.shown u.text := by
  rw [spell, shown_append]
  congr 1
  induction ts with
  | nil => rfl
  | cons u ts ih => rw [List.flatMap_cons, List.flatMap_cons, shown_append, shown_append, ih]; rfl

/-- What is written of an import, by the tokens from its first one on. -/
theorem ImportSite.toList_written {ts us : List Token} {t : Token} {written : String}
    {c d : Cursor} (h : ImportSite ts written c d) (hts : ts.drop c.index = t :: us) {n : Nat}
    (hn : d.index = c.index + (n + 1)) :
    written.toList =
      Text.shown t.text ++ (us.take n).flatMap fun u => u.gap ++ Text.shown u.text := by
  have htext : written = Extent.text ts.toArray ⟨c.index, d.index⟩ := h.written
  have hextract : (ts.toArray.extract c.index d.index).toList = t :: us.take n := by
    rw [hn, List.extract_toArray, List.extract_eq_take_drop, Nat.add_sub_cancel_left, hts]
    rfl
  rw [htext, Extent.text, String.toList_ofList, hextract, shown_spell]

/-- The beginning of what a token spells is neither blank nor a stray byte. -/
theorem Lexeme.Spells.chars {gs : List Text.Glyph} {symbol : Symbol} {s : String}
    (hmem : symbol ∈ (tokens gs).map Token.symbol)
    (h : symbol.lexeme = .name s ∨ s = "(") :
    Char.ofNat 0 ∉ s.toList ∧
      ∃ first rest, s.toList = first :: rest ∧ Text.isBlank first = false := by
  rcases h with hname | rfl
  · have hidentifier := isIdentifier_of_mem_tokens hmem hname
    refine ⟨Text.not_mem_of_isIdentifier (by decide) (by decide) hidentifier, ?_⟩
    have hne := Text.ne_empty_of_isIdentifier hidentifier
    obtain ⟨first, rest, hs⟩ := List.exists_cons_of_ne_nil (show s.toList ≠ [] by simpa using hne)
    refine ⟨first, rest, hs, ?_⟩
    exact Text.not_isBlank_of_isIdentifier hidentifier first (by rw [hs]; exact List.mem_cons_self)
  · exact ⟨by decide, '(', [], rfl, by decide⟩

/-- The first four tokens of an import from `__future__` as they are written, with the gaps between
them, where the last one begins what is imported. -/
structure FutureWords (t u v w : Token) (begin : Char) (others : List Char) : Prop where
  first : Text.shown t.text = "from".toList
  gapFrom : Gap u.gap
  second : Text.shown u.text = "__future__".toList
  endsFrom : EndsWord (u.gap ++ "__future__".toList)
  gapModule : Gap v.gap
  third : Text.shown v.text = "import".toList
  endsModule : EndsWord (v.gap ++ "import".toList)
  fourth : Text.shown w.text = begin :: others
  visible : Text.isBlank begin = false
  endsImport : EndsWord (w.gap ++ begin :: others)

theorem ImportSite.exists_words {gs : List Text.Glyph} {written : String} {c d : Cursor}
    (h : ImportSite (tokens gs) written c d) (hfuture : c.atFutureImport = true) :
    ∃ t u v w more begin others, (tokens gs).drop c.index = t :: u :: v :: w :: more ∧
      FutureWords t u v w begin others ∧ c.index + 4 ≤ d.index := by
  obtain ⟨symbol, s, hsymbol, hspells, hform, hreach⟩ :=
    importing_of_atFutureImport ⟨_, h.read⟩ hfuture
  unfold Cursor.atFutureImport at hfuture
  simp only [Bool.and_eq_true] at hfuture
  obtain ⟨⟨hfrom, hmodule⟩, himport⟩ := hfuture
  -- the four tokens at the cursor
  have hrest := h.reached.rest_eq
  obtain ⟨_, hfirst, hfrom⟩ := Cursor.lexeme_of_atWord hfrom
  obtain ⟨t, us, hts, rfl, hrest⟩ := Cursor.exists_token hrest hfirst
  obtain ⟨_, hsecond, hmodule⟩ := Cursor.lexeme_of_atWord hmodule
  obtain ⟨u, vs, rfl, rfl, hrest⟩ := Cursor.exists_token hrest hsecond
  obtain ⟨_, hthird, himport⟩ := Cursor.lexeme_of_atWord himport
  obtain ⟨v, ws, rfl, rfl, hrest⟩ := Cursor.exists_token hrest hthird
  obtain ⟨w, more, rfl, rfl, -⟩ := Cursor.exists_token hrest hsymbol
  have hmem : w.symbol ∈ (tokens gs).map Token.symbol := by
    apply List.mem_map_of_mem
    apply List.mem_of_mem_drop (i := c.index)
    rw [hts]
    simp
  obtain ⟨hnul, begin, others, hs, hblank⟩ := Lexeme.Spells.chars hmem hform
  -- what they spell, and the gaps between them
  obtain ⟨_, _, _, gs₀, hdrop⟩ := drop_readTokens gs.length 0 ⟨1, 1⟩ gs c.index
  rw [show readTokens gs.length [] 0 ⟨1, 1⟩ gs (gs.map look) = tokens gs from rfl, hts] at hdrop
  have hspellsFrom : t.symbol.lexeme.Spells "from" := hfrom ▸ Lexeme.Spells.name "from"
  have hspellsModule : u.symbol.lexeme.Spells "__future__" :=
    hmodule ▸ Lexeme.Spells.name "__future__"
  have hspellsImport : v.symbol.lexeme.Spells "import" := himport ▸ Lexeme.Spells.name "import"
  obtain ⟨-, htextFrom, -, _, _, _, _, hus, hends⟩ :=
    text_of_readTokens hdrop.symm hspellsFrom (by decide)
  obtain ⟨hgap, htextModule, hendsModule, _, _, _, _, hvs, hends₁⟩ :=
    text_of_readTokens hus.symm hspellsModule (by decide)
  obtain ⟨hgap₁, htextImport, hendsImport, _, _, _, _, hws, hends₂⟩ :=
    text_of_readTokens hvs.symm hspellsImport (by decide)
  obtain ⟨-, htextLast, hendsLast, -⟩ := text_of_readTokens hws.symm hspells hnul
  rw [hs] at htextLast hendsLast
  exact ⟨t, u, v, w, more, begin, others, hts,
    { first := htextFrom
      gapFrom := hgap
      second := htextModule
      endsFrom := hendsModule (hends hfrom)
      gapModule := hgap₁
      third := htextImport
      endsModule := hendsImport (hends₁ hmodule)
      fourth := htextLast
      visible := hblank
      endsImport := hendsLast (hends₂ himport) }, hreach.index_le⟩

/-- The text of an import from `__future__` begins with its words, and with the layout that stands
between them in the source. -/
theorem ImportSite.futureText {gs : List Text.Glyph} {written : String} {c d : Cursor}
    (h : ImportSite (tokens gs) written c d) (hfuture : c.atFutureImport = true) :
    ∃ t u v more rest, (tokens gs).drop c.index = t :: u :: v :: more ∧
      FutureText (Text.strip written).toList u.gap v.gap rest := by
  obtain ⟨t, u, v, w, more, begin, others, hts, hwords, hle⟩ := h.exists_words hfuture
  -- the statement is written at least up to the fourth token
  obtain ⟨n, hn⟩ : ∃ n, d.index = c.index + (n + 3 + 1) := ⟨d.index - (c.index + 4), by omega⟩
  obtain ⟨tail, hwritten⟩ : ∃ tail, written.toList = 'f' :: ("rom".toList ++ (u.gap ++
      ("__future__".toList ++ (v.gap ++ ("import".toList ++ w.gap))))) ++ [begin] ++
        (others ++ tail) := by
    refine ⟨(more.take n).flatMap fun u => u.gap ++ Text.shown u.text, ?_⟩
    rw [h.toList_written hts hn, List.take_succ_cons, List.take_succ_cons, List.take_succ_cons,
      List.flatMap_cons, List.flatMap_cons, List.flatMap_cons, hwords.first, hwords.second,
      hwords.third, hwords.fourth]
    simp
  -- stripping takes no more than an end of what the fourth token begins with
  obtain ⟨kept, -, hkept⟩ := Text.trim_append_of_ends
    ("rom".toList ++ (u.gap ++ ("__future__".toList ++ (v.gap ++ ("import".toList ++ w.gap)))))
    (others ++ tail) (show Text.isBlank 'f' = false by decide) hwords.visible
  refine ⟨t, u, v, w :: more, w.gap ++ begin :: kept, hts,
    { text := ?_
      gapFrom := hwords.gapFrom
      gapModule := hwords.gapModule
      endsFrom := hwords.endsFrom
      endsModule := hwords.endsModule
      endsImport := ?_ }⟩
  · rw [Text.strip, String.toList_ofList, hwritten, hkept]
    simp
  · intro c hc
    apply hwords.endsImport c
    cases hgap : w.gap with
    | nil => simpa [hgap] using hc
    | cons g gap => simpa [hgap] using hc

end SpanWeave.Source
