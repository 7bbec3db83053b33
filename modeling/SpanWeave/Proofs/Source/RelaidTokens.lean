import Mathlib.Data.List.Forall2
import SpanWeave.Proofs.Source.TokenTexts

/-!
# The same tokens in another layout

Layout that is inserted between tokens in brackets leaves the tokens as they are. The grammar sees
as little of it: a token in brackets opens no line, so only the line continuations before it can be
more than before.
-/

set_option autoImplicit false

namespace SpanWeave.Source

/-- The same tokens, where the second ones have more layout before those that stand in brackets;
`depth` brackets are open before the first token. -/
def Relaid : Nat → List Token → List Token → Prop
  | _, [], [] => True
  | depth, t :: ts, u :: us =>
    u.symbol.lexeme = t.symbol.lexeme ∧ u.text = t.text ∧ t.lead.Sublist u.lead ∧
      (depth = 0 → u.lead = t.lead) ∧ Relaid (depthAfter depth t.symbol.lexeme) ts us
  | _, _, _ => False

instance decidableRelaid : ∀ depth ts us, Decidable (Relaid depth ts us)
  | _, [], [] => inferInstanceAs (Decidable True)
  | depth, t :: ts, _ :: us =>
    have := decidableRelaid (depthAfter depth t.symbol.lexeme) ts us
    inferInstanceAs (Decidable (_ ∧ _ ∧ _ ∧ _ ∧ _))
  | _, [], _ :: _ => inferInstanceAs (Decidable False)
  | _, _ :: _, [] => inferInstanceAs (Decidable False)

/-- What is written of a line continuation. -/
def IsJoin (written : String) : Prop := ∃ rest, written.toList = '\\' :: rest

/-- Symbols that the grammar tells apart by the line continuations before them only, of which the
second one has at least those of the first one. -/
structure Symbol.Alike (s u : Symbol) : Prop where
  lexeme : u.lexeme = s.lexeme
  opens : u.opens = s.opens
  joins : s.joins.Sublist u.joins
  written : ∀ w ∈ u.joins, IsJoin w

/-- Whether symbols say what the layout before their tokens does. -/
def Laid : Nat → List Token → Prop
  | _, [] => True
  | depth, t :: ts =>
    t.symbol.opens = (if depth = 0 then indentation? t.lead else none) ∧
      t.symbol.joins = continuations t.lead ∧ (∀ l ∈ t.lead, l.Proper) ∧
        Laid (depthAfter depth t.symbol.lexeme) ts

theorem readTokens_laid {rounds depth : Nat} {lead : List Layout} (hlead : ∀ l ∈ lead, l.Proper)
    {here : Position} {gs : List Text.Glyph} :
    Laid depth (readTokens rounds lead depth here gs (gs.map look)) := by
  induction rounds generalizing lead depth here gs with
  | zero => trivial
  | succ rounds ih =>
    unfold readTokens
    split
    · trivial
    · split
      · rename_i l n hlayout
        rw [← List.map_drop]
        exact ih (List.forall_mem_cons.mpr ⟨(layout?_eq_some hlayout).2, hlead⟩)
      · dsimp only
        rw [← List.map_drop]
        refine ⟨rfl, rfl, ?_, ih (List.forall_mem_nil _)⟩
        simpa using hlead

/-- A line continuation is written with a backslash first. -/
theorem isJoin_of_mem_continuations {lead : List Layout} (hlead : ∀ l ∈ lead, l.Proper) {w : String}
    (hw : w ∈ continuations lead) : IsJoin w := by
  obtain ⟨l, hl, hw⟩ := List.mem_filterMap.mp hw
  have hproper := hlead l hl
  cases hproper with
  | continuation hslash gs =>
    cases hw
    refine ⟨Text.shown gs, ?_⟩
    rw [String.toList_ofList, eq_char_of_look hslash (by decide)]
    rfl
  | _ => cases hw

/-- Tokens in another layout have symbols alike. -/
theorem Relaid.symbols {depth : Nat} {ts us : List Token} (h : Relaid depth ts us)
    (hts : Laid depth ts) (hus : Laid depth us) :
    List.Forall₂ Symbol.Alike (ts.map Token.symbol) (us.map Token.symbol) := by
  induction ts generalizing depth us with
  | nil =>
    cases us with
    | nil => exact .nil
    | cons u us => cases h
  | cons t ts ih =>
    cases us with
    | nil => cases h
    | cons u us =>
      obtain ⟨hlexeme, -, hlead, houtside, hrest⟩ := h
      obtain ⟨htopens, htjoins, -, hts⟩ := hts
      obtain ⟨huopens, hujoins, hproper, hus⟩ := hus
      refine .cons ⟨hlexeme, ?_, ?_, ?_⟩ (ih hrest hts (hlexeme ▸ hus))
      · rw [huopens, htopens]
        split
        · rename_i hdepth
          rw [houtside hdepth]
        · rfl
      · rw [htjoins, hujoins]
        exact hlead.filterMap _
      · rw [hujoins]
        exact fun w hw => isJoin_of_mem_continuations hproper hw

/-- The symbols of two texts are alike if one has the tokens of the other in another layout. -/
theorem Relaid.tokens {gs hs : List Text.Glyph} (h : Relaid 0 (tokens gs) (tokens hs)) :
    List.Forall₂ Symbol.Alike ((tokens gs).map Token.symbol) ((tokens hs).map Token.symbol) :=
  h.symbols (readTokens_laid (List.forall_mem_nil _)) (readTokens_laid (List.forall_mem_nil _))

end SpanWeave.Source
