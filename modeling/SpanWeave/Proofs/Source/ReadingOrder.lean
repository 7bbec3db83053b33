import SpanWeave.Proofs.Source.CursorReach
import SpanWeave.Proofs.Source.TokenPositions

/-!
# Definitions one behind the other

What is defined between two cursors is read from the first one on, each definition behind the one
before it. As tokens start one strictly after the other, so do the definitions.
-/

set_option autoImplicit false

namespace SpanWeave.Source

/-- Definitions that begin between two cursors, one behind the other, given by where they start. -/
inductive StartsBetween (sp : Spelling) : Cursor → List Position → Cursor → Prop
  | none {c d : Cursor} (reaches : c.Reaches d) : StartsBetween sp c [] d
  | one {c site behind d : Cursor} {starts : List Position} (before : c.Reaches site)
    (occupied : site.rest ≠ []) (body : site.next.Reaches behind)
    (after : StartsBetween sp behind starts d) :
    StartsBetween sp c (sp.start site.index :: starts) d

/-- A cursor among the symbols of tokens that something follows stands at a token. -/
theorem Cursor.Reaches.index_lt {ts : List Token} {c : Cursor}
    (h : Cursor.Reaches ⟨0, ts.map Token.symbol⟩ c) (hoccupied : c.rest ≠ []) :
    c.index < ts.length := by
  obtain ⟨n, hindex, hrest⟩ := h
  rw [hrest] at hoccupied
  simp only [Nat.zero_add] at hindex
  rw [hindex]
  simpa using hoccupied

namespace StartsBetween

variable {sp : Spelling} {c d e : Cursor} {starts more : List Position}

/-- The definitions may be looked for from an earlier cursor on. -/
theorem of_reaches (hcd : c.Reaches d) (h : StartsBetween sp d starts e) :
    StartsBetween sp c starts e := by
  cases h with
  | none hde => exact .none (hcd.trans hde)
  | one before occupied body after => exact .one (hcd.trans before) occupied body after

/-- The definitions of two stretches one behind the other are those of the whole stretch. -/
theorem append (h : StartsBetween sp c starts d) (hmore : StartsBetween sp d more e) :
    StartsBetween sp c (starts ++ more) e := by
  induction h with
  | none hcd => exact hmore.of_reaches hcd
  | one before occupied body _ ih => exact .one before occupied body (ih hmore)

theorem reaches (h : StartsBetween sp c starts d) : c.Reaches d := by
  induction h with
  | none hcd => exact hcd
  | one before _ body _ ih => exact (before.trans_next.trans body).trans ih

/-- Among tokens that start one strictly after the other, so do the definitions. -/
theorem ordered {ts : List Token} (hordered : ts.Pairwise fun t u => t.start.Before u.start)
    (hc : Cursor.Reaches ⟨0, ts.map Token.symbol⟩ c)
    (h : StartsBetween (.ofTokens ts.toArray) c starts d) :
    (∀ p ∈ starts, ∃ i, ∃ hi : i < ts.length, c.index ≤ i ∧ p = ts[i].start) ∧
      starts.Pairwise Position.Before := by
  induction h with
  | none hcd => exact ⟨fun p hp => absurd hp List.not_mem_nil, List.Pairwise.nil⟩
  | @one c site behind d starts before occupied body after ih =>
    have hsite := hc.trans before
    obtain ⟨hstarts, hlater⟩ := ih (hsite.trans_next.trans body)
    have hi : site.index < ts.length := hsite.index_lt occupied
    have hstart : (Spelling.ofTokens ts.toArray).start site.index = ts[site.index].start :=
      start_ofTokens hi _
    constructor
    · intro p hp
      rcases List.mem_cons.mp hp with rfl | hp
      · exact ⟨site.index, hi, before.index_le, hstart⟩
      · obtain ⟨j, hj, hle, hp⟩ := hstarts p hp
        exact ⟨j, hj, Nat.le_trans (before.trans_next.trans body).index_le hle, hp⟩
    · refine .cons ?_ hlater
      intro p hp
      obtain ⟨j, hj, hle, hp⟩ := hstarts p hp
      have hlt : site.index < j := Nat.lt_of_lt_of_le body.index_le hle
      rw [hstart, hp]
      exact List.pairwise_iff_getElem.mp hordered _ _ hi hj hlt

end StartsBetween

end SpanWeave.Source
