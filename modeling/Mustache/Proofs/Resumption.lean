-- SUMMARY: A scan goes on from any token as a new scan of what is left of the template.
import Mathlib.Data.List.Forall2
import Mustache.Proofs.Delivery
import Mustache.Proofs.InForce

/-!
# Resumption

A scan can be taken up again at any token, and at the error. All that it carries from one
round to the next is its position, its line and the delimiters in force. A new scan of what
is left of the template, from these delimiters, tells its consumer the same, at places that
are shifted by the bytes and the lines in front (`scanCalls_resume`).

A scan that adds up words could lose the shift. It does not, since all places lie within
the template.
-/

namespace Mustache

/-! ## Shifted calls -/

namespace Call

/-- What a call says, without the place of which it says it. -/
def content : Call → (Token.Kind ⊕ Fault) × TemplateId
  | token t => (.inl t.kind, t.template)
  | error e => (.inr e.fault, e.template)

/-- The second call says the same as the first one, so many bytes and lines further on. -/
structure Shifted (bytes lines : Nat) (c c' : Call) : Prop where
  content : c'.content = c.content
  line : c'.line.toNat = c.line.toNat + lines
  start : c'.span.start.toNat = c.span.start.toNat + bytes
  stop : c'.span.stop.toNat = c.span.stop.toNat + bytes

/-- The call is about so many bytes from the given position and line on. -/
structure Placed (pos line size : Nat) (c : Call) : Prop where
  line : c.line = .ofNat line
  span : c.span = ⟨.ofNat pos, .ofNat (pos + size)⟩

theorem Placed.shifted {bytes lines pos line size : Nat} {c c' : Call}
    (h : c.Placed pos line size) (h' : c'.Placed (pos + bytes) (line + lines) size)
    (hcontent : c'.content = c.content) (hpos : pos + bytes + size < UInt32.size)
    (hline : line + lines < UInt32.size) : c.Shifted bytes lines c' where
  content := hcontent
  line := by
    rw [h'.line, h.line, UInt32.toNat_ofNat_of_lt' hline, UInt32.toNat_ofNat_of_lt' (by omega)]
  start := by
    rw [h'.span, h.span, UInt32.toNat_ofNat_of_lt' (by omega), UInt32.toNat_ofNat_of_lt' (by omega)]
  stop := by
    rw [h'.span, h.span, UInt32.toNat_ofNat_of_lt' hpos, UInt32.toNat_ofNat_of_lt' (by omega)]
    omega

end Call

/-! ## Calls of a reading -/

namespace Piece

theorem calls_cons (id : TemplateId) (pos line : Nat) (p : Piece) (ps : List Piece)
    (e : Ending) :
    calls id pos line (p :: ps) e =
      .token (p.token id pos line) :: calls id (pos + p.size) (line + p.newlines) ps e := by
  rw [calls, calls, place, utf8ByteSize_sources_cons, credit, ← Nat.add_assoc, ← Nat.add_assoc]
  rfl

theorem calls_nil (id : TemplateId) (pos line : Nat) (e : Ending) :
    calls id pos line [] e = (e.error? id pos line).toList.map .error := by
  rw [calls, sources_nil]
  rfl

theorem newlines_le_size (p : Piece) : p.newlines ≤ p.size := by
  have hcount : p.newlines ≤ p.inner.utf8ByteSize := List.count_le_length
  simp only [size, source, String.utf8ByteSize_append]
  omega

/-- No more line feeds are credited than there are bytes. -/
theorem credit_le_utf8ByteSize_sources (ps : List Piece) :
    credit ps ≤ (sources ps).utf8ByteSize := by
  induction ps with
  | nil => exact Nat.zero_le _
  | cons p ps ih =>
    have hp := p.newlines_le_size
    rw [credit, utf8ByteSize_sources_cons]
    omega

/-- Where the calls of a reading are split, the reading is split. -/
theorem exists_of_calls_eq_append {id : TemplateId} {pos line : Nat} {ps : List Piece}
    {e : Ending} {before after : List Call} {c : Call}
    (h : calls id pos line ps e = before ++ c :: after) :
    ∃ qs rs, ps = qs ++ rs ∧ before = (place id pos line qs).map .token ∧
      c :: after = calls id (pos + (sources qs).utf8ByteSize) (line + credit qs) rs e := by
  induction before generalizing pos line ps with
  | nil => exact ⟨[], ps, rfl, rfl, by simpa [credit] using h.symm⟩
  | cons b before ih =>
    cases ps with
    | nil =>
      -- There is at most one error, and nothing behind it.
      rw [calls_nil] at h
      cases herror : e.error? id pos line <;> simp [herror] at h
    | cons p ps =>
      rw [calls_cons, List.cons_append, List.cons.injEq] at h
      obtain ⟨rfl, hrest⟩ := h
      obtain ⟨qs, rs, rfl, rfl, hafter⟩ := ih hrest
      refine ⟨p :: qs, rs, rfl, rfl, ?_⟩
      rw [utf8ByteSize_sources_cons, credit, ← Nat.add_assoc, ← Nat.add_assoc]
      exact hafter

/-- The first call is about the place at which the reading begins. -/
theorem exists_placed_of_calls_eq_cons {id : TemplateId} {pos line : Nat} {ps : List Piece}
    {e : Ending} {c : Call} {cs : List Call} (h : calls id pos line ps e = c :: cs) :
    ∃ size, c.Placed pos line size := by
  cases ps with
  | nil =>
    rw [calls_nil] at h
    cases e with
    | finished => cases h
    | failed fault tag =>
      obtain ⟨rfl, -⟩ := List.cons.inj h
      exact ⟨tag.utf8ByteSize, rfl, rfl⟩
  | cons p ps =>
    rw [calls_cons] at h
    obtain ⟨rfl, -⟩ := List.cons.inj h
    exact ⟨p.size, rfl, rfl⟩

end Piece

/-- A reading tells the same from a place further on. The lines are no concern, since there
    are no more of them than bytes. -/
theorem Reads.forall₂_shifted (id : TemplateId) {bytes lines pos line : Nat} {d : Delimiters}
    {text : String} {ps : List Piece} {e : Ending} (h : Reads d text ps e)
    (hpos : pos + bytes + text.utf8ByteSize < UInt32.size)
    (hline : line + lines ≤ pos + bytes + 1) :
    List.Forall₂ (Call.Shifted bytes lines) (Piece.calls id pos line ps e)
      (Piece.calls id (pos + bytes) (line + lines) ps e) := by
  induction h generalizing pos line with
  | @ends d text e hends =>
    rw [Piece.calls_nil, Piece.calls_nil]
    cases e with
    | finished => exact .nil
    | failed fault tag =>
      obtain ⟨behind, hbehind⟩ := hends.tag_append
      have htag := Text.utf8ByteSize_pos hends.tag_ne
      rw [hbehind, String.utf8ByteSize_append] at hpos
      have hplaced : ∀ pos line, (Call.error ⟨fault, .ofNat line,
          ⟨.ofNat pos, .ofNat (pos + tag.utf8ByteSize)⟩, id⟩).Placed pos line tag.utf8ByteSize :=
        fun _ _ => ⟨rfl, rfl⟩
      exact .cons ((hplaced pos line).shifted (hplaced _ _) rfl (by omega) (by omega)) .nil
  | @step d d' text behind p ps e hstep _ ih =>
    have hsize := congrArg String.utf8ByteSize hstep.source_append
    rw [String.utf8ByteSize_append] at hsize
    have hpiece : 0 < p.size := Text.utf8ByteSize_pos hstep.source_ne
    have hnewlines := p.newlines_le_size
    have hp : p.source.utf8ByteSize = p.size := rfl
    have hplaced : ∀ pos line, (Call.token (p.token id pos line)).Placed pos line p.size :=
      fun _ _ => ⟨rfl, rfl⟩
    rw [Piece.calls_cons, Piece.calls_cons, Nat.add_right_comm pos bytes,
      Nat.add_right_comm line lines]
    exact .cons ((hplaced pos line).shifted (hplaced _ _) rfl (by omega) (by omega))
      (ih (by omega) (by omega))

/-! ## Scans -/

/-- A scan that begins at a token, or at the error, tells the rest of what the whole scan
    tells, for consumers that never stop. -/
theorem scanCalls_resume {σ τ : Type} {k : Consumer σ} {l : Consumer τ} (hk : k.Patient)
    (hl : l.Patient) {acc : σ} (acc' : τ) {d : Delimiters} {text : String} {id : TemplateId}
    {before after : List Call} {c : Call}
    (h : scanCalls d text id k acc = before ++ c :: after) :
    let d' := d.inForce text (before.filterMap Call.token?)
    ∃ rest, Text.bytes rest = (Text.bytes text).drop c.span.start.toNat ∧
      (scan d' rest id l acc').1 = (scan d text id k acc).1 ∧
      List.Forall₂ (Call.Shifted c.span.start.toNat (c.line.toNat - 1))
        (scanCalls d' rest id l acc') (c :: after) := by
  intro d'
  by_cases fits : text.utf8ByteSize < UInt32.size
  · obtain ⟨ps, e, hreads⟩ := exists_reads d text
    obtain ⟨houtcome, hcalls⟩ := hreads.scan_of_agrees fits (hk.agrees (Piece.place id 0 1 ps) acc)
    rw [hcalls] at h
    obtain ⟨qs, rs, rfl, rfl, hafter⟩ := Piece.exists_of_calls_eq_append h
    obtain ⟨rest, hsplit, hrest⟩ := hreads.split_template id fits
    have hd' : d' = d.inForce text (Piece.place id 0 1 qs) := by
      have htokens := Call.filterMap_token?_calls (Piece.place id 0 1 qs) []
      rw [List.map_nil, List.append_nil] at htokens
      exact congrArg (d.inForce text) htokens
    rw [← hd'] at hrest
    have hsize : text.utf8ByteSize = _ := congrArg String.utf8ByteSize hsplit
    rw [String.utf8ByteSize_append] at hsize
    have hcredit := Piece.credit_le_utf8ByteSize_sources qs
    have hshifted : List.Forall₂ (Call.Shifted (Piece.sources qs).utf8ByteSize (Piece.credit qs))
        (Piece.calls id 0 1 rs e) (c :: after) := by
      rw [hafter]
      exact hrest.forall₂_shifted id (by omega) (by omega)
    have hplace : c.span.start.toNat = (Piece.sources qs).utf8ByteSize ∧
        c.line.toNat = 1 + Piece.credit qs := by
      generalize hcalls : Piece.calls id 0 1 rs e = calls at hshifted
      cases hshifted with
      | cons hfirst _ =>
        obtain ⟨size, hplaced⟩ := Piece.exists_placed_of_calls_eq_cons hcalls
        rw [hfirst.start, hfirst.line, hplaced.span, hplaced.line]
        exact ⟨Nat.zero_add _, rfl⟩
    obtain ⟨hstart, hline⟩ := hplace
    obtain ⟨houtcome', hcalls'⟩ :=
      hrest.scan_of_agrees (by omega) (hl.agrees (Piece.place id 0 1 rs) acc')
    refine ⟨rest, ?_, houtcome'.trans houtcome.symm, ?_⟩
    · rw [hstart, hsplit, Text.drop_bytes_append]
    · rw [hcalls', hstart, hline, Nat.add_sub_cancel_left]
      exact hshifted
  · -- The error of a text that is too long is told at the beginning, of the text as a whole.
    rw [scanCalls_of_not_fits fits] at h
    cases before with
    | cons => simp at h
    | nil =>
      obtain ⟨rfl, rfl⟩ := List.cons.inj h
      refine ⟨text, rfl, ?_, ?_⟩
      · rw [outcome_of_not_fits fits, outcome_of_not_fits fits]
      · rw [scanCalls_of_not_fits fits]
        exact .cons ⟨rfl, rfl, rfl, rfl⟩ .nil

/-- A token behind a change of the delimiters, on the third line. -/
theorem scanCalls_resume_line :
    let text := "a\n\x7b\x7b=| |=\x7d\x7db\n|\nx|\n|"
    let d' : Delimiters := ⟨"|", "|", by decide, by decide⟩
    let before : List Call :=
      [.token ⟨.text "a\n", 1, ⟨0, 2⟩, .anonymous⟩,
        .token ⟨.delimiterChange, 2, ⟨2, 11⟩, .anonymous⟩,
        .token ⟨.text "b\n", 2, ⟨11, 13⟩, .anonymous⟩]
    let c : Call :=
      .token ⟨.lookup .escaped (.names false ⟨"x", by decide⟩ []), 3, ⟨13, 17⟩, .anonymous⟩
    let after : List Call :=
      [.token ⟨.text "\n", 4, ⟨17, 18⟩, .anonymous⟩,
        .error ⟨.unclosedTag, 5, ⟨18, 19⟩, .anonymous⟩]
    scanCalls .standard text .anonymous .silent () = before ++ c :: after ∧
      Delimiters.standard.inForce text (before.filterMap Call.token?) = d' ∧
      ∃ rest, Text.bytes rest = (Text.bytes text).drop 13 ∧
        (scan d' rest .anonymous .silent ()).1 = (scan .standard text .anonymous .silent ()).1 ∧
        List.Forall₂ (Call.Shifted 13 2) (scanCalls d' rest .anonymous .silent ())
          (c :: after) := by
  intro text d' before c after
  have h : scanCalls .standard text .anonymous .silent () = before ++ c :: after := by
    decide +kernel
  have hd' : Delimiters.standard.inForce text (before.filterMap Call.token?) = d' := by
    decide +kernel
  have hresume := scanCalls_resume Consumer.patient_silent Consumer.patient_silent () h
  rw [hd'] at hresume
  exact ⟨h, hd', hresume⟩

end Mustache
