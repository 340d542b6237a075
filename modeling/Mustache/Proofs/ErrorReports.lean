-- SUMMARY: A reported error names the first tag that cannot be read, and what is wrong with it.
import Mustache.Proofs.Delivery
import Mustache.Proofs.FaultTable
import Mustache.Proofs.InForce

/-!
# Error reports

A scan fails at the first tag that cannot be read. What stands in front of the tag is a
template on its own, of which the scan delivers the same tokens and then completes. The
error covers the tag, markers included, and its fault is the first one in order: the tag
has no closing marker, or the table of faults says what is wrong with its inner text.
-/

namespace Mustache

/-- The pieces of a reading are read again in the text that they cover. -/
theorem Reads.reads_sources {d : Delimiters} {text : String} {ps : List Piece} {e : Ending}
    (h : Reads d text ps e) : Reads d (Piece.sources ps) ps .finished := by
  induction h with
  | ends _ => exact .ends .finished
  | @step d d' text behind p ps e hstep hrest ih =>
    rw [Piece.sources_cons]
    cases hstep with
    | rest hne hnone =>
      obtain ⟨rfl, -⟩ := hrest.eq_of_empty
      rw [Piece.source_ofText, Piece.sources_nil, String.append_empty]
      exact .step (.rest hne hnone) ih
    | @text before inside hne hfirst =>
      rw [Piece.source_ofText]
      cases ps with
      | nil =>
        -- The marker that ended the text is gone, so that the text is the rest.
        rw [Piece.sources_nil, String.append_empty]
        exact .step (.rest hne (hfirst.not_occurs d.opening_ne)) (.ends .finished)
      | cons q qs =>
        have htag : ∃ inside', Piece.sources (q :: qs) = d.opening ++ inside' := by
          cases hrest with
          | step hnext _ =>
            obtain ⟨inner, kind, rfl, -⟩ := hnext.exists_of_opening
            simp only [Piece.sources_cons, Piece.source, String.append_assoc]
            exact ⟨_, rfl⟩
        obtain ⟨inside', hinside⟩ := htag
        rw [hinside] at ih ⊢
        exact .step (.text hne hfirst) ih
    | @tag _ inner _ kind hfirst hread =>
      have htag := @Steps.tag d _ _ (Piece.sources ps) _ hfirst hread
      simp only [Piece.source, String.append_assoc] at htag ⊢
      exact .step htag ih

/-- The text with which a reading fails begins with the tag that fails. -/
theorem Ends.exists_of_failed {d : Delimiters} {text tag : String} {fault : Fault}
    (h : Ends d text (.failed fault tag)) :
    ∃ inside behind, text = d.opening ++ inside ∧ text = tag ++ behind ∧
      (¬ Marker.Occurs (d.closer inside) inside ∧ behind = "" ∧ fault = .unclosedTag ∨
        ∃ inner, tag = d.opening ++ inner ++ d.closer inside ∧ d.Closes inside inner behind ∧
          Tag.Faulty d inner fault) := by
  cases h with
  | @unclosed inside hnone => exact ⟨inside, "", rfl, by simp, .inl ⟨hnone, rfl, rfl⟩⟩
  | @faulty inside inner behind _ hcloses hread =>
    exact ⟨inside, behind, rfl, hcloses.tag_append,
      .inr ⟨inner, rfl, hcloses, Tag.read_eq_error_iff.mp hread⟩⟩

/-- What a reported error says is true of the template, under the delimiters that the
    delivered tokens put in force. The text in front of the tag is scanned to its end, with
    the same tokens. The tag goes up to the end of the template, or up to the first closing
    marker, and then its fault is the one of the table. -/
theorem error_of_reportedErrors {σ : Type} {d : Delimiters} {text : String} {id : TemplateId}
    {k : Consumer σ} {acc : σ} {e : SyntaxError} (fits : text.utf8ByteSize < UInt32.size)
    (h : e ∈ reportedErrors d text id k acc) :
    let ts := deliveredTokens d text id k acc
    let d' := d.inForce text ts
    ∃ before tag behind inside : String,
      text = before ++ (tag ++ behind) ∧ tag ++ behind = d'.opening ++ inside ∧
      e.span.start.toNat = before.utf8ByteSize ∧
      e.span.stop.toNat = before.utf8ByteSize + tag.utf8ByteSize ∧ e.span.slice text = tag ∧
      (scan d before id k acc).1 = .completed ∧ scanCalls d before id k acc = ts.map .token ∧
      (¬ Marker.Occurs (d'.closer inside) inside ∧ behind = "" ∧ e.fault = .unclosedTag ∨
        ∃ inner, tag = d'.opening ++ inner ++ d'.closer inside ∧ d'.Closes inside inner behind ∧
          Tag.Faulty d' inner e.fault) := by
  intro ts d'
  obtain ⟨ps, ending, hreads⟩ := exists_reads d text
  obtain ⟨hagrees, herror⟩ := hreads.agrees_of_reportedErrors fits h
  have hts : ts = Piece.place id 0 1 ps := hreads.deliveredTokens_of_agrees fits hagrees
  cases ending with
  | finished => cases herror
  | failed fault tag =>
    obtain rfl := Option.some.inj herror
    have hbefore := hreads.reads_sources
    rw [← List.append_nil ps] at hreads
    obtain ⟨ahead, hsplit, hahead⟩ := hreads.split_template id fits
    rw [← hts] at hahead
    cases hahead with
    | ends hends =>
      obtain ⟨inside, behind, hinside, rfl, hfault⟩ := hends.exists_of_failed
      have hsize : (Piece.sources ps).utf8ByteSize < UInt32.size := by
        rw [hsplit, String.utf8ByteSize_append] at fits
        omega
      obtain ⟨hcompleted, hcalls⟩ := hbefore.scan_of_agrees hsize hagrees
      refine ⟨Piece.sources ps, tag, behind, inside, hsplit, hinside,
        Span.toNat_start_behind fits hsplit, Span.toNat_stop_behind fits hsplit,
        Span.slice_behind fits hsplit, hcompleted, ?_, hfault⟩
      rw [hcalls, hts]
      exact List.append_nil _

/-- A closed tag of three braces with an opening marker in it, behind a change of the
    delimiters. -/
theorem error_of_reportedErrors_nested :
    let text := "a\x7b\x7b=<| |>=\x7d\x7d\n<|\x7bx <|\x7d|>b"
    let e : SyntaxError := ⟨.unclosedTag, 2, ⟨13, 23⟩, .anonymous⟩
    let ts := deliveredTokens .standard text .anonymous .silent ()
    let d' := Delimiters.standard.inForce text ts
    e ∈ reportedErrors .standard text .anonymous .silent () ∧
      d' = ⟨"<|", "|>", by decide, by decide⟩ ∧ e.span.slice text = "<|\x7bx <|\x7d|>" ∧
      ∃ before tag behind inside : String,
        text = before ++ (tag ++ behind) ∧ tag ++ behind = d'.opening ++ inside ∧
        e.span.start.toNat = before.utf8ByteSize ∧
        e.span.stop.toNat = before.utf8ByteSize + tag.utf8ByteSize ∧ e.span.slice text = tag ∧
        (scan .standard before .anonymous .silent ()).1 = .completed ∧
        scanCalls .standard before .anonymous .silent () = ts.map .token ∧
        (¬ Marker.Occurs (d'.closer inside) inside ∧ behind = "" ∧ e.fault = .unclosedTag ∨
          ∃ inner, tag = d'.opening ++ inner ++ d'.closer inside ∧ d'.Closes inside inner behind ∧
            Tag.Faulty d' inner e.fault) := by
  intro text e ts d'
  have h : e ∈ reportedErrors .standard text .anonymous .silent () := by decide +kernel
  exact ⟨h, by decide +kernel, by decide +kernel, error_of_reportedErrors (by decide +kernel) h⟩

end Mustache
