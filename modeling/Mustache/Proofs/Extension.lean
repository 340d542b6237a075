-- SUMMARY: What is scanned already does not depend on what the template goes on with.
import Mustache.Proofs.Delivery
import Mustache.Proofs.InForce

/-!
# Extension

A template that goes on is scanned as before, as far as it was scanned. A marker may arise
across the end of the template, so what ends there may change: literal text at the end
may be longer or shorter, and an unclosed tag may be closed. Everything else stays, and so
does an error at a tag that is closed (`scan_append`).
-/

namespace Mustache

theorem Delimiters.Closes.append {d : Delimiters} {inside inner behind : String}
    (h : d.Closes inside inner behind) (x : String) :
    d.closer (inside ++ x) = d.closer inside ∧ d.Closes (inside ++ x) inner (behind ++ x) := by
  have hne : inside ≠ "" := by
    rw [h.split]
    simp [d.closer_ne]
  have hcloser := d.closer_append hne x
  refine ⟨hcloser, ?_, ?_⟩
  · rw [hcloser]
    calc inside ++ x
      _ = inner ++ d.closer inside ++ behind ++ x := congrArg (· ++ x) h.split
      _ = inner ++ d.closer inside ++ (behind ++ x) := String.append_assoc
  · rw [hcloser]
    exact h.first

/-- A piece stays, unless it is literal text at the end. -/
theorem Steps.append {d d' : Delimiters} {text behind : String} {p : Piece}
    (h : Steps d text p d' behind) (x : String) :
    p.kind.isText = true ∧ behind = "" ∨ Steps d (text ++ x) p d' (behind ++ x) := by
  cases h with
  | rest => exact .inl ⟨rfl, rfl⟩
  | @text before inside hne hfirst =>
    rw [String.append_assoc, String.append_assoc]
    exact .inr (.text hne hfirst)
  | tag hfirst hread =>
    rw [String.append_assoc, String.append_assoc]
    exact .inr (.tag hfirst hread)

/-- A failure stays, unless the tag is not closed. -/
theorem Ends.append {d : Delimiters} {text tag : String} {fault : Fault}
    (h : Ends d text (.failed fault tag)) (x : String) :
    (fault = .unclosedTag ∧
        ∃ inside, text = d.opening ++ inside ∧ ¬ Marker.Occurs (d.closer inside) inside) ∨
      Ends d (text ++ x) (.failed fault tag) := by
  cases h with
  | @unclosed inside hnone => exact .inl ⟨rfl, inside, rfl, hnone⟩
  | faulty hcloses hread =>
    obtain ⟨hcloser, hcloses'⟩ := hcloses.append x
    have hends := Ends.faulty hcloses' hread
    rw [hcloser, ← String.append_assoc] at hends
    exact .inr hends

/-- The first pieces of a reading stay, if the reading is not at its end behind them. -/
theorem Reads.append (id : TemplateId) (line : Nat) {d : Delimiters}
    {template before text behind x : String} {ps qs more : List Piece} {e e' : Ending}
    (fits : template.utf8ByteSize < UInt32.size) (hsplit : template = before ++ text)
    (h : Reads d text (ps ++ qs) e) (hqs : ¬ (qs = [] ∧ e = .finished))
    (hbehind : text = Piece.sources ps ++ behind)
    (hmore : Reads (d.inForce template (Piece.place id before.utf8ByteSize line ps))
      (behind ++ x) more e') :
    Reads d (text ++ x) (ps ++ more) e' := by
  induction ps generalizing d before text line with
  | nil =>
    rw [hbehind, Piece.sources_nil, String.empty_append]
    exact hmore
  | cons p ps ih =>
    cases h with
    | @step _ d' _ next _ _ _ hstep hrest =>
      have hnext : next = Piece.sources ps ++ behind := by
        rw [Piece.sources_cons, String.append_assoc, hstep.source_append] at hbehind
        exact (String.append_right_inj _).mp hbehind
      rw [Delimiters.inForce, Piece.place, List.foldl_cons,
        hstep.behindToken_eq id line fits hsplit] at hmore
      rw [hstep.source_append, ← String.append_assoc] at hsplit
      have hmore' := ih (line + p.newlines) hsplit hrest hnext
      rw [String.utf8ByteSize_append] at hmore'
      obtain ⟨-, rfl⟩ | hkept := hstep.append x
      · obtain ⟨hnil, he⟩ := hrest.eq_of_empty
        exact absurd ⟨(List.append_eq_nil_iff.mp hnil).2, he⟩ hqs
      · exact .step hkept (hmore' hmore)

/-- A piece of a reading stays, unless it is literal text with which the reading finishes. -/
theorem Reads.exists_append (id : TemplateId) {d : Delimiters} {text : String} {p : Piece}
    {ps qs : List Piece} {e : Ending} (fits : text.utf8ByteSize < UInt32.size)
    (h : Reads d text (ps ++ p :: qs) e) (x : String) :
    (p.kind.isText = true ∧ qs = [] ∧ e = .finished) ∨
      ∃ more e', Reads d (text ++ x) (ps ++ p :: more) e' := by
  obtain ⟨behind, hsplit, hbehind⟩ := h.split_template id fits
  cases hbehind with
  | @step _ d' _ next _ _ _ hstep hrest =>
    obtain ⟨htext, rfl⟩ | hkept := hstep.append x
    · exact .inl ⟨htext, hrest.eq_of_empty⟩
    · obtain ⟨more, e', hmore⟩ := exists_reads d' (next ++ x)
      exact .inr ⟨more, e', h.append id 1 fits String.empty_append.symm (by simp) hsplit
        (.step hkept hmore)⟩

/-- A reading that fails stays, unless it fails at a tag that is not closed. -/
theorem Reads.failed_append (id : TemplateId) {d : Delimiters} {text tag : String}
    {ps : List Piece} {fault : Fault} (fits : text.utf8ByteSize < UInt32.size)
    (h : Reads d text ps (.failed fault tag)) (x : String) :
    let d' := d.inForce text (Piece.place id 0 1 ps)
    (fault = .unclosedTag ∧ ∃ inside, text = Piece.sources ps ++ (d'.opening ++ inside) ∧
        ¬ Marker.Occurs (d'.closer inside) inside) ∨
      Reads d (text ++ x) ps (.failed fault tag) := by
  intro d'
  rw [← List.append_nil ps] at h
  obtain ⟨behind, hsplit, hbehind⟩ := h.split_template id fits
  cases hbehind with
  | ends hends =>
    obtain ⟨hfault, inside, rfl, hnone⟩ | hends' := hends.append x
    · exact .inl ⟨hfault, inside, hsplit, hnone⟩
    · have hreads := h.append id 1 fits String.empty_append.symm (by simp) hsplit (.ends hends')
      rw [List.append_nil] at hreads
      exact .inr hreads

/-! ## Scans -/

/-- The tag at which a scan fails has no closing marker, under the delimiters in force. -/
def SyntaxError.Unclosed (d : Delimiters) (text : String) (e : SyntaxError) : Prop :=
  ∃ before inside, text = before ++ (d.opening ++ inside) ∧
    before.utf8ByteSize = e.span.start.toNat ∧ ¬ Marker.Occurs (d.closer inside) inside

/-- A template that goes on is scanned as before, for consumers that never stop. Only
    literal text at the end and an unclosed tag may change. -/
theorem scan_append {σ τ : Type} {k : Consumer σ} {l : Consumer τ} (hk : k.Patient)
    (hl : l.Patient) (acc : σ) (acc' : τ) (d : Delimiters) {text x : String} (id : TemplateId)
    (fits : (text ++ x).utf8ByteSize < UInt32.size) :
    let ts := deliveredTokens d text id k acc
    let ts' := deliveredTokens d (text ++ x) id l acc'
    (∀ before t after, ts = before ++ t :: after →
      ((scan d text id k acc).1 = .completed ∧ after = [] ∧ t.kind.isText = true) ∨
        before ++ [t] <+: ts') ∧
    (∀ e ∈ reportedErrors d text id k acc,
      (e.fault = .unclosedTag ∧ e.Unclosed (d.inForce text ts) text) ∨
        ((scan d (text ++ x) id l acc').1 = .failed ∧
          scanCalls d (text ++ x) id l acc' = scanCalls d text id k acc)) := by
  intro ts ts'
  have hfits : text.utf8ByteSize < UInt32.size := by
    rw [String.utf8ByteSize_append] at fits
    omega
  obtain ⟨ps, ending, hreads⟩ := exists_reads d text
  have hagrees := hk.agrees (Piece.place id 0 1 ps) acc
  obtain ⟨houtcome, hcalls⟩ := hreads.scan_of_agrees hfits hagrees
  have hts : ts = Piece.place id 0 1 ps := hreads.deliveredTokens_of_agrees hfits hagrees
  refine ⟨?_, ?_⟩
  · intro before t after hsplit
    rw [hts] at hsplit
    obtain ⟨qs, rs, rfl, rfl, hafter⟩ := Piece.exists_of_place_eq_append hsplit
    cases rs with
    | nil => cases hafter
    | cons p rs =>
      obtain ⟨rfl, rfl⟩ := List.cons.inj hafter
      obtain ⟨htext, rfl, rfl⟩ | ⟨more, e', hmore⟩ := hreads.exists_append id hfits x
      · exact .inl ⟨houtcome, rfl, htext⟩
      · have hts' : ts' = Piece.place id 0 1 (qs ++ p :: more) :=
          hmore.deliveredTokens_of_agrees fits (hl.agrees _ acc')
        rw [hts', Piece.place_append, Piece.place]
        exact .inr ((List.prefix_append_right_inj _).mpr ⟨_, rfl⟩)
  · intro e he
    obtain ⟨-, herror⟩ := hreads.agrees_of_reportedErrors hfits he
    cases ending with
    | finished => cases herror
    | failed fault tag =>
      obtain rfl := Option.some.inj herror
      obtain ⟨hfault, inside, hinside, hnone⟩ | hreads' := hreads.failed_append id hfits x
      · have hstart := Span.toNat_start_behind hfits hinside
        rw [← hts] at hinside hnone
        exact .inl ⟨hfault, Piece.sources ps, inside, hinside, hstart.symm, hnone⟩
      · obtain ⟨houtcome', hcalls'⟩ := hreads'.scan_of_agrees fits (hl.agrees _ acc')
        exact .inr ⟨houtcome', hcalls'.trans hcalls.symm⟩

/-- A marker that arises across the end of the template, behind a tag that is read and behind
    one that is not. -/
theorem scan_append_seam :
    let good := "\x7b\x7ba\x7d\x7db\x7b"
    let bad := "b\x7b\x7b#a b\x7d\x7d\x7b"
    let x := "\x7bc\x7d\x7d"
    let a : Token := ⟨.lookup .escaped (.names false ⟨"a", by decide⟩ []), 1, ⟨0, 5⟩, .anonymous⟩
    let b : Token := ⟨.text "b\x7b", 1, ⟨5, 7⟩, .anonymous⟩
    let e : SyntaxError := ⟨.invalidKeyPath, 1, ⟨1, 9⟩, .anonymous⟩
    (good ++ x).utf8ByteSize < UInt32.size ∧ (bad ++ x).utf8ByteSize < UInt32.size ∧
      deliveredTokens .standard good .anonymous .silent () = [a, b] ∧
      e ∈ reportedErrors .standard bad .anonymous .silent () ∧
      [] ++ [a] <+: deliveredTokens .standard (good ++ x) .anonymous .silent () ∧
      b ∉ deliveredTokens .standard (good ++ x) .anonymous .silent () ∧
      (scan .standard (bad ++ x) .anonymous .silent ()).1 = .failed ∧
      scanCalls .standard (bad ++ x) .anonymous .silent () =
        scanCalls .standard bad .anonymous .silent () := by
  intro good bad x a b e
  have hgood : (good ++ x).utf8ByteSize < UInt32.size := by decide +kernel
  have hbad : (bad ++ x).utf8ByteSize < UInt32.size := by decide +kernel
  have hts : deliveredTokens .standard good .anonymous .silent () = [] ++ a :: [b] := by
    decide +kernel
  have he : e ∈ reportedErrors .standard bad .anonymous .silent () := by decide +kernel
  have hsilent : (Consumer.silent : Consumer Unit).Patient := Consumer.patient_silent
  obtain ⟨htokens, -⟩ := scan_append hsilent hsilent () () .standard .anonymous hgood
  obtain ⟨-, herror⟩ := scan_append hsilent hsilent () () .standard .anonymous hbad
  have ha := (htokens [] a [b] hts).resolve_left fun h => List.cons_ne_nil b [] h.2.1
  have hfailed := (herror e he).resolve_left fun h => by cases h.1
  exact ⟨hgood, hbad, hts, he, ha, by decide +kernel, hfailed⟩

end Mustache
