-- SUMMARY: A scan takes a bounded number of rounds and delivers a bounded number of tokens.
import Mustache.Proofs.Calls
import Mustache.Proofs.Rounds
import Mustache.Proofs.TagDelimiters

/-!
# Termination

The measure of a scan is not the shape of anything, since the template itself replaces the
markers that the scan looks for. An empty opening marker would be found without end. But a
tag can name no empty marker: two markers between equals signs are words, and words are not
empty (`Delimiters.exists_of_words`). So a tag takes at least three bytes, and each round
but the last passes one.

Literal text may take a single byte, but no two texts stand side by side. So tokens take two
bytes on the average, up to one byte (`Reads.two_mul_length_le`).
-/

namespace Mustache

namespace Delimiters

theorem three_le_leastTag (d : Delimiters) : 3 ≤ d.leastTag := by
  have hopening := Text.utf8ByteSize_pos d.opening_ne
  have hclosing := Text.utf8ByteSize_pos d.closing_ne
  rw [leastTag]
  omega

/-- Two words between equals signs are markers. None of them is turned down for being empty. -/
theorem exists_of_words {body : String} {inner opening closing : List Char}
    (hinner : unwrap? body.toList = some inner) (hwords : Text.words inner = [opening, closing]) :
    ∃ new, ofTagBody? body = some new ∧ new.opening.toList = opening ∧
      new.closing.toList = closing := by
  have hnames : Names body (.ofList opening) (.ofList closing) :=
    names_iff_words.mpr ⟨inner, hinner, by simpa only [String.toList_ofList] using hwords⟩
  obtain ⟨new, hopening, hclosing, hnew⟩ := hnames.exists_delimiters
  refine ⟨new, hnew, ?_, ?_⟩
  · rw [hopening, String.toList_ofList]
  · rw [hclosing, String.toList_ofList]

end Delimiters

namespace Scan.Loop

variable {σ : Type} {id : TemplateId} {k : Consumer σ} {s : State} {acc : σ} {rounds : List State}
  {r : Outcome × σ} {text : String}

/-- Each round but the last leaves three bytes less to be scanned. -/
theorem three_mul_length_le (h : Loop id k s acc rounds r) (hs : s.cursor.Sound text) :
    s.cursor.pos.toNat + 3 * rounds.length ≤ s.cursor.template.size.toNat + 3 := by
  have hpos := hs.pos_le
  induction h generalizing text with
  | stopped | finished | failed => simpa using hpos
  | @more s next _ _ rounds _ _ hnext _ ih =>
    obtain ⟨hpasses, behind, hbehind⟩ := State.exists_of_round_more hs hnext
    have hrest := ih hbehind hbehind.pos_le
    have hleast := s.delimiters.three_le_leastTag
    have hmove := hpasses.pos_le
    rw [hpasses.template_eq] at hrest
    rw [List.length_cons]
    omega

end Scan.Loop

/-! ## Tokens -/

/-- The first pieces of a reading are at most half as many as the bytes of the text, up to
    a text of one byte in front of the first tag. -/
theorem Reads.two_mul_length_le {d : Delimiters} {text : String} {ps qs : List Piece}
    {e : Ending} (h : Reads d text (ps ++ qs) e) :
    2 * ps.length ≤ text.utf8ByteSize + 1 ∧
      ∀ inside, text = d.opening ++ inside → 2 * ps.length ≤ text.utf8ByteSize := by
  induction ps generalizing d text with
  | nil => simp
  | cons p ps ih =>
    cases h with
    | @step _ d' _ behind _ _ _ hstep hrest =>
      obtain ⟨hps, hopening⟩ := ih hrest
      have hsize := congrArg String.utf8ByteSize hstep.source_append
      rw [String.utf8ByteSize_append] at hsize
      have htag : ∀ inside, text = d.opening ++ inside →
          2 * (p :: ps).length ≤ text.utf8ByteSize := by
        intro inside htext
        obtain ⟨inner, kind, rfl, hread⟩ := (htext ▸ hstep).exists_of_opening
        have hleast := d.three_le_leastTag
        have hinner := Text.utf8ByteSize_pos (Tag.ne_of_read hread)
        have hcloser := d.closing_le_closer inner
        simp only [Piece.source, String.utf8ByteSize_append, Delimiters.leastTag] at hsize hleast
        rw [List.length_cons]
        omega
      refine ⟨?_, htag⟩
      cases hstep with
      | rest hne _ =>
        obtain ⟨hnil, -⟩ := hrest.eq_of_empty
        obtain ⟨rfl, -⟩ := List.append_eq_nil_iff.mp hnil
        have := Text.utf8ByteSize_pos hne
        simp only [List.length_singleton]
        omega
      | @text before inside hne hfirst =>
        -- The tag behind the text makes up for a text of one byte.
        have hbehind := hopening inside rfl
        have := Text.utf8ByteSize_pos hne
        rw [Piece.source_ofText] at hsize
        rw [List.length_cons]
        omega
      | tag =>
        have := htag _ rfl
        omega

theorem Piece.length_place (id : TemplateId) (pos line : Nat) (ps : List Piece) :
    (place id pos line ps).length = ps.length := by
  induction ps generalizing pos line with
  | nil => rfl
  | cons p ps ih => rw [place, List.length_cons, ih, List.length_cons]

theorem two_mul_length_deliveredTokens_le {σ : Type} (d : Delimiters) (text : String)
    (id : TemplateId) (k : Consumer σ) (acc : σ) :
    2 * (deliveredTokens d text id k acc).length ≤ text.utf8ByteSize + 1 := by
  by_cases fits : text.utf8ByteSize < UInt32.size
  · obtain ⟨ps, qs, e, hreads, hdelivered⟩ := exists_deliveredTokens d id k acc fits
    rw [hdelivered, Piece.length_place]
    exact hreads.two_mul_length_le.1
  · rw [deliveredTokens_of_not_fits fits]
    exact Nat.zero_le _

/-- Three tokens in five bytes are as many as there can be. -/
example :
    let d : Delimiters := ⟨"<", ">", by decide, by decide⟩
    (deliveredTokens d "a<b>c" .anonymous .silent ()).length = 3 := by
  decide +kernel

/-! ## Scans -/

/-- A scan ends, whatever its consumer does. Markers are never empty, each round but the last
    passes a tag, and both rounds and tokens are bounded by the length of the text. -/
theorem scan_ends {σ : Type} (d : Delimiters) (text : String) (id : TemplateId) (k : Consumer σ)
    (acc : σ) :
    (match Template.ofText? text with
      | none => scan d text id k acc = (.failed, k.onError ⟨.templateTooLarge, 1, ⟨0, 0⟩, id⟩ acc)
      | some t => ∃ rounds, Scan.Loop id k (.start t d) acc rounds (scan d text id k acc) ∧
          (∀ s ∈ rounds, s.delimiters.opening ≠ "" ∧ s.delimiters.closing ≠ "" ∧
            3 ≤ s.delimiters.leastTag) ∧
          rounds.IsChain Scan.State.Passes ∧
          3 * rounds.length ≤ text.utf8ByteSize + 3) ∧
      (∀ (body : String) (inner opening closing : List Char),
        Delimiters.unwrap? body.toList = some inner → Text.words inner = [opening, closing] →
        ∃ new, Delimiters.ofTagBody? body = some new ∧ new.opening.toList = opening ∧
          new.closing.toList = closing) ∧
      2 * (deliveredTokens d text id k acc).length ≤ text.utf8ByteSize + 1 := by
  refine ⟨?_, fun body inner opening closing => Delimiters.exists_of_words,
    two_mul_length_deliveredTokens_le d text id k acc⟩
  cases htemplate : Template.ofText? text with
  | none => simp only [scan, htemplate]
  | some t =>
    obtain rfl : t.text = text := by
      unfold Template.ofText? at htemplate
      split at htemplate <;> cases htemplate
      rfl
    obtain ⟨rounds, hloop⟩ := Scan.exists_loop id k (.start t d) acc
    rw [← Scan.scan_text] at hloop
    have hsound : (Scan.State.start t d).cursor.Sound t.text := Cursor.sound_start t
    have hlength := hloop.three_mul_length_le hsound
    have hsize := t.toNat_size
    rw [Text.length_bytes] at hsize
    refine ⟨rounds, hloop, ?_, hloop.isChain_passes hsound, ?_⟩
    · intro s _
      exact ⟨s.delimiters.opening_ne, s.delimiters.closing_ne, s.delimiters.three_le_leastTag⟩
    · rw [← hsize]
      exact Nat.le_of_add_left_le hlength

end Mustache
