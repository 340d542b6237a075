-- SUMMARY: Reported lines count the line feeds in front, less those inside markers.
import Mustache.Proofs.Calls
import Mustache.Proofs.InForce
import Mustache.Proofs.TagDelimiters

/-!
# Line numbers

A scan never counts lines from the beginning. It adds up the line feeds that its searches
pass, and these do not include the line feeds of the markers that they find. So the line of a
token or of an error is one more than the number of line feeds in front of it, less those
inside the markers of the tags in front of it (`line_of_call`).

Only the delimiters at the start can have line feeds. Those that a tag names are free of
white space, so if there is no line feed in the markers at the start, lines are exact.
-/

namespace Mustache

/-! ## Markers that a tag names -/

namespace Delimiters

/-- The number of line feeds in both markers. -/
def newlines (d : Delimiters) : Nat :=
  Text.newlines (Text.bytes d.opening) + Text.newlines (Text.bytes d.closing)

theorem newlines_eq_zero_iff {d : Delimiters} :
    d.newlines = 0 ↔ '\n' ∉ d.opening.toList ∧ '\n' ∉ d.closing.toList := by
  rw [newlines, Nat.add_eq_zero_iff, Text.newlines_bytes_eq_zero, Text.newlines_bytes_eq_zero]

/-- A tag cannot bring line feeds into the markers. -/
theorem newlines_of_ofTagBody? {body : String} {new : Delimiters} (h : ofTagBody? body = some new) :
    new.newlines = 0 := by
  have hfree : ∀ cs : List Char, Text.IsWord cs → '\n' ∉ cs := by
    intro cs hword hmem
    exact absurd (hword.2 '\n' hmem) (by decide)
  obtain ⟨-, -, -, -, -, -, -, hopening, hclosing⟩ := ofTagBody?_eq_some_iff.mp h
  exact newlines_eq_zero_iff.mpr ⟨hfree _ hopening, hfree _ hclosing⟩

theorem newlines_behind {d : Delimiters} (h : d.newlines = 0) (kind : Token.Kind)
    (inner : String) : (d.behind kind inner).newlines = 0 := by
  cases kind with
  | delimiterChange =>
    unfold behind
    cases hnew : ofTagBody? inner with
    | none => exact h
    | some new => exact newlines_of_ofTagBody? hnew
  | text | comment | lookup | inclusion => exact h

theorem newlines_closer (d : Delimiters) (inside : String) :
    Text.newlines (Text.bytes (d.closer inside)) = Text.newlines (Text.bytes d.closing) := by
  unfold closer
  split
  · have hbrace : Text.newlines (Text.bytes "\x7d") = 0 := by decide
    rw [Text.bytes_append, Text.newlines_append, hbrace, Nat.zero_add]
  · rfl

/-- The number of line feeds inside the markers of a token. Literal text has no markers. -/
def newlinesAt (d : Delimiters) (kind : Token.Kind) : Nat :=
  if kind.isText then 0 else d.newlines

/-- The number of line feeds inside the markers of tokens of the template that stand side
    by side. -/
def markerNewlines (d : Delimiters) (text : String) : List Token → Nat
  | [] => 0
  | t :: ts => d.newlinesAt t.kind + (d.behindToken text t).markerNewlines text ts

theorem markerNewlines_eq_zero {d : Delimiters} (h : d.newlines = 0) (text : String)
    (ts : List Token) : d.markerNewlines text ts = 0 := by
  induction ts generalizing d with
  | nil => rfl
  | cons t ts ih =>
    have hbehind : (d.behindToken text t).newlines = 0 := newlines_behind h _ _
    rw [markerNewlines, newlinesAt, h, ite_self, ih hbehind]

end Delimiters

/-! ## Line feeds of a reading -/

theorem Steps.newlines_source {d d' : Delimiters} {text behind : String} {p : Piece}
    (h : Steps d text p d' behind) :
    Text.newlines (Text.bytes p.source) = p.newlines + d.newlinesAt p.kind := by
  cases h with
  | rest | text =>
    rw [Piece.source_ofText]
    simp [Piece.newlines, Piece.ofText, Delimiters.newlinesAt, Token.Kind.isText]
  | @tag _ inner _ kind _ hread =>
    obtain ⟨-, hmeans, -⟩ := Tag.read_eq_ok_iff.mp hread
    have hmarkers : d.newlinesAt kind = d.newlines := by
      simp [Delimiters.newlinesAt, hmeans.isText_eq]
    simp only [Piece.source, Piece.newlines, Text.bytes_append, Text.newlines_append,
      d.newlines_closer, hmarkers, Delimiters.newlines]
    omega

/-- Line feeds are credited, or they stand inside a marker. -/
theorem Reads.newlines_sources (id : TemplateId) (line : Nat) {d : Delimiters}
    {template before text : String} {ps qs : List Piece} {e : Ending}
    (fits : template.utf8ByteSize < UInt32.size) (hsplit : template = before ++ text)
    (h : Reads d text (ps ++ qs) e) :
    Piece.credit ps +
        d.markerNewlines template (Piece.place id before.utf8ByteSize line ps) =
      Text.newlines (Text.bytes (Piece.sources ps)) := by
  induction ps generalizing d before text line with
  | nil => rfl
  | cons p ps ih =>
    cases h with
    | @step _ d' _ behind _ _ _ hstep hrest =>
      have hbehind : template = (before ++ p.source) ++ behind := by
        rw [hsplit, hstep.source_append, String.append_assoc]
      have hps := ih (line + p.newlines) hbehind hrest
      have hkind : (p.token id before.utf8ByteSize line).kind = p.kind := rfl
      rw [String.utf8ByteSize_append] at hps
      rw [Piece.place, Delimiters.markerNewlines, hstep.behindToken_eq id line fits hsplit, hkind,
        Piece.sources_cons, Text.bytes_append, Text.newlines_append, hstep.newlines_source, ← hps,
        Piece.credit, Piece.size]
      omega

/-- The line behind pieces of a reading, if the reading is not at its end there. Words do
    not overflow, since there is a further byte for the first line. -/
theorem Reads.line_eq (id : TemplateId) {d : Delimiters} {text : String} {ps qs : List Piece}
    {e : Ending} (fits : text.utf8ByteSize < UInt32.size) (h : Reads d text (ps ++ qs) e)
    (hmore : ¬ (qs = [] ∧ e = .finished)) :
    (UInt32.ofNat (1 + Piece.credit ps)).toNat +
        d.markerNewlines text (Piece.place id 0 1 ps) =
      1 + Text.newlines
        ((Text.bytes text).take (UInt32.ofNat (Piece.sources ps).utf8ByteSize).toNat) := by
  obtain ⟨behind, hsplit, hbehind⟩ := h.split_template id fits
  have hcount := h.newlines_sources id 1 fits String.empty_append.symm
  rw [String.utf8ByteSize_empty] at hcount
  -- A template that is all line feeds has one line more than bytes. It takes the byte
  -- behind the pieces to keep the line within a word.
  have hpos : 0 < behind.utf8ByteSize := by
    apply Text.utf8ByteSize_pos
    rintro rfl
    exact hmore hbehind.eq_of_empty
  have hle : Text.newlines (Text.bytes (Piece.sources ps)) ≤ (Piece.sources ps).utf8ByteSize :=
    List.count_le_length
  have hsize := congrArg String.utf8ByteSize hsplit
  rw [String.utf8ByteSize_append] at hsize
  have hstart : (UInt32.ofNat (Piece.sources ps).utf8ByteSize).toNat =
      (Piece.sources ps).utf8ByteSize := UInt32.toNat_ofNat_of_lt' (by omega)
  have hline : (UInt32.ofNat (1 + Piece.credit ps)).toNat =
      1 + Piece.credit ps := UInt32.toNat_ofNat_of_lt' (by omega)
  rw [hstart, hline, Nat.add_assoc, hcount]
  rw [hsplit, Text.take_bytes_append]

/-! ## Lines of tokens and errors -/

section

variable {σ : Type} (d : Delimiters) (text : String) (id : TemplateId) (k : Consumer σ) (acc : σ)

theorem line_of_deliveredTokens {before after : List Token} {t : Token}
    (h : deliveredTokens d text id k acc = before ++ t :: after) :
    t.line.toNat + d.markerNewlines text before =
      1 + Text.newlines ((Text.bytes text).take t.span.start.toNat) := by
  obtain ⟨fits, ps, p, qs, rest, e, hreads, rfl, rfl, -⟩ := exists_of_deliveredTokens_eq_append h
  exact hreads.line_eq id fits (by simp)

theorem line_of_reportedErrors {e : SyntaxError} (h : e ∈ reportedErrors d text id k acc) :
    e.line.toNat + d.markerNewlines text (deliveredTokens d text id k acc) =
      1 + Text.newlines ((Text.bytes text).take e.span.start.toNat) := by
  by_cases fits : text.utf8ByteSize < UInt32.size
  · obtain ⟨ps, ending, hreads⟩ := exists_reads d text
    have hturnout := Turnout.of_reads id k acc fits hreads
    generalize (scan d text id k acc).1 = outcome at hturnout
    generalize deliveredTokens d text id k acc = ts at hturnout ⊢
    generalize reportedErrors d text id k acc = es at hturnout h
    cases hturnout with
    | completed | stopped => simp at h
    | failed herror =>
      obtain rfl := List.mem_singleton.mp h
      cases ending with
      | finished => cases herror
      | failed fault tag =>
        obtain rfl := Option.some.inj herror
        rw [← List.append_nil ps] at hreads
        exact hreads.line_eq id fits (by simp)
  · rw [reportedErrors_of_not_fits fits, List.mem_singleton] at h
    rw [deliveredTokens_of_not_fits fits, h]
    rfl

/-- Every reported line is one more than the number of line feeds in front, less those
    inside the markers of the tags in front. If there are none in the markers at the start,
    none are missed. -/
theorem line_of_call {before after : List Call} {c : Call}
    (h : scanCalls d text id k acc = before ++ c :: after) :
    c.line.toNat + d.markerNewlines text (before.filterMap Call.token?) =
        1 + Text.newlines ((Text.bytes text).take c.span.start.toNat) ∧
      ('\n' ∉ d.opening.toList → '\n' ∉ d.closing.toList →
        c.line.toNat = 1 + Text.newlines ((Text.bytes text).take c.span.start.toNat)) := by
  have hline : c.line.toNat + d.markerNewlines text (before.filterMap Call.token?) =
      1 + Text.newlines ((Text.bytes text).take c.span.start.toNat) := by
    cases c with
    | token t =>
      apply line_of_deliveredTokens d text id k acc
      rw [deliveredTokens, h, List.filterMap_append]
      rfl
    | error e =>
      have herror : e ∈ reportedErrors d text id k acc := by
        rw [reportedErrors, h, List.filterMap_append]
        exact List.mem_append_right _ List.mem_cons_self
      rw [scanCalls_eq] at h
      rw [Call.filterMap_token?_of_error h]
      exact line_of_reportedErrors d text id k acc herror
  refine ⟨hline, ?_⟩
  intro hopening hclosing
  have hzero : d.newlines = 0 := Delimiters.newlines_eq_zero_iff.mpr ⟨hopening, hclosing⟩
  rw [Delimiters.markerNewlines_eq_zero hzero, Nat.add_zero] at hline
  exact hline

end

/-- An unclosed tag behind a tag with line feeds in its markers. -/
theorem line_of_call_markers :
    let d : Delimiters := ⟨"<\n", "\n>", by decide, by decide⟩
    let text := "a\n<\nx\n>\n<\ny"
    let front : List Call :=
      [.token ⟨.text "a\n", 1, ⟨0, 2⟩, .anonymous⟩,
        .token ⟨.lookup .escaped (.names false ⟨"x", by decide⟩ []), 2, ⟨2, 7⟩, .anonymous⟩,
        .token ⟨.text "\n", 2, ⟨7, 8⟩, .anonymous⟩]
    let unclosed : Call := .error ⟨.unclosedTag, 3, ⟨8, 11⟩, .anonymous⟩
    scanCalls d text .anonymous .silent () = front ++ unclosed :: [] ∧
      d.markerNewlines text (front.filterMap Call.token?) = 2 ∧
      unclosed.line.toNat + d.markerNewlines text (front.filterMap Call.token?) =
        1 + Text.newlines ((Text.bytes text).take unclosed.span.start.toNat) := by
  intro d text front unclosed
  have h : scanCalls d text .anonymous .silent () = front ++ unclosed :: [] := by decide +kernel
  obtain ⟨hline, -⟩ := line_of_call d text .anonymous .silent () h
  exact ⟨h, by decide +kernel, hline⟩

end Mustache
