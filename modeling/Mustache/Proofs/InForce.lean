-- SUMMARY: Tokens in their template, and the delimiters in force at each of them.
import Mustache.Proofs.Reading
import Mustache.Proofs.TagTable

/-!
# Delimiters in force

Which delimiters are in force at a token follows from the template and from the tokens
in front of it: a tag that changes the delimiters names the new ones between its markers,
which are those in force at the tag (`Delimiters.inForce`). Where the tokens of a reading
are split, the reading goes on behind the split with the delimiters that the tokens in
front of it put in force (`Reads.split`).
-/

namespace Mustache

/-! ## Pieces of a template -/

namespace Span

/-- What a scan says of the place of a piece that stands behind another one. -/
def behind (before piece : String) : Span where
  start := .ofNat before.utf8ByteSize
  stop := .ofNat (before.utf8ByteSize + piece.utf8ByteSize)

variable {template before piece rest : String}

theorem toNat_start_behind (fits : template.utf8ByteSize < UInt32.size)
    (hsplit : template = before ++ (piece ++ rest)) :
    (behind before piece).start.toNat = before.utf8ByteSize := by
  apply UInt32.toNat_ofNat_of_lt'
  simp only [hsplit, String.utf8ByteSize_append] at fits
  omega

theorem toNat_stop_behind (fits : template.utf8ByteSize < UInt32.size)
    (hsplit : template = before ++ (piece ++ rest)) :
    (behind before piece).stop.toNat = before.utf8ByteSize + piece.utf8ByteSize := by
  apply UInt32.toNat_ofNat_of_lt'
  simp only [hsplit, String.utf8ByteSize_append] at fits
  omega

theorem slice_behind (fits : template.utf8ByteSize < UInt32.size)
    (hsplit : template = before ++ (piece ++ rest)) :
    (behind before piece).slice template = piece := by
  rw [slice, toNat_start_behind fits hsplit, toNat_stop_behind fits hsplit, hsplit,
    Text.cut_append]

end Span

namespace Piece

variable {template before behind : String} {p : Piece}

theorem toNat_start_token (id : TemplateId) (line : Nat)
    (fits : template.utf8ByteSize < UInt32.size)
    (hsplit : template = before ++ (p.source ++ behind)) :
    (p.token id before.utf8ByteSize line).span.start.toNat = before.utf8ByteSize :=
  Span.toNat_start_behind fits hsplit

theorem toNat_stop_token (id : TemplateId) (line : Nat)
    (fits : template.utf8ByteSize < UInt32.size)
    (hsplit : template = before ++ (p.source ++ behind)) :
    (p.token id before.utf8ByteSize line).span.stop.toNat = before.utf8ByteSize + p.size :=
  Span.toNat_stop_behind fits hsplit

theorem source_token (id : TemplateId) (line : Nat)
    (fits : template.utf8ByteSize < UInt32.size)
    (hsplit : template = before ++ (p.source ++ behind)) :
    (p.token id before.utf8ByteSize line).source template = p.source :=
  Span.slice_behind fits hsplit

end Piece

/-! ## Delimiters in force -/

namespace Delimiters

/-- What stands between the markers of a tag. -/
def innerText (d : Delimiters) (source : String) : String :=
  Text.cut source d.opening.utf8ByteSize (source.utf8ByteSize - d.closing.utf8ByteSize)

/-- The delimiters in force behind a token of the template, if these are in force at it. -/
def behindToken (d : Delimiters) (text : String) (t : Token) : Delimiters :=
  d.behind t.kind (d.innerText (t.source text))

/-- The delimiters in force behind tokens of the template that stand side by side. -/
def inForce (d : Delimiters) (text : String) (ts : List Token) : Delimiters :=
  ts.foldl (fun d t => d.behindToken text t) d

theorem innerText_append (d : Delimiters) (inner : String) :
    d.innerText (d.opening ++ inner ++ d.closing) = inner := by
  have hsize : (d.opening ++ inner ++ d.closing).utf8ByteSize - d.closing.utf8ByteSize =
      d.opening.utf8ByteSize + inner.utf8ByteSize := by
    simp only [String.utf8ByteSize_append]
    omega
  rw [innerText, hsize, String.append_assoc, Text.cut_append]

end Delimiters

theorem Tag.Means.closer_of_delimiterChange {d : Delimiters} {inner : String}
    (h : Tag.Means inner .delimiterChange) : d.closer inner = d.closing := by
  cases h
  simp [Delimiters.closer]

namespace Steps

variable {d d' : Delimiters} {text behind : String} {p : Piece}

theorem behind_eq (h : Steps d text p d' behind) : d' = d.behind p.kind p.inner := by
  cases h with
  | rest => rfl
  | text => rfl
  | tag _ hread => exact (Tag.read_eq_ok_iff.mp hread).2.2

theorem behindToken_eq (id : TemplateId) (line : Nat) {template before : String}
    (fits : template.utf8ByteSize < UInt32.size) (hsplit : template = before ++ text)
    (h : Steps d text p d' behind) :
    d.behindToken template (p.token id before.utf8ByteSize line) = d' := by
  have hpiece : template = before ++ (p.source ++ behind) := by
    rw [hsplit, h.source_append]
  rw [Delimiters.behindToken, Piece.source_token id line fits hpiece, h.behind_eq]
  by_cases hkind : p.kind = .delimiterChange
  · -- The markers of such a tag are those in force, without a brace.
    cases h with
    | rest => cases hkind
    | text => cases hkind
    | @tag _ inner _ kind _ hread =>
      obtain ⟨-, hmeans, -⟩ := Tag.read_eq_ok_iff.mp hread
      obtain rfl : kind = .delimiterChange := hkind
      simp only [Piece.token, Piece.source, hmeans.closer_of_delimiterChange, d.innerText_append]
  · exact (d.behind_of_ne hkind _).trans (d.behind_of_ne hkind _).symm

end Steps

/-- Behind pieces of a reading the reading goes on, with the delimiters that the tokens
    of these pieces put in force. -/
theorem Reads.split (id : TemplateId) (line : Nat) {d : Delimiters}
    {template before text : String} {ps qs : List Piece} {e : Ending}
    (fits : template.utf8ByteSize < UInt32.size) (hsplit : template = before ++ text)
    (h : Reads d text (ps ++ qs) e) :
    ∃ behind, text = Piece.sources ps ++ behind ∧
      Reads (d.inForce template (Piece.place id before.utf8ByteSize line ps)) behind qs e := by
  induction ps generalizing d before text line with
  | nil => exact ⟨text, by simp, h⟩
  | cons p ps ih =>
    cases h with
    | @step _ d' _ behind _ _ _ hstep hrest =>
      have hbehind : template = (before ++ p.source) ++ behind := by
        rw [hsplit, hstep.source_append, String.append_assoc]
      obtain ⟨rest, hrest', hreads⟩ := ih (line + p.newlines) hbehind hrest
      refine ⟨rest, ?_, ?_⟩
      · rw [hstep.source_append, hrest', Piece.sources_cons, String.append_assoc]
      · rw [String.utf8ByteSize_append] at hreads
        rw [Delimiters.inForce, Piece.place, List.foldl_cons,
          hstep.behindToken_eq id line fits hsplit]
        exact hreads

/-- The same for the reading of a whole template. -/
theorem Reads.split_template (id : TemplateId) {d : Delimiters} {template : String}
    {ps qs : List Piece} {e : Ending} (fits : template.utf8ByteSize < UInt32.size)
    (h : Reads d template (ps ++ qs) e) :
    ∃ behind, template = Piece.sources ps ++ behind ∧
      Reads (d.inForce template (Piece.place id 0 1 ps)) behind qs e := by
  obtain ⟨behind, hsplit, hbehind⟩ := h.split id 1 fits String.empty_append.symm
  rw [String.utf8ByteSize_empty] at hbehind
  exact ⟨behind, hsplit, hbehind⟩

end Mustache
