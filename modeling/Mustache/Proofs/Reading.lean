-- SUMMARY: How a text is read as a sequence of pieces, without regard to where it stands.
import Mustache.Proofs.Encoding
import Mustache.Proofs.TagTable
import Mustache.Scan

/-!
# Readings

A scan goes through a template by positions and lines. What it finds does not depend on
them, but only on the text ahead and on the delimiters in force. A text begins with a
piece (`Steps`), or its reading ends there (`Ends`). `Reads` takes all steps up to the
end, and every text can be read in this way (`exists_reads`).

`Piece.place` puts pieces side by side, from a given position and line on, which makes
tokens of them.
-/

namespace Mustache

/-! ## Pieces -/

/-- A token without a place. The text between the markers of a tag is its inner text.
    Literal text stands between empty markers. -/
structure Piece where
  kind : Token.Kind
  opening : String
  inner : String
  closing : String

namespace Piece

def ofText (content : String) : Piece := ⟨.text content, "", content, ""⟩

def source (p : Piece) : String := p.opening ++ p.inner ++ p.closing

/-- The number of bytes of the piece. -/
def size (p : Piece) : Nat := p.source.utf8ByteSize

/-- The number of line feeds for which the piece is credited. Those of markers do not
    count. -/
def newlines (p : Piece) : Nat := Text.newlines (Text.bytes p.inner)

/-- The piece as a token that begins at the given position and line. -/
def token (id : TemplateId) (pos line : Nat) (p : Piece) : Token where
  kind := p.kind
  line := .ofNat line
  span := ⟨.ofNat pos, .ofNat (pos + p.size)⟩
  template := id

/-- The tokens that pieces make side by side. -/
def place (id : TemplateId) : (pos line : Nat) → List Piece → List Token
  | _, _, [] => []
  | pos, line, p :: ps =>
    p.token id pos line :: place id (pos + p.size) (line + p.newlines) ps

/-- The number of line feeds for which the pieces are credited. -/
def credit : List Piece → Nat
  | [] => 0
  | p :: ps => p.newlines + credit ps

def sources (ps : List Piece) : String := String.join (ps.map source)

@[simp] theorem source_ofText (content : String) : (ofText content).source = content := by
  simp [source, ofText]

@[simp] theorem size_ofText (content : String) :
    (ofText content).size = content.utf8ByteSize := by
  simp [size]

@[simp] theorem sources_nil : sources [] = "" := by
  simp [sources]

@[simp] theorem sources_cons (p : Piece) (ps : List Piece) :
    sources (p :: ps) = p.source ++ sources ps := by
  simp [sources]

theorem utf8ByteSize_sources_cons (p : Piece) (ps : List Piece) :
    (sources (p :: ps)).utf8ByteSize = p.size + (sources ps).utf8ByteSize := by
  simp [size]

theorem place_append (id : TemplateId) (pos line : Nat) (ps qs : List Piece) :
    place id pos line (ps ++ qs) =
      place id pos line ps ++
        place id (pos + (sources ps).utf8ByteSize) (line + credit ps) qs := by
  induction ps generalizing pos line with
  | nil => simp [place, credit]
  | cons p ps ih =>
    rw [List.cons_append, place, place, ih, utf8ByteSize_sources_cons, credit, ← Nat.add_assoc,
      ← Nat.add_assoc, List.cons_append]

/-- Where placed pieces are split, the pieces are split. -/
theorem exists_of_place_eq_append {id : TemplateId} {pos line : Nat} {ps : List Piece}
    {ts us : List Token} (h : place id pos line ps = ts ++ us) :
    ∃ qs rs, ps = qs ++ rs ∧ ts = place id pos line qs ∧
      us = place id (pos + (sources qs).utf8ByteSize) (line + credit qs) rs := by
  induction ts generalizing pos line ps with
  | nil => exact ⟨[], ps, rfl, rfl, by simpa [credit] using h.symm⟩
  | cons t ts ih =>
    cases ps with
    | nil => simp [place] at h
    | cons p ps =>
      rw [place, List.cons_append, List.cons.injEq] at h
      obtain ⟨rfl, hrest⟩ := h
      obtain ⟨qs, rs, rfl, rfl, rfl⟩ := ih hrest
      refine ⟨p :: qs, rs, rfl, rfl, ?_⟩
      rw [utf8ByteSize_sources_cons, credit, ← Nat.add_assoc, ← Nat.add_assoc]

end Piece

/-! ## Closing markers -/

/-- The text that closes a tag with the given text behind its opening marker. A tag that
    begins with a brace also ends with one. -/
def Delimiters.closer (d : Delimiters) (inside : String) : String :=
  if inside.toList.head? = some '\x7b' then "\x7d" ++ d.closing else d.closing

namespace Delimiters

theorem closer_ne (d : Delimiters) (inside : String) : d.closer inside ≠ "" := by
  unfold closer
  split
  · simp
  · exact d.closing_ne

theorem closingMarker_headD (d : Delimiters) (inside : String) :
    Scan.closingMarker d ((Text.bytes inside).headD 0) = d.closer inside := by
  have hbrace : (Text.bytes inside).headD 0 = Scan.brace ↔
      inside.toList.head? = some '\x7b' :=
    Text.headD_bytes_eq_asciiByte (a := '\x7b') (by decide) (by decide)
  simp only [Scan.closingMarker, closer, hbrace]

/-- What closes a tag is decided by its inner text. -/
theorem closer_append (d : Delimiters) {inner : String} (hne : inner ≠ "") (behind : String) :
    d.closer (inner ++ behind) = d.closer inner := by
  have : inner.toList ≠ [] := by simpa using hne
  rw [closer, closer, String.toList_append, List.head?_append,
    List.head?_eq_some_head this, Option.some_or]

/-- The tag with the given text behind its opening marker ends behind `inner`, and
    `behind` follows it. -/
structure Closes (d : Delimiters) (inside inner behind : String) : Prop where
  split : inside = inner ++ d.closer inside ++ behind
  first : Marker.FirstBehind (d.closer inside) inner

theorem not_occurs_or_closes (d : Delimiters) (inside : String) :
    ¬ Marker.Occurs (d.closer inside) inside ∨ ∃ inner behind, d.Closes inside inner behind := by
  obtain h | ⟨inner, behind, hsplit, hfirst⟩ :=
    Marker.not_occurs_or_exists_append (d.closer_ne inside) inside
  · exact .inl h
  · exact .inr ⟨inner, behind, hsplit, hfirst⟩

/-- The tag with its markers, and what follows it. -/
theorem Closes.tag_append {d : Delimiters} {inside inner behind : String}
    (h : d.Closes inside inner behind) :
    d.opening ++ inside = d.opening ++ inner ++ d.closer inside ++ behind := by
  calc d.opening ++ inside
    _ = d.opening ++ (inner ++ d.closer inside ++ behind) := congrArg _ h.split
    _ = d.opening ++ inner ++ d.closer inside ++ behind := by simp only [String.append_assoc]

theorem Closes.closer_inner {d : Delimiters} {inside inner behind : String}
    (h : d.Closes inside inner behind) (hne : inner ≠ "") :
    d.closer inside = d.closer inner := by
  rw [h.split, String.append_assoc, d.closer_append hne]

theorem closer_tag (d : Delimiters) {inner : String} (hne : inner ≠ "") (behind : String) :
    d.closer (inner ++ d.closer inner ++ behind) = d.closer inner := by
  rw [String.append_assoc, d.closer_append hne]

theorem closes_append {d : Delimiters} {inner : String} (hne : inner ≠ "")
    (hfirst : Marker.FirstBehind (d.closer inner) inner) (behind : String) :
    d.Closes (inner ++ d.closer inner ++ behind) inner behind where
  split := by rw [d.closer_tag hne]
  first := by rwa [d.closer_tag hne]

end Delimiters

/-! ## Readings -/

/-- How a reading ends. The tag that fails extends to the end of its closing marker, or
    to the end of the text if it has none. -/
inductive Ending where
  | finished
  | failed (fault : Fault) (tag : String)

/-- Under the delimiters, the text begins with the piece. Behind it the reading goes on
    with other delimiters and with what is left of the text. -/
inductive Steps (d : Delimiters) : String → Piece → Delimiters → String → Prop
  | rest {text : String} :
      text ≠ "" → ¬ Marker.Occurs d.opening text →
      Steps d text (.ofText text) d ""
  | text {before inside : String} :
      before ≠ "" → Marker.FirstBehind d.opening before →
      Steps d (before ++ (d.opening ++ inside)) (.ofText before) d (d.opening ++ inside)
  | tag {d' : Delimiters} {inner behind : String} {kind : Token.Kind} :
      Marker.FirstBehind (d.closer inner) inner → Tag.read d inner = .ok (kind, d') →
      Steps d (d.opening ++ (inner ++ d.closer inner ++ behind))
        ⟨kind, d.opening, inner, d.closer inner⟩ d' behind

/-- Under the delimiters, the reading of the text ends without a further piece. -/
inductive Ends (d : Delimiters) : String → Ending → Prop
  | finished : Ends d "" .finished
  | unclosed {inside : String} :
      ¬ Marker.Occurs (d.closer inside) inside →
      Ends d (d.opening ++ inside) (.failed .unclosedTag (d.opening ++ inside))
  | faulty {inside inner behind : String} {fault : Fault} :
      d.Closes inside inner behind → Tag.read d inner = .error fault →
      Ends d (d.opening ++ inside) (.failed fault (d.opening ++ inner ++ d.closer inside))

/-- Under the delimiters, the text is read as the pieces, and then ends as it is said. -/
inductive Reads : Delimiters → String → List Piece → Ending → Prop
  | ends {d : Delimiters} {text : String} {e : Ending} : Ends d text e → Reads d text [] e
  | step {d d' : Delimiters} {text behind : String} {p : Piece} {ps : List Piece} {e : Ending} :
      Steps d text p d' behind → Reads d' behind ps e → Reads d text (p :: ps) e

namespace Steps

variable {d d' : Delimiters} {text behind : String} {p : Piece}

theorem source_append (h : Steps d text p d' behind) : text = p.source ++ behind := by
  cases h with
  | rest => simp
  | text => simp
  | tag => simp only [Piece.source, String.append_assoc]

theorem source_ne (h : Steps d text p d' behind) : p.source ≠ "" := by
  cases h with
  | rest hne _ => simpa using hne
  | text hne _ => simpa using hne
  | tag => simp [Piece.source, d.opening_ne]

/-- A text that begins with an opening marker begins with a tag. -/
theorem exists_of_opening {inside : String} (h : Steps d (d.opening ++ inside) p d' behind) :
    ∃ inner kind, p = ⟨kind, d.opening, inner, d.closer inner⟩ ∧
      Tag.read d inner = .ok (kind, d') := by
  generalize htext : d.opening ++ inside = text at h
  cases h with
  | rest _ hnone =>
    refine absurd ?_ hnone
    rw [← htext]
    simpa using Marker.occurs_append "" d.opening inside
  | @text before inside' hne hfirst =>
    refine absurd ?_ (hfirst.not_prefix hne inside')
    rw [String.append_assoc, ← htext, Text.bytes_append]
    exact List.prefix_append _ _
  | tag _ hread => exact ⟨_, _, rfl, hread⟩

end Steps

namespace Ends

variable {d : Delimiters} {text tag : String} {fault : Fault}

theorem tag_append (h : Ends d text (.failed fault tag)) : ∃ behind, text = tag ++ behind := by
  cases h with
  | unclosed => exact ⟨"", by simp⟩
  | faulty hcloses _ => exact ⟨_, hcloses.tag_append⟩

theorem tag_ne (h : Ends d text (.failed fault tag)) : tag ≠ "" := by
  cases h with
  | unclosed | faulty => simp [d.opening_ne]

end Ends

/-- Every text begins with a piece, or its reading ends. -/
theorem ends_or_steps (d : Delimiters) (text : String) :
    (∃ e, Ends d text e) ∨ ∃ p d' behind, Steps d text p d' behind := by
  obtain hnone | ⟨before, inside, rfl, hfirst⟩ :=
    Marker.not_occurs_or_exists_append d.opening_ne text
  · by_cases hempty : text = ""
    · subst hempty
      exact .inl ⟨_, .finished⟩
    · exact .inr ⟨_, _, _, .rest hempty hnone⟩
  · rw [String.append_assoc]
    by_cases hempty : before = ""
    · subst hempty
      rw [String.empty_append]
      obtain hnone | ⟨inner, behind, hcloses⟩ := d.not_occurs_or_closes inside
      · exact .inl ⟨_, .unclosed hnone⟩
      · cases hread : Tag.read d inner with
        | error fault => exact .inl ⟨_, .faulty hcloses hread⟩
        | ok result =>
          have hcloser := hcloses.closer_inner (Tag.ne_of_read hread)
          rw [hcloses.split, hcloser]
          exact .inr ⟨_, _, _, .tag (hcloser ▸ hcloses.first) hread⟩
    · -- The first marker stands behind literal text.
      exact .inr ⟨_, _, _, .text hempty hfirst⟩

theorem exists_reads (d : Delimiters) (text : String) : ∃ ps e, Reads d text ps e := by
  induction hn : text.utf8ByteSize using Nat.strongRecOn generalizing d text with
  | ind n ih =>
    obtain ⟨e, hends⟩ | ⟨p, d', behind, hstep⟩ := ends_or_steps d text
    · exact ⟨[], e, .ends hends⟩
    · have hpos := Text.utf8ByteSize_pos hstep.source_ne
      have hsize := congrArg String.utf8ByteSize hstep.source_append
      rw [String.utf8ByteSize_append] at hsize
      obtain ⟨ps, e, hbehind⟩ := ih _ (by omega) d' behind rfl
      exact ⟨p :: ps, e, .step hstep hbehind⟩

/-- Nothing is read of an empty text. -/
theorem Reads.eq_of_empty {d : Delimiters} {ps : List Piece} {e : Ending}
    (h : Reads d "" ps e) : ps = [] ∧ e = .finished := by
  generalize htext : "" = text at h
  cases h with
  | ends hends =>
    cases hends with
    | finished => exact ⟨rfl, rfl⟩
    | unclosed | faulty =>
      obtain ⟨hopening, -⟩ := String.append_eq_empty_iff.mp htext.symm
      exact absurd hopening d.opening_ne
  | step hstep _ =>
    obtain ⟨hsource, -⟩ := String.append_eq_empty_iff.mp (htext.trans hstep.source_append).symm
    exact absurd hsource hstep.source_ne

end Mustache
