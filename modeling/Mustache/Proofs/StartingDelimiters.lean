-- SUMMARY: Delimiters from the command line are those that a tag at the start of the template sets.
import Mustache.Proofs.Arguments
import Mustache.Proofs.LineNumbers
import Mustache.Proofs.Resumption
import Mustache.Proofs.TagDelimiters

/-!
# Starting delimiters

Delimiters other than the standard ones can be named in two ways: by a flag, with a comma
between the markers, or by a tag at the start of the template, with white space between
them. Each way has a reader of its own. For markers that can be written in both ways the two
mean the same: what follows the tag is scanned as if it were the template and the flag had
been given, further on by the bytes of the tag (`scan_of_flag`).
-/

namespace Mustache

/-! ## Markers that can be named -/

/-- The marker can stand in a tag that sets the delimiters: it is free of white space, and of
    the standard markers, between which this tag stands. -/
structure Marker.Nameable (marker : String) : Prop where
  unspaced : marker.toList.any Text.isWhiteSpace = false
  noOpening : ¬ Occurs Delimiters.standard.opening marker
  noClosing : ¬ Occurs Delimiters.standard.closing marker

theorem Marker.Nameable.newline_not_mem {marker : String} (h : Nameable marker) :
    '\n' ∉ marker.toList := by
  intro hmem
  exact List.any_eq_false.mp h.unspaced '\n' hmem (by decide)

/-! ## Naming them by a flag -/

namespace Options

section

variable {d : Delimiters} (hopening : d.opening.toList.any Text.isWhiteSpace = false)
  (hclosing : d.closing.toList.any Text.isWhiteSpace = false)
include hopening hclosing

theorem markers?_eq (hcomma : ',' ∉ d.opening.toList) :
    markers? (d.opening ++ "," ++ d.closing) = some d := by
  have hwords : Text.IsWord d.opening.toList ∧ Text.IsWord d.closing.toList := by
    simpa [Text.IsWord, d.opening_ne, d.closing_ne] using And.intro hopening hclosing
  exact markers?_of_divides ⟨rfl, hcomma, hwords⟩

/-- The flag counts wherever it stands. -/
theorem parse_flag (hcomma : ',' ∉ d.opening.toList) {path : String}
    (hpath : path.toList.head? ≠ some '-') :
    let flag := "--delimiters=" ++ (d.opening ++ "," ++ d.closing)
    parse [path, flag] = .ok ⟨path, d, none⟩ ∧ parse [flag, path] = .ok ⟨path, d, none⟩ := by
  intro flag
  have hflag : Argument.ofString flag = .delimiters (d.opening ++ "," ++ d.closing) :=
    Argument.ofString_delimiters _
  have hadd : ∀ draft : Draft, draft.add (.ofString flag) = .ok { draft with delimiters := d } := by
    intro draft
    rw [hflag, Draft.add, markers?_eq hopening hclosing hcomma]
  have hpath' : Argument.ofString path = .path path := Argument.ofString_path (.inl hpath)
  constructor
  · simp only [parse, List.map_cons, List.map_nil, List.foldlM_cons, List.foldlM_nil, hpath']
    change ((Draft.add ⟨some path, _, _⟩ _).bind Except.ok).bind Draft.finish = _
    rw [hadd]
    rfl
  · simp only [parse, List.map_cons, List.map_nil, List.foldlM_cons, List.foldlM_nil, hadd, hpath']
    rfl

end

end Options

/-! ## Naming them by a tag -/

namespace Delimiters

/-- What stands between the standard markers of the tag that sets the delimiters. -/
def tagBody (d : Delimiters) : String := .singleton '=' ++ d.display ++ .singleton '='

/-- The tag that sets the delimiters, under the standard ones. -/
def tagPiece (d : Delimiters) : Piece :=
  ⟨.delimiterChange, standard.opening, d.tagBody, standard.closing⟩

theorem source_tagPiece (d : Delimiters) :
    d.tagPiece.source = "\x7b\x7b=" ++ d.opening ++ " " ++ d.closing ++ "=\x7d\x7d" := by
  apply String.toList_inj.mp
  simp [Piece.source, tagPiece, tagBody, display, standard]

theorem size_tagPiece (d : Delimiters) :
    d.tagPiece.size = d.opening.utf8ByteSize + d.closing.utf8ByteSize + 7 := by
  have hfront : "\x7b\x7b=".utf8ByteSize = 3 := rfl
  have hspace : " ".utf8ByteSize = 1 := rfl
  have hback : "=\x7d\x7d".utf8ByteSize = 3 := rfl
  simp only [Piece.size, source_tagPiece, String.utf8ByteSize_append, hfront, hspace, hback]
  omega

section

variable {d : Delimiters} (hopening : d.opening.toList.any Text.isWhiteSpace = false)
  (hclosing : d.closing.toList.any Text.isWhiteSpace = false)
include hopening hclosing

theorem ofTagBody?_tagBody : ofTagBody? d.tagBody = some d :=
  ofTagBody?_eq_some_iff.mpr
    (names_display (by simpa using hopening) (by simpa using hclosing))

end

end Delimiters

/-! ## Searches near a single character -/

theorem Text.bytes_singleton {c : Char} (h : c.toNat < 128) :
    bytes (.singleton c) = [asciiByte c] := by
  rw [bytes_eq_flatMap, String.toList_singleton, List.flatMap_singleton, utf8EncodeChar_of_ascii h]

namespace Marker

section

variable {needle before after : List UInt8} {b : UInt8}

/-- A needle does not go over a byte that it does not have. -/
theorem prefix_of_prefix_append_cons (hb : b ∉ needle) (h : needle <+: before ++ b :: after) :
    needle <+: before := by
  obtain hprefix | ⟨rest, rfl⟩ := List.prefix_or_prefix_of_prefix h (List.prefix_append before _)
  · exact hprefix
  · cases rest with
    | nil => simp
    | cons c rest =>
      have hrest := (List.prefix_append_right_inj before).mp h
      obtain rfl : c = b := (List.cons_prefix_cons.mp hrest).1
      exact absurd (by simp) hb

theorem infix_of_infix_append_cons (hb : b ∉ needle) (h : needle <:+: before ++ b :: after) :
    needle <:+: before ∨ needle <:+: after := by
  induction before with
  | nil =>
    obtain hfirst | hlater := List.infix_cons_iff.mp h
    · have hempty : needle <+: [] := prefix_of_prefix_append_cons hb hfirst
      exact .inl hempty.isInfix
    · exact .inr hlater
  | cons c before ih =>
    obtain hfirst | hlater := List.infix_cons_iff.mp h
    · have hprefix : needle <+: c :: before := prefix_of_prefix_append_cons hb hfirst
      exact .inl hprefix.isInfix
    · exact (ih hlater).imp_left List.infix_cons

end

variable {needle before after : String} {c : Char}

theorem not_occurs_empty (hne : needle ≠ "") : ¬ Occurs needle "" := by
  rw [Occurs, Text.bytes_empty, List.infix_nil, Text.bytes_eq_nil_iff]
  exact hne

theorem occurs_of_occurs_append (hascii : c.toNat < 128) (hc : c ∉ needle.toList)
    (h : Occurs needle (before ++ .singleton c ++ after)) :
    Occurs needle before ∨ Occurs needle after := by
  rw [Occurs, Text.bytes_append, Text.bytes_append, Text.bytes_singleton hascii,
    List.append_assoc] at h
  exact infix_of_infix_append_cons (mt (Text.asciiByte_mem_bytes hascii).mp hc) h

theorem firstBehind_append_singleton (hascii : c.toNat < 128) (hc : c ∉ needle.toList)
    (h : ¬ Occurs needle before) : FirstBehind needle (before ++ .singleton c) := by
  intro k hk hprefix
  have hsize : k ≤ (Text.bytes before).length := by
    rw [← Text.length_bytes, Text.bytes_append, Text.bytes_singleton hascii,
      List.length_append] at hk
    exact Nat.le_of_lt_succ hk
  rw [Text.bytes_append, Text.bytes_append, Text.bytes_singleton hascii, List.append_assoc,
    List.drop_append_of_le_length hsize] at hprefix
  have hbefore : Text.bytes needle <+: (Text.bytes before).drop k :=
    prefix_of_prefix_append_cons (mt (Text.asciiByte_mem_bytes hascii).mp hc) hprefix
  exact h (hbefore.isInfix.trans (List.drop_suffix k _).isInfix)

end Marker

/-! ## Reading the tag -/

section

variable {needle : String} {d : Delimiters}

namespace Delimiters

/-- A text without the characters that are put around the markers stands in the body of the
    tag only if it stands in a marker. -/
theorem not_occurs_front (hne : needle ≠ "") (hsign : '=' ∉ needle.toList)
    (hspace : ' ' ∉ needle.toList) (hopening : ¬ Marker.Occurs needle d.opening)
    (hclosing : ¬ Marker.Occurs needle d.closing) :
    ¬ Marker.Occurs needle (.singleton '=' ++ d.display) := by
  intro h
  rw [← String.empty_append (s := .singleton '=')] at h
  obtain hnone | hdisplay := Marker.occurs_of_occurs_append (by decide) hsign h
  · exact Marker.not_occurs_empty hne hnone
  · exact (Marker.occurs_of_occurs_append (by decide) hspace hdisplay).elim hopening hclosing

variable (hopening : Marker.Nameable d.opening) (hclosing : Marker.Nameable d.closing)
include hopening hclosing

theorem read_tagBody : Tag.read standard d.tagBody = .ok (.delimiterChange, d) := by
  have hbody : ofTagBody? d.tagBody = some d :=
    ofTagBody?_tagBody hopening.unspaced hclosing.unspaced
  have hfront : ¬ Marker.Occurs standard.opening (.singleton '=' ++ d.display) :=
    not_occurs_front standard.opening_ne (by decide) (by decide) hopening.noOpening
      hclosing.noOpening
  have hnone : ¬ Marker.Occurs standard.opening d.tagBody := by
    intro h
    rw [← String.append_empty (s := d.tagBody)] at h
    obtain h | h := Marker.occurs_of_occurs_append (by decide) (by decide) h
    · exact hfront h
    · exact Marker.not_occurs_empty standard.opening_ne h
  refine Tag.read_eq_ok_iff.mpr ⟨hnone, ?_, ?_⟩
  · rw [tagBody, String.append_assoc] at hbody ⊢
    exact .delimiterChange hbody
  · rw [behind, hbody, Option.getD_some]

theorem firstBehind_tagBody : Marker.FirstBehind standard.closing d.tagBody :=
  Marker.firstBehind_append_singleton (by decide) (by decide)
    (not_occurs_front standard.closing_ne (by decide) (by decide) hopening.noClosing
      hclosing.noClosing)

theorem steps_tagPiece (behind : String) :
    Steps standard (d.tagPiece.source ++ behind) d.tagPiece d behind := by
  have hread := read_tagBody hopening hclosing
  have hcloser : standard.closer d.tagBody = standard.closing :=
    (Tag.read_eq_ok_iff.mp hread).2.1.closer_of_delimiterChange
  have hfirst : Marker.FirstBehind (standard.closer d.tagBody) d.tagBody := by
    rw [hcloser]
    exact firstBehind_tagBody hopening hclosing
  have hstep : Steps standard
      (standard.opening ++ (d.tagBody ++ standard.closer d.tagBody ++ behind))
      ⟨.delimiterChange, standard.opening, d.tagBody, standard.closer d.tagBody⟩ d behind :=
    .tag hfirst hread
  rw [hcloser] at hstep
  simpa only [tagPiece, Piece.source, String.append_assoc] using hstep

theorem newlines_tagPiece : d.tagPiece.newlines = 0 := by
  have hmarkers : '\n' ∉ d.opening.toList ∧ '\n' ∉ d.closing.toList :=
    ⟨hopening.newline_not_mem, hclosing.newline_not_mem⟩
  apply Text.newlines_bytes_eq_zero.mpr
  simpa [tagPiece, tagBody, display] using hmarkers

end Delimiters

end

/-! ## The two ways -/

/-- Markers that the command line names, and a tag at the start that names them. -/
theorem scan_of_flag {σ τ : Type} {k : Consumer σ} {l : Consumer τ} (hk : k.Patient)
    (hl : l.Patient) (acc : σ) (acc' : τ) {d : Delimiters}
    (hopening : Marker.Nameable d.opening) (hclosing : Marker.Nameable d.closing)
    (hcomma : ',' ∉ d.opening.toList) :
    let flag := "--delimiters=" ++ (d.opening ++ "," ++ d.closing)
    let tag := "\x7b\x7b=" ++ d.opening ++ " " ++ d.closing ++ "=\x7d\x7d"
    let size := d.opening.utf8ByteSize + d.closing.utf8ByteSize + 7
    (∀ path : String, path.toList.head? ≠ some '-' →
      Options.parse [path, flag] = .ok ⟨path, d, none⟩ ∧
        Options.parse [flag, path] = .ok ⟨path, d, none⟩) ∧
    ∀ (text : String) (id : TemplateId), (tag ++ text).utf8ByteSize < UInt32.size →
      (scan .standard (tag ++ text) id k acc).1 = (scan d text id l acc').1 ∧
        ∃ rest, scanCalls .standard (tag ++ text) id k acc =
            .token ⟨.delimiterChange, 1, ⟨0, .ofNat size⟩, id⟩ :: rest ∧
          List.Forall₂ (Call.Shifted size 0) (scanCalls d text id l acc') rest := by
  intro flag tag size
  refine ⟨fun path => Options.parse_flag hopening.unspaced hclosing.unspaced hcomma, ?_⟩
  intro text id fits
  have htag : tag = d.tagPiece.source := d.source_tagPiece.symm
  have hsize : d.tagPiece.size = size := d.size_tagPiece
  rw [htag] at fits ⊢
  obtain ⟨ps, e, hreads⟩ := exists_reads d text
  have hwhole := Reads.step (Delimiters.steps_tagPiece hopening hclosing text) hreads
  obtain ⟨houtcome, hcalls⟩ :=
    hwhole.scan_of_agrees fits (hk.agrees (Piece.place id 0 1 (d.tagPiece :: ps)) acc)
  have hfits : size + text.utf8ByteSize < UInt32.size := by
    rw [String.utf8ByteSize_append] at fits
    rwa [← hsize]
  obtain ⟨houtcome', hcalls'⟩ :=
    hreads.scan_of_agrees (by omega) (hl.agrees (Piece.place id 0 1 ps) acc')
  refine ⟨houtcome.trans houtcome'.symm, Piece.calls id size 1 ps e, ?_, ?_⟩
  · rw [hcalls, Piece.calls_cons, Delimiters.newlines_tagPiece hopening hclosing, hsize,
      Nat.zero_add]
    simp only [Piece.token, hsize, Nat.zero_add]
    rfl
  · rw [hcalls']
    have hshifted : List.Forall₂ (Call.Shifted size 0) _ (Piece.calls id (0 + size) (1 + 0) ps e) :=
      hreads.forall₂_shifted id (by omega) (by omega)
    rwa [Nat.zero_add] at hshifted

/-- Markers with an equals sign, a comma and characters of two bytes, in front of a tag that
    is not closed. -/
theorem scan_of_flag_comma :
    let d : Delimiters := ⟨"«=", ",»", by decide, by decide⟩
    let text := "a«=x,»\n«="
    Marker.Nameable d.opening ∧ Marker.Nameable d.closing ∧ ',' ∉ d.opening.toList ∧
      (Consumer.silent : Consumer Unit).Patient ∧
      Options.parse ["t", "--delimiters=«=,,»"] = .ok ⟨"t", d, none⟩ ∧
      (scan .standard ("\x7b\x7b=«= ,»=\x7d\x7d" ++ text) .anonymous .silent ()).1 =
        (scan d text .anonymous .silent ()).1 ∧
      ∃ rest, scanCalls .standard ("\x7b\x7b=«= ,»=\x7d\x7d" ++ text) .anonymous .silent () =
          .token ⟨.delimiterChange, 1, ⟨0, 13⟩, .anonymous⟩ :: rest ∧
        List.Forall₂ (Call.Shifted 13 0) (scanCalls d text .anonymous .silent ()) rest := by
  intro d text
  have hopening : Marker.Nameable d.opening :=
    ⟨by decide +kernel, by decide +kernel, by decide +kernel⟩
  have hclosing : Marker.Nameable d.closing :=
    ⟨by decide +kernel, by decide +kernel, by decide +kernel⟩
  have hcomma : ',' ∉ d.opening.toList := by decide +kernel
  have hsilent : (Consumer.silent : Consumer Unit).Patient := Consumer.patient_silent
  obtain ⟨hparse, hscan⟩ := scan_of_flag hsilent hsilent () () hopening hclosing hcomma
  exact ⟨hopening, hclosing, hcomma, hsilent, (hparse "t" (by decide +kernel)).1,
    hscan text .anonymous (by decide +kernel)⟩

end Mustache
