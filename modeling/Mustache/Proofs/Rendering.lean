-- SUMMARY: Templates that are written from parts are read as these parts.
import Mustache.Proofs.Coverage
import Mustache.Proofs.Delivery

/-!
# Rendering

A template can be written from its parts: literal texts, and the bodies of tags between
the markers that are in force. Not everything that is written so can be read again, since
a marker may arise where none was meant: inside a part, or across the end of a part.
`Legible` excludes this part by part. It does not restrict the markers, which may overlap
themselves and each other, and it looks no further than to the marker behind a part.

What is legible is read as it was written (`tokenize_renderAll`).
-/

namespace Mustache

/-! ## Bodies of tags -/

/-- The sigil in front of a key path. -/
def Lookup.sigil : Lookup → String
  | escaped => ""
  | unescaped => .singleton '&'
  | opening => .singleton '#'
  | inverted => .singleton '^'
  | closing => .singleton '/'

namespace Tag

/-- What is written between the markers of a tag. A source is what stands behind the sigil.
    The body of a change of delimiters includes its equals signs. -/
inductive Body where
  | comment (content : String)
  | lookup (purpose : Lookup) (source : String)
  /-- An unescaped variable in three braces. -/
  | braces (source : String)
  | inclusion (source : String)
  | delimiterChange (body : String)
  deriving DecidableEq

namespace Body

def inner : Body → String
  | comment content => .singleton '!' ++ content
  | lookup purpose source => purpose.sigil ++ source
  | braces source => .singleton '\x7b' ++ source
  | inclusion source => .singleton '>' ++ source
  | delimiterChange body => body

/-- What the tag is, if its source is accepted. -/
def kind? : Body → Option Token.Kind
  | comment content => some (.comment content)
  | lookup purpose source => (KeyPath.parse? source).map (.lookup purpose)
  | braces source => (KeyPath.parse? source).map (.lookup .unescaped)
  | inclusion source => (PartialName.parse? source).map .inclusion
  | delimiterChange body => (Delimiters.ofTagBody? body).map fun _ => .delimiterChange

def closer (d : Delimiters) : Body → String
  | braces _ => "\x7d" ++ d.closing
  | _ => d.closing

def render (d : Delimiters) (b : Body) : String := d.opening ++ b.inner ++ b.closer d

/-- The delimiters in force behind the tag. -/
def behind (d : Delimiters) : Body → Delimiters
  | delimiterChange body => (Delimiters.ofTagBody? body).getD d
  | _ => d

/-- A key path without a sigil does not begin with one either. -/
def Unsigned : Body → Prop
  | lookup .escaped source => ∀ c ∈ source.toList.head?, c ∉ sigils
  | _ => True

/-- Whether the tag can be read again. -/
structure Legible (d : Delimiters) (b : Body) : Prop where
  accepted : b.kind?.isSome
  unsigned : b.Unsigned
  free : ¬ Marker.Occurs d.opening b.inner
  first : Marker.FirstBehind (b.closer d) b.inner

variable {d : Delimiters} {b : Body} {kind : Token.Kind}

theorem means (hkind : b.kind? = some kind) (hunsigned : b.Unsigned) : Means b.inner kind := by
  cases b with
  | comment content =>
    obtain rfl := Option.some.inj hkind
    exact .comment content
  | lookup purpose source =>
    obtain ⟨path, hpath, rfl⟩ := Option.map_eq_some_iff.mp hkind
    cases purpose with
    | escaped =>
      rw [inner, Lookup.sigil, String.empty_append]
      exact .escaped hunsigned hpath
    | unescaped | opening | inverted | closing => exact .lookup (by simp [lookupSigils]) hpath
  | braces source =>
    obtain ⟨path, hpath, rfl⟩ := Option.map_eq_some_iff.mp hkind
    exact .lookup (by simp [lookupSigils]) hpath
  | inclusion source =>
    obtain ⟨name, hname, rfl⟩ := Option.map_eq_some_iff.mp hkind
    exact .inclusion hname
  | delimiterChange body =>
    obtain ⟨new, hnew, rfl⟩ := Option.map_eq_some_iff.mp hkind
    obtain ⟨rest, rfl⟩ := Delimiters.exists_of_ofTagBody? hnew
    exact .delimiterChange hnew

/-- Only a tag that is written in three braces has a brace behind its opening marker. -/
theorem closer_inner (hkind : b.kind? = some kind) (hunsigned : b.Unsigned) :
    d.closer b.inner = b.closer d := by
  cases b with
  | comment | inclusion | braces => simp [inner, closer, Delimiters.closer]
  | lookup purpose source =>
    cases purpose with
    | escaped =>
      rw [inner, Lookup.sigil, String.empty_append, Delimiters.closer, if_neg]
      · rfl
      · intro hbrace
        exact hunsigned '\x7b' hbrace (by simp [sigils, lookupSigils])
    | unescaped | opening | inverted | closing =>
      simp [inner, closer, Lookup.sigil, Delimiters.closer]
  | delimiterChange body =>
    obtain ⟨new, -, rfl⟩ := Option.map_eq_some_iff.mp hkind
    exact (means hkind hunsigned).closer_of_delimiterChange

theorem behind_inner (hkind : b.kind? = some kind) : d.behind kind b.inner = b.behind d := by
  cases b with
  | delimiterChange body =>
    obtain ⟨new, -, rfl⟩ := Option.map_eq_some_iff.mp hkind
    rfl
  | comment content =>
    obtain rfl := Option.some.inj hkind
    rfl
  | lookup | braces | inclusion =>
    obtain ⟨_, -, rfl⟩ := Option.map_eq_some_iff.mp hkind
    rfl

/-- What is behind a tag is no part of it, whatever it is. -/
theorem Legible.exists_steps (h : b.Legible d) (rest : String) :
    ∃ p : Piece, some p.kind = b.kind? ∧ p.source = b.render d ∧
      Steps d (b.render d ++ rest) p (b.behind d) rest := by
  obtain ⟨kind, hkind⟩ := Option.isSome_iff_exists.mp h.accepted
  have hcloser : d.closer b.inner = b.closer d := closer_inner hkind h.unsigned
  have hread : Tag.read d b.inner = .ok (kind, b.behind d) :=
    read_eq_ok_iff.mpr ⟨h.free, means hkind h.unsigned, (behind_inner hkind).symm⟩
  have hfirst : Marker.FirstBehind (d.closer b.inner) b.inner := by
    rw [hcloser]
    exact h.first
  have hstep := @Steps.tag d _ _ rest _ hfirst hread
  rw [hcloser] at hstep
  refine ⟨⟨kind, d.opening, b.inner, b.closer d⟩, hkind.symm, rfl, ?_⟩
  simpa only [render, String.append_assoc] using hstep

end Body

end Tag

/-! ## Parts of a template -/

/-- A part of a template, as it is written. -/
inductive Part where
  | text (content : String)
  | tag (b : Tag.Body)
  deriving DecidableEq

namespace Part

/-- The kind of the token that the part becomes. -/
def kind? : Part → Option Token.Kind
  | text content => some (.text content)
  | tag b => b.kind?

def render (d : Delimiters) : Part → String
  | text content => content
  | tag b => b.render d

/-- The delimiters in force behind the part. -/
def behind (d : Delimiters) : Part → Delimiters
  | text _ => d
  | tag b => b.behind d

/-- The parts as they are written, each under the delimiters that are in force at it. -/
def renderEach : Delimiters → List Part → List String
  | _, [] => []
  | d, part :: parts => part.render d :: renderEach (part.behind d) parts

/-- The template that is written from the parts. -/
def renderAll (d : Delimiters) (parts : List Part) : String := String.join (renderEach d parts)

/-- Whether the parts can be read again. Texts are not empty and do not touch each other. -/
inductive Legible : Delimiters → List Part → Prop
  | nil {d : Delimiters} : Legible d []
  | lastText {d : Delimiters} {content : String} :
      content ≠ "" → ¬ Marker.Occurs d.opening content → Legible d [text content]
  | text {d : Delimiters} {content : String} {b : Tag.Body} {parts : List Part} :
      content ≠ "" → Marker.FirstBehind d.opening content → Legible d (tag b :: parts) →
      Legible d (text content :: tag b :: parts)
  | tag {d : Delimiters} {b : Tag.Body} {parts : List Part} :
      b.Legible d → Legible (b.behind d) parts → Legible d (tag b :: parts)

theorem renderAll_cons (d : Delimiters) (part : Part) (parts : List Part) :
    renderAll d (part :: parts) = part.render d ++ renderAll (part.behind d) parts := by
  rw [renderAll, renderEach, String.join_cons]
  rfl

/-- What is legible is read to its end, one piece for each part. -/
theorem Legible.exists_reads {d : Delimiters} {parts : List Part} (h : Legible d parts) :
    ∃ ps, Reads d (renderAll d parts) ps .finished ∧
      ps.map (fun p => some p.kind) = parts.map kind? ∧
      ps.map Piece.source = renderEach d parts := by
  induction h with
  | nil => exact ⟨[], .ends .finished, rfl, rfl⟩
  | @lastText d content hne hfree =>
    refine ⟨[.ofText content], ?_, rfl, by simp [renderEach, render]⟩
    have hstep : Steps d content (.ofText content) d "" := .rest hne hfree
    simpa [renderAll, renderEach, render] using Reads.step hstep (.ends .finished)
  | @text d content b parts hne hfirst _ ih =>
    obtain ⟨ps, hreads, hkinds, hsources⟩ := ih
    refine ⟨.ofText content :: ps, ?_, ?_, ?_⟩
    · -- The text goes up to a marker, since a tag is written behind it.
      have htag : renderAll d (Part.tag b :: parts) =
          d.opening ++ (b.inner ++ b.closer d ++ renderAll (b.behind d) parts) := by
        simp only [renderAll_cons, render, behind, Tag.Body.render, String.append_assoc]
      rw [renderAll_cons]
      simp only [render, behind]
      rw [htag] at hreads ⊢
      exact .step (.text hne hfirst) hreads
    · rw [List.map_cons, List.map_cons, hkinds]
      rfl
    · rw [List.map_cons, hsources, Piece.source_ofText]
      rfl
  | @tag d b parts hlegible _ ih =>
    obtain ⟨ps, hreads, hkinds, hsources⟩ := ih
    obtain ⟨p, hkind, hsource, hstep⟩ := hlegible.exists_steps (renderAll (b.behind d) parts)
    refine ⟨p :: ps, ?_, ?_, ?_⟩
    · rw [renderAll_cons]
      exact .step hstep hreads
    · rw [List.map_cons, List.map_cons, hkinds, hkind]
      rfl
    · rw [List.map_cons, hsources, hsource]
      rfl

end Part

/-! ## Tokens -/

theorem Piece.map_kind_place (id : TemplateId) (pos line : Nat) (ps : List Piece) :
    (place id pos line ps).map Token.kind = ps.map kind := by
  induction ps generalizing pos line with
  | nil => rfl
  | cons p ps ih => exact congrArg (p.kind :: ·) (ih _ _)

/-- Tokenizing undoes rendering. The scan completes with one token for each part, which is
    what the part says and covers what was written for it. -/
theorem tokenize_renderAll (id : TemplateId) {d : Delimiters} {parts : List Part}
    (h : Part.Legible d parts) (fits : (Part.renderAll d parts).utf8ByteSize < UInt32.size) :
    ∃ ts : Array Token,
      Collection.empty.add d (Part.renderAll d parts) id = (.completed, ⟨ts, none⟩) ∧
      tokenize d (Part.renderAll d parts) id = .ok ts ∧
      ts.toList.map (fun t => some t.kind) = parts.map Part.kind? ∧
      ts.toList.map (fun t => t.source (Part.renderAll d parts)) = Part.renderEach d parts := by
  obtain ⟨ps, hreads, hkinds, hsources⟩ := h.exists_reads
  have hscan : Collection.empty.add d (Part.renderAll d parts) id =
      (.completed, ⟨(Piece.place id 0 1 ps).toArray, none⟩) := by
    rw [Collection.add, hreads.scan_eq fits, Consumer.conclude, Collection.feed_consumer]
    simp [Ending.error?, Collection.empty]
  refine ⟨_, hscan, ?_, ?_, ?_⟩
  · rw [tokenize, hscan]
    rfl
  · rw [← hkinds]
    have hmap := congrArg (List.map some) (Piece.map_kind_place id 0 1 ps)
    rw [List.map_map, List.map_map] at hmap
    exact hmap
  · have hsplit : Part.renderAll d parts = "" ++ (Piece.sources ps ++ "") := by
      rw [String.empty_append, String.append_empty]
      exact (congrArg String.join hsources).symm
    rw [← hsources]
    exact Piece.map_source_place id 1 fits hsplit

/-- Markers that overlap themselves and the texts beside them, and a change to markers that
    overlap braces. -/
theorem tokenize_renderAll_overlapping :
    let d : Delimiters := ⟨"aab", "bb", by decide, by decide⟩
    let parts : List Part :=
      [.text "a", .tag (.comment "b "), .tag (.delimiterChange "=\x7b\x7b \x7d="),
        .tag (.braces "p"), .text "\x7d"]
    let template := Part.renderAll d parts
    template = "aaab!b bbaab=\x7b\x7b \x7d=bb\x7b\x7b\x7bp\x7d\x7d\x7d" ∧
      Part.Legible d parts ∧
      ∃ ts : Array Token,
        Collection.empty.add d template .anonymous = (.completed, ⟨ts, none⟩) ∧
        tokenize d template .anonymous = .ok ts ∧
        ts.toList.map (fun t => some t.kind) = parts.map Part.kind? ∧
        ts.toList.map (fun t => t.source template) = Part.renderEach d parts := by
  intro d parts template
  have hlegible : Part.Legible d parts := by
    refine .text (by decide) (by decide +kernel) (.tag ?_ (.tag ?_ (.tag ?_ (.lastText ?_ ?_))))
    · exact ⟨by decide +kernel, trivial, by decide +kernel, by decide +kernel⟩
    · exact ⟨by decide +kernel, trivial, by decide +kernel, by decide +kernel⟩
    · exact ⟨by decide +kernel, trivial, by decide +kernel, by decide +kernel⟩
    · decide
    · decide +kernel
  exact ⟨by decide +kernel, hlegible, tokenize_renderAll .anonymous hlegible (by decide +kernel)⟩

end Mustache
