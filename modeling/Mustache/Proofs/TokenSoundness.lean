-- SUMMARY: Every token that a scan delivers says what stands in the template.
import Mustache.Proofs.Calls
import Mustache.Proofs.InForce

/-!
# Soundness of tokens

What a delivered token says is true of the template, under the delimiters in force at the
token. A text token has the text that it covers, and covers as much as it can. A tag
stands between markers, ends at the first closing marker that may end it, and is what the
table of sigils says of its inner text.
-/

namespace Mustache

namespace Token

/-- A token of literal text, in front of the next token. -/
structure SoundText (d : Delimiters) (template : String) (t : Token) (next : Option Token)
    (content : String) : Prop where
  nonempty : content ≠ ""
  source_eq : t.source template = content
  free : ¬ Marker.Occurs d.opening content
  /-- The text goes on to an opening marker, or to the end of the template. -/
  stop : t.span.stop.toNat = template.utf8ByteSize ∨
    Text.bytes d.opening <+: (Text.bytes template).drop t.span.stop.toNat
  alone : ∀ u ∈ next, u.kind.isText = false

/-- A tag with the given inner text. -/
structure SoundTag (d : Delimiters) (template : String) (t : Token) (inner : String) : Prop where
  nonempty : inner ≠ ""
  source_eq : t.source template = d.opening ++ inner ++ d.closer inner
  free : ¬ Marker.Occurs d.opening inner
  first : Marker.FirstBehind (d.closer inner) inner
  means : Tag.Means inner t.kind
  /-- New delimiters are those that the inner text names. -/
  behind : t.kind = .delimiterChange →
    Delimiters.ofTagBody? inner = some (d.behindToken template t)

/-- The token says what stands in the template, if these delimiters are in force at it. -/
def Sound (d : Delimiters) (template : String) (t : Token) (next : Option Token) : Prop :=
  match t.kind with
  | .text content => t.SoundText d template next content
  | _ => ∃ inner, t.SoundTag d template inner

end Token

/-! ## Steps -/

namespace Steps

variable {d d' : Delimiters} {text behind inside : String} {p : Piece}

theorem not_empty : ¬ Steps d "" p d' behind := by
  intro h
  obtain ⟨hsource, -⟩ := String.append_eq_empty_iff.mp h.source_append.symm
  exact h.source_ne hsource

/-- A piece that begins with an opening marker is a tag. -/
theorem isText_of_opening (h : Steps d (d.opening ++ inside) p d' behind) :
    p.kind.isText = false := by
  obtain ⟨inner, kind, rfl, hread⟩ := h.exists_of_opening
  obtain ⟨-, hmeans, -⟩ := Tag.read_eq_ok_iff.mp hread
  exact hmeans.isText_eq

end Steps

/-- If the text ahead does not begin with literal text, neither do the tokens. -/
theorem Reads.isText_head? {id : TemplateId} {pos line : Nat} {d : Delimiters} {text : String}
    {ps qs : List Piece} {e : Ending} (hreads : Reads d text (ps ++ qs) e)
    (hfirst : ∀ {p d' behind}, Steps d text p d' behind → p.kind.isText = false) :
    ∀ u ∈ (Piece.place id pos line ps).head?, u.kind.isText = false := by
  intro u hu
  cases ps with
  | nil => simp [Piece.place] at hu
  | cons p ps =>
    simp only [Piece.place, List.head?_cons, Option.mem_some_iff] at hu
    subst hu
    cases hreads with
    | step hstep _ => exact hfirst hstep

namespace Steps

variable {d d' : Delimiters} {text behind : String} {p : Piece}

/-- The token of a piece is sound, if the next token is made of the reading behind it. -/
theorem sound (id : TemplateId) {line pos' line' : Nat} {template before : String}
    {ps qs : List Piece} {e : Ending} (fits : template.utf8ByteSize < UInt32.size)
    (hsplit : template = before ++ text) (h : Steps d text p d' behind)
    (hreads : Reads d' behind (ps ++ qs) e) :
    (p.token id before.utf8ByteSize line).Sound d template (Piece.place id pos' line' ps).head? := by
  have hbehind := h.behindToken_eq id line fits hsplit
  have hpiece : template = before ++ (p.source ++ behind) := by
    rw [hsplit, h.source_append]
  have hsource := Piece.source_token id line fits hpiece
  have hstop := Piece.toNat_stop_token id line fits hpiece
  cases h with
  | rest hne hnone =>
    rw [Piece.size_ofText] at hstop
    rw [Piece.source_ofText] at hsource
    refine ⟨hne, hsource, hnone, .inl ?_, hreads.isText_head? fun hstep => absurd hstep not_empty⟩
    rw [hstop, hsplit, String.utf8ByteSize_append]
  | @text content inside hne hfirst =>
    rw [Piece.size_ofText] at hstop
    rw [Piece.source_ofText] at hsource
    refine ⟨hne, hsource, hfirst.not_occurs d.opening_ne, .inr ?_,
      hreads.isText_head? isText_of_opening⟩
    rw [hstop, hsplit, ← String.append_assoc, ← String.utf8ByteSize_append,
      Text.drop_bytes_append, Text.bytes_append]
    exact List.prefix_append _ _
  | @tag _ inner _ kind hfirst hread =>
    obtain ⟨hfree, hmeans, hd'⟩ := Tag.read_eq_ok_iff.mp hread
    have htag : Token.SoundTag d template
        (Piece.token id before.utf8ByteSize line ⟨kind, d.opening, inner, d.closer inner⟩) inner :=
      { nonempty := Tag.ne_of_read hread
        source_eq := hsource
        free := hfree
        first := hfirst
        means := hmeans
        behind := by
          intro hchange
          obtain rfl : kind = .delimiterChange := hchange
          cases hmeans with
          | delimiterChange hnew => rw [hbehind, hd', Delimiters.behind, hnew, Option.getD_some] }
    cases kind with
    | text content => cases hmeans
    | comment | lookup | inclusion | delimiterChange => exact ⟨inner, htag⟩

end Steps

/-- Every delivered token is sound, under the delimiters that the tokens in front of it put
    in force. -/
theorem deliveredTokens_sound {σ : Type} (d : Delimiters) (template : String) (id : TemplateId)
    (k : Consumer σ) (acc : σ) {before after : List Token} {t : Token}
    (h : deliveredTokens d template id k acc = before ++ t :: after) :
    t.Sound (d.inForce template before) template after.head? := by
  obtain ⟨fits, ps, p, qs, rest, e, hreads, rfl, rfl, rfl⟩ := exists_of_deliveredTokens_eq_append h
  obtain ⟨behind, htemplate, hbehind⟩ := hreads.split id 1 fits String.empty_append.symm
  cases hbehind with
  | step hstep hrest => exact hstep.sound id fits htemplate hrest

/-- A tag of three braces behind a change of the delimiters, between texts. -/
theorem deliveredTokens_sound_braces :
    let template := "a\n\x7b\x7b=\x7b| ||=\x7d\x7d\x7b|\x7bx\x7d||\nb"
    let braces : Token :=
      ⟨.lookup .unescaped (.names false ⟨"x", by decide⟩ []), 2, ⟨13, 20⟩, .anonymous⟩
    let front : List Token :=
      [⟨.text "a\n", 1, ⟨0, 2⟩, .anonymous⟩, ⟨.delimiterChange, 2, ⟨2, 13⟩, .anonymous⟩]
    let back : List Token := [⟨.text "\nb", 2, ⟨20, 22⟩, .anonymous⟩]
    deliveredTokens .standard template .anonymous .silent () = front ++ braces :: back ∧
      Delimiters.standard.inForce template front = ⟨"\x7b|", "||", by decide, by decide⟩ ∧
      braces.Sound (Delimiters.standard.inForce template front) template back.head? := by
  intro template braces front back
  have h : deliveredTokens .standard template .anonymous .silent () = front ++ braces :: back := by
    decide +kernel
  exact ⟨h, by decide +kernel, deliveredTokens_sound .standard template .anonymous .silent () h⟩

end Mustache
