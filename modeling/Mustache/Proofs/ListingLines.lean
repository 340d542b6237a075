-- SUMMARY: A token takes one line of a listing, unless it is a partial with line feeds in its name.
import Mustache.Proofs.Encoding
import Mustache.Proofs.Listings
import Mustache.Proofs.TokenDisplay

/-!
# Lines of a listing

A listing is meant to give every token a line of its own. Literal text and comments are
quoted, which leaves no line feed in them, and key paths have no blanks. The name of a
partial is shown as it stands in the template. Blanks inside it belong to it, and a line
feed is a blank, so such a token is shown on several lines, which may look like the lines of
other tokens. Nothing else brings a line feed into a listing (`Listing.newlines_write_unlimited`).
-/

namespace Mustache

/-! ## Tokens -/

namespace Token

/-- The number of line feeds in the name, if the token is a partial. -/
def Kind.newlines : Kind → Nat
  | inclusion name => Text.newlines (Text.bytes name)
  | _ => 0

theorem Kind.newlines_detail (kind : Kind) :
    Text.newlines (Text.bytes kind.detail) = kind.newlines := by
  have hspace : Text.newlines (Text.bytes " ") = 0 := by decide
  cases kind with
  | text content | comment content =>
    have hquoted := Text.newlines_bytes_eq_zero.mpr (Text.newline_not_mem_quoted content)
    rw [detail, Text.bytes_append, Text.newlines_append, hspace, hquoted]
    rfl
  | lookup purpose path =>
    have hpath : Text.newlines (Text.bytes path.display) = 0 := by
      rw [Text.newlines_bytes_eq_zero]
      intro h
      exact absurd (path.written_display.isBlank_eq_false h) (by decide)
    rw [detail, Text.bytes_append, Text.newlines_append, hspace, hpath]
    rfl
  | inclusion name =>
    rw [detail, Text.bytes_append, Text.newlines_append, hspace, Nat.zero_add]
    rfl
  | delimiterChange => rfl

theorem newlines_display (t : Token) :
    Text.newlines (Text.bytes t.display) = t.kind.newlines := by
  have hdigits : ∀ n, '\n' ∉ Nat.toDigits 10 n :=
    Text.not_mem_toDigits (by decide) fun _ => Nat.digitChar_ne '\n' (by decide)
  have hname : '\n' ∉ t.kind.name.toList := fun h =>
    absurd (Kind.isAlpha_of_mem_name h) (by decide)
  have hplace : Text.newlines (Text.bytes (toString t.line.toNat ++ ":" ++ t.span.display ++ " " ++
      t.kind.name)) = 0 := by
    rw [Text.newlines_bytes_eq_zero]
    simp [Span.display, hdigits, hname]
  rw [display, Text.bytes_append, Text.newlines_append, hplace, Nat.zero_add,
    t.kind.newlines_detail]

theorem newlines_eq_zero_iff (t : Token) : t.kind.newlines = 0 ↔ '\n' ∉ t.display.toList := by
  rw [← t.newlines_display, Text.newlines_bytes_eq_zero]

/-- Of all tokens only a partial can be shown on several lines. -/
theorem newline_mem_display_iff (t : Token) :
    '\n' ∈ t.display.toList ↔ ∃ name, t.kind = .inclusion name ∧ '\n' ∈ name.toList := by
  have hshown := t.newlines_eq_zero_iff
  cases hkind : t.kind with
  | inclusion name =>
    have hname : t.kind.newlines = 0 ↔ '\n' ∉ name.toList := by
      rw [hkind, Kind.newlines, Text.newlines_bytes_eq_zero]
    simpa using Decidable.not_iff_not.mp (hshown.symm.trans hname)
  | text | comment | lookup | delimiterChange =>
    rw [hkind] at hshown
    simpa using hshown.mp rfl

/-- The number of line feeds in the names of all partials. -/
def nameNewlines : List Token → Nat
  | [] => 0
  | t :: ts => t.kind.newlines + nameNewlines ts

theorem nameNewlines_eq_zero_iff {ts : List Token} :
    nameNewlines ts = 0 ↔ ∀ t ∈ ts, '\n' ∉ t.display.toList := by
  induction ts with
  | nil => simp [nameNewlines]
  | cons t ts ih =>
    rw [nameNewlines, Nat.add_eq_zero_iff, t.newlines_eq_zero_iff, ih, List.forall_mem_cons]

end Token

/-! ## Listings -/

namespace Listing

theorem newlines_ofTokens (ts : List Token) :
    Text.newlines (Text.bytes (ofTokens ts)) = ts.length + Token.nameNewlines ts := by
  induction ts with
  | nil => rfl
  | cons t ts ih =>
    have hend : Text.newlines (Text.bytes "\n") = 1 := by decide
    rw [ofTokens] at ih ⊢
    rw [List.map_cons, String.join_cons, Text.bytes_append, Text.newlines_append, ih,
      Text.bytes_append, Text.newlines_append, hend, t.newlines_display, Token.nameNewlines,
      List.length_cons]
    omega

/-- A listing has a line for each token, and a further one for each line feed in the name of
    a partial. It has one line for each token if and only if no partial has such a name. -/
theorem newlines_write_unlimited (o : Options) (text : String) :
    let ts := deliveredTokens o.delimiters text o.templateId consumer ⟨.unlimited, 0, none⟩
    let lines := Text.newlines (Text.bytes (write o text .unlimited).2.text)
    lines = ts.length + Token.nameNewlines ts ∧
      (lines = ts.length ↔ ∀ t ∈ ts, '\n' ∉ t.display.toList) ∧
      ∀ t ∈ ts, '\n' ∈ t.display.toList ↔
        ∃ name, t.kind = .inclusion name ∧ '\n' ∈ name.toList := by
  intro ts lines
  have hlines : lines = ts.length + Token.nameNewlines ts := by
    have hts : ts = _ := deliveredTokens_unlimited o text
    have htext : (write o text .unlimited).2.text = _ := (write_unlimited o text).1
    rw [hts, ← newlines_ofTokens, ← htext]
  refine ⟨hlines, ?_, fun t _ => t.newline_mem_display_iff⟩
  rw [hlines, Nat.add_eq_left, Token.nameNewlines_eq_zero_iff]

/-- A partial whose name goes over two lines. -/
theorem newlines_write_inclusion :
    let o : Options := ⟨"t", .standard, none⟩
    let text := "\x7b\x7b>a\nb\x7d\x7d"
    let ts := deliveredTokens o.delimiters text o.templateId consumer ⟨.unlimited, 0, none⟩
    let out := (write o text .unlimited).2.text
    ts = [⟨.inclusion "a\nb", 1, ⟨0, 8⟩, .named "t"⟩] ∧ out = "1:0..8 Partial a\nb\n" ∧
      Text.newlines (Text.bytes out) = 2 ∧ Text.newlines (Text.bytes out) ≠ ts.length := by
  decide +kernel

end Listing

end Mustache
