-- SUMMARY: The scan of a template, round by round, for a consumer that may stop it.
import Mustache.Cursor
import Mustache.Scan.Consumer
import Mustache.Tag

/-!
# Scans

A scan goes through a template in rounds. A round looks for the next opening marker,
delivers the text in front of it, looks for the closing marker, and reads the tag
between the two. The tokens of a round go to the consumer before the next round
begins. A tag that sets the delimiters does so for all rounds that follow.

The line of a token is the line of the cursor. The line feeds in front of a marker are
credited when the cursor moves behind it, so a tag has the line of its opening marker.
Line feeds inside a marker are never credited.
-/

namespace Mustache

/-- How a scan ends. -/
inductive Outcome where
  /-- The template was read to its end. -/
  | completed
  /-- The consumer refused to go on. -/
  | stopped
  | failed
  deriving DecidableEq, Repr

namespace Scan

/-- All that a scan carries from one round to the next. -/
structure State where
  cursor : Cursor
  /-- The markers in force. -/
  delimiters : Delimiters

/-- How the scan goes on after a round. -/
inductive Next where
  | more (s : State)
  | finished
  | failed (e : SyntaxError)

/-- The tokens that a round delivers, and what comes after them. -/
structure Round where
  tokens : List Token
  next : Next

/-- A tag whose opening marker was found. -/
structure OpenTag where
  /-- The bytes of the opening marker. -/
  marker : Span
  /-- The position behind the marker. -/
  inside : Cursor

/-! ## A round -/

/-- The byte of an opening brace. -/
def brace : UInt8 := 123

/-- The text that closes a tag. It depends on the first byte of the tag, since a tag
    that begins with a brace also ends with one. -/
def closingMarker (d : Delimiters) (first : UInt8) : String :=
  if first = brace then "\x7d" ++ d.closing else d.closing

namespace State

def start (t : Template) (d : Delimiters) : State where
  cursor := .start t
  delimiters := d

/-- The tag that opens next. -/
def openTag? (s : State) : Option OpenTag :=
  let found := s.cursor.find s.delimiters.opening
  found.range.map fun range => ⟨range, s.cursor.advanceTo range.stop found.newlines⟩

/-- The text token from the cursor up to an offset, unless the token would be empty. -/
def textUpTo (id : TemplateId) (s : State) (stop : UInt32) : List Token :=
  if s.cursor.pos < stop then
    [⟨.text (s.cursor.upTo stop), s.cursor.line, ⟨s.cursor.pos, stop⟩, id⟩]
  else
    []

/-- Reads an opened tag. The result is its token and the state behind it. -/
def readTag (id : TemplateId) (s : State) (tag : OpenTag) : Except SyntaxError (Token × State) :=
  let line := tag.inside.line
  let found := tag.inside.find (closingMarker s.delimiters tag.inside.peek)
  match found.range with
  | none =>
    .error ⟨.unclosedTag, line, ⟨tag.marker.start, s.cursor.template.size⟩, id⟩
  | some range =>
    let span := ⟨tag.marker.start, range.stop⟩
    match Tag.read s.delimiters (tag.inside.upTo range.start) with
    | .error fault => .error ⟨fault, line, span, id⟩
    | .ok (kind, delimiters) =>
      .ok (⟨kind, line, span, id⟩, ⟨tag.inside.advanceTo range.stop found.newlines, delimiters⟩)

/-- A round of the scan. -/
def round (id : TemplateId) (s : State) : Round :=
  match s.openTag? with
  | none => ⟨s.textUpTo id s.cursor.template.size, .finished⟩
  | some tag =>
    let text := s.textUpTo id tag.marker.start
    match s.readTag id tag with
    | .error e => ⟨text, .failed e⟩
    | .ok (token, next) => ⟨text ++ [token], .more next⟩

/-! ## Progress -/

theorem length_ahead_of_openTag? {s : State} {tag : OpenTag} (h : s.openTag? = some tag) :
    tag.inside.ahead.length < s.cursor.ahead.length := by
  obtain ⟨range, hrange, rfl⟩ := Option.map_eq_some_iff.mp h
  obtain ⟨k, hk, -, hstop⟩ := Cursor.toNat_of_range_find hrange
  have hle := Marker.offset?_add_length_le hk
  have hpos : 0 < s.delimiters.opening.utf8ByteSize :=
    Nat.pos_of_ne_zero (mt String.utf8ByteSize_eq_zero_iff.mp s.delimiters.opening_ne)
  rw [Text.length_bytes] at hle
  simp only
  rw [Cursor.ahead_advanceTo _ (by omega), List.length_drop]
  omega

theorem length_ahead_of_readTag {id : TemplateId} {s : State} {tag : OpenTag} {token : Token}
    {next : State} (h : s.readTag id tag = .ok (token, next)) :
    next.cursor.ahead.length ≤ tag.inside.ahead.length := by
  simp only [readTag] at h
  split at h
  · cases h
  · rename_i range hrange
    split at h
    · cases h
    · obtain ⟨-, rfl⟩ := Prod.mk.inj (Except.ok.inj h)
      obtain ⟨k, -, -, hstop⟩ := Cursor.toNat_of_range_find hrange
      simp only
      rw [Cursor.ahead_advanceTo _ (by omega), List.length_drop]
      omega

/-- Every round that is not the last leaves less of the template. -/
theorem length_ahead_of_round {id : TemplateId} {s next : State}
    (h : (s.round id).next = .more next) :
    next.cursor.ahead.length < s.cursor.ahead.length := by
  simp only [round] at h
  split at h
  · cases h
  · rename_i tag htag
    split at h
    · cases h
    · rename_i token next' hread
      obtain rfl := Next.more.inj h
      exact Nat.lt_of_le_of_lt (length_ahead_of_readTag hread) (length_ahead_of_openTag? htag)

/-! ## All rounds -/

/-- Scans on from a state, for a consumer in a state of its own. -/
def run {σ : Type} (id : TemplateId) (k : Consumer σ) (s : State) (acc : σ) : Outcome × σ :=
  let round := s.round id
  match k.feed round.tokens acc with
  | (false, acc') => (.stopped, acc')
  | (true, acc') =>
    match _ : round.next with
    | .more next => next.run id k acc'
    | .finished => (.completed, acc')
    | .failed e => (.failed, k.onError e acc')
termination_by s.cursor.ahead.length
decreasing_by exact length_ahead_of_round ‹_›

end State

end Scan

/-- Scans a text for a consumer. A text that is too long to be a template fails without
    a single token. -/
def scan {σ : Type} (d : Delimiters) (text : String) (id : TemplateId) (k : Consumer σ)
    (acc : σ) : Outcome × σ :=
  match Template.ofText? text with
  | none => (.failed, k.onError ⟨.templateTooLarge, 1, ⟨0, 0⟩, id⟩ acc)
  | some t => (Scan.State.start t d).run id k acc

end Mustache
