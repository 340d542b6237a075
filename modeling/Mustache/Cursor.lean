-- SUMMARY: A reading position in a template that looks ahead for markers and keeps count of lines.
import Mustache.Marker
import Mustache.Template

/-!
# Cursors

A cursor is a position in a template together with the line that it is on. Looking for
a marker does not move it. A move names the new position and the number of line feeds
that are credited for the way, which is the number a search reports.

The bytes that lie ahead are kept with the position, so that searching and cutting do
not start over from the beginning of the template.
-/

namespace Mustache

structure Cursor where
  template : Template
  /-- The offset of the next byte. -/
  pos : UInt32
  /-- The line of that byte. The first line is 1. -/
  line : UInt32
  /-- The bytes from the position to the end of the template. -/
  ahead : List UInt8
  ahead_eq : ahead = (Text.bytes template.text).drop pos.toNat

namespace Cursor

def start (t : Template) : Cursor where
  template := t
  pos := 0
  line := 1
  ahead := Text.bytes t.text
  ahead_eq := rfl

def atEnd (c : Cursor) : Bool := c.template.size ≤ c.pos

/-- The byte at an offset of the template. It is 0 behind the end. -/
def byteAt (c : Cursor) (pos : UInt32) : UInt8 :=
  (Text.bytes c.template.text).getD pos.toNat 0

/-- The next byte. It is 0 at the end. -/
def peek (c : Cursor) : UInt8 := c.ahead.headD 0

/-- The text from the position up to an offset that is not behind it. -/
def upTo (c : Cursor) (stop : UInt32) : String :=
  Text.ofBytes (c.ahead.take (stop.toNat - c.pos.toNat))

/-- The text from the position to the end of the template. -/
def rest (c : Cursor) : String := Text.ofBytes c.ahead

/-- Looks for a marker from the position on. -/
def find (c : Cursor) (needle : String) : Marker.Match :=
  Marker.search (Text.bytes needle) c.ahead c.pos

/-- Moves to an offset and credits the line feeds that were passed. -/
def advanceTo (c : Cursor) (pos newlines : UInt32) : Cursor where
  template := c.template
  pos := pos
  line := c.line + newlines
  ahead :=
    if c.pos ≤ pos then c.ahead.drop (pos.toNat - c.pos.toNat)
    else (Text.bytes c.template.text).drop pos.toNat
  ahead_eq := by
    split
    · rename_i h
      have := UInt32.le_iff_toNat_le.mp h
      rw [c.ahead_eq, List.drop_drop]
      congr 1
      omega
    · rfl

/-- Looks for a marker and moves behind it, if there is one. -/
def skipPast (c : Cursor) (needle : String) : Marker.Match × Cursor :=
  let found := c.find needle
  match found.range with
  | some range => (found, c.advanceTo range.stop found.newlines)
  | none => (found, c)

/-! ## Laws -/

/-- A cursor sees what a search of the whole template from its position sees. -/
theorem find_eq (c : Cursor) (needle : String) :
    c.find needle = Marker.find needle c.template.text c.pos := by
  rw [find, Marker.find, c.ahead_eq]

theorem length_ahead (c : Cursor) :
    c.ahead.length = c.template.size.toNat - c.pos.toNat := by
  rw [c.ahead_eq, List.length_drop, c.template.toNat_size]

theorem ahead_advanceTo (c : Cursor) {pos newlines : UInt32} (h : c.pos.toNat ≤ pos.toNat) :
    (c.advanceTo pos newlines).ahead = c.ahead.drop (pos.toNat - c.pos.toNat) := by
  simp [advanceTo, UInt32.le_iff_toNat_le, h]

/-- The offsets of a match, as numbers. No sum of offsets exceeds 32 bits. -/
theorem toNat_of_range_find {c : Cursor} {needle : String} {range : Span}
    (h : (c.find needle).range = some range) :
    ∃ k, Marker.offset? (Text.bytes needle) c.ahead = some k ∧
      range.start.toNat = c.pos.toNat + k ∧
      range.stop.toNat = c.pos.toNat + k + needle.utf8ByteSize := by
  simp only [find, Marker.search] at h
  split at h
  · rename_i k hk
    refine ⟨k, hk, ?_⟩
    have hle := Marker.offset?_add_length_le hk
    have hsize := c.template.size.toNat_lt
    have hpos := c.pos.toNat_lt
    rw [c.length_ahead, Text.length_bytes] at hle
    obtain rfl := Option.some.inj h
    simp only [UInt32.toNat_add, UInt32.toNat_ofNat', Text.length_bytes]
    omega
  · cases h

end Cursor

end Mustache
