-- SUMMARY: A cursor that moves only behind markers it has found stays between characters, on a line within its position.
import Mustache.Proofs.Following

/-!
# Moves of a cursor

A cursor of a scan moves in one way only: it looks for a marker, moves behind the marker, and
is credited with the line feeds in front of it. Such a cursor is `Sound`. It stands between
two characters of its template, and its line is not greater than its position, unless it
still stands on the first line. For every line feed that is credited, there is a byte, and
the marker behind them makes up for the first line, which is 1 and not 0. So neither
positions nor lines outgrow the words that hold them.
-/

namespace Mustache.Cursor

/-- The cursor stands between two characters, in front of the text, and its line is within
    its position. -/
structure Sound (c : Cursor) (text : String) : Prop where
  ahead_eq : c.ahead = Text.bytes text
  pos_le : c.pos.toNat ≤ c.template.size.toNat
  one_le_line : 1 ≤ c.line.toNat
  line_le : c.line.toNat ≤ max 1 c.pos.toNat

theorem sound_start (t : Template) : (start t).Sound t.text :=
  ⟨rfl, Nat.zero_le _, Nat.le_refl 1, Nat.le_max_left 1 _⟩

namespace Sound

variable {c : Cursor} {text needle before behind : String}

theorem toAt (h : c.Sound text) : c.At text c.pos.toNat c.line.toNat where
  ahead_eq := h.ahead_eq
  toNat_pos := rfl
  line_eq := UInt32.ofNat_toNat.symm
  toNat_size := by
    have hlength := c.length_ahead
    rw [h.ahead_eq, Text.length_bytes] at hlength
    have := h.pos_le
    omega

theorem toNat_size (h : c.Sound text) :
    c.template.size.toNat = c.pos.toNat + text.utf8ByteSize := h.toAt.toNat_size

theorem line_bounds (h : c.Sound text) :
    1 ≤ c.line.toNat ∧ c.line.toNat ≤ max 1 c.template.size.toNat := by
  have hline := h.line_le
  have hpos := h.pos_le
  exact ⟨h.one_le_line, by omega⟩

/-- What lies behind the cursor and what lies ahead of it make up the template. -/
theorem exists_front (h : c.Sound text) :
    ∃ front, c.template.text = front ++ text ∧ front.utf8ByteSize = c.pos.toNat := by
  have hdrop : (Text.bytes c.template.text).drop c.pos.toNat = Text.bytes text := by
    rw [← c.ahead_eq, h.ahead_eq]
  have hsize := h.toNat_size
  rw [c.template.toNat_size, Text.length_bytes] at hsize
  by_cases hne : text = ""
  · subst hne
    exact ⟨c.template.text, by simp, by simpa using hsize⟩
  · have hprefix : Text.bytes text <+: (Text.bytes c.template.text).drop c.pos.toNat :=
      ⟨[], by rw [List.append_nil, hdrop]⟩
    obtain ⟨front, rest, hsplit, hfront⟩ := Text.exists_append_of_prefix_drop hne hprefix
    have hrest := congrArg String.utf8ByteSize hsplit
    simp only [String.utf8ByteSize_append] at hrest
    obtain rfl : rest = "" := String.utf8ByteSize_eq_zero_iff.mp (by omega)
    exact ⟨front, by simpa using hsplit, hfront⟩

/-! ## Searches -/

/-- A search finds the first occurrence in the text ahead. -/
theorem find_cases (h : c.Sound text) (hne : needle ≠ "") :
    ¬ Marker.Occurs needle text ∧
        c.find needle = ⟨none, .ofNat (Text.newlines (Text.bytes text))⟩ ∨
      ∃ before behind, text = before ++ needle ++ behind ∧ Marker.FirstBehind needle before ∧
        c.find needle =
          ⟨some ⟨.ofNat (c.pos.toNat + before.utf8ByteSize),
              .ofNat (c.pos.toNat + before.utf8ByteSize + needle.utf8ByteSize)⟩,
            .ofNat (Text.newlines (Text.bytes before))⟩ := by
  obtain hnone | ⟨before, behind, rfl, hfirst⟩ := Marker.not_occurs_or_exists_append hne text
  · exact .inl ⟨hnone, h.toAt.find_of_not_occurs hnone⟩
  · exact .inr ⟨before, behind, rfl, hfirst, h.toAt.find_of_firstBehind hfirst⟩

/-- The line feeds that a search counts fit into a word. -/
theorem toNat_newlines (h : c.Sound (before ++ behind)) :
    (UInt32.ofNat (Text.newlines (Text.bytes before))).toNat =
      Text.newlines (Text.bytes before) := by
  apply h.toAt.toNat_ofNat
  have hcount : Text.newlines (Text.bytes before) ≤ before.utf8ByteSize := List.count_le_length
  rw [String.utf8ByteSize_append]
  omega

/-! ## Moves -/

/-- Behind a marker that was found, the cursor is sound again, and no number has outgrown a
    word on the way. -/
theorem advanceTo (h : c.Sound (before ++ needle ++ behind)) (hne : needle ≠ "") :
    let next := c.advanceTo (.ofNat (c.pos.toNat + before.utf8ByteSize + needle.utf8ByteSize))
      (.ofNat (Text.newlines (Text.bytes before)))
    next.Sound behind ∧
      next.pos.toNat = c.pos.toNat + before.utf8ByteSize + needle.utf8ByteSize ∧
      next.line.toNat = c.line.toNat + Text.newlines (Text.bytes before) := by
  intro next
  have hnext := h.toAt.advanceTo (Text.newlines (Text.bytes before))
  rw [String.utf8ByteSize_append, ← Nat.add_assoc] at hnext
  have hneedle := Text.utf8ByteSize_pos hne
  have hcount : Text.newlines (Text.bytes before) ≤ before.utf8ByteSize := List.count_le_length
  have hsize : next.template.size.toNat = _ := hnext.toNat_size
  have hone := h.one_le_line
  have hle := h.line_le
  -- The marker has a byte to spare for the first line.
  have hline : next.line.toNat = c.line.toNat + Text.newlines (Text.bytes before) := by
    rw [hnext.line_eq]
    exact hnext.toNat_ofNat (by omega)
  have hpos : next.pos.toNat = _ := hnext.toNat_pos
  refine ⟨⟨hnext.ahead_eq, ?_, ?_, ?_⟩, hpos, hline⟩ <;> omega

end Sound

end Mustache.Cursor
