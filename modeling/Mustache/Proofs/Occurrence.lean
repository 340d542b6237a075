-- SUMMARY: Occurrences of markers in texts: they lie on character boundaries and split the text.
import Mustache.Marker

/-!
# Occurrences

A marker is looked for among the bytes of a text, but the scan cuts the text itself. A
needle that is not empty begins and ends with whole characters, and no character of
UTF-8 begins inside another one. So every occurrence of the needle lies on character
boundaries (`isValid_of_prefix_drop`) and splits the text into what stands in front of
it, the needle, and what stands behind it (`exists_append_of_prefix_drop`).

The search finds a leftmost occurrence. `FirstBehind` says this of the text in front of
it alone, whatever stands behind the marker.
-/

namespace Mustache

namespace Text

/-! ## Character boundaries -/

theorem take_bytes_append (s t : String) : (bytes (s ++ t)).take s.utf8ByteSize = bytes s := by
  rw [bytes_append, List.take_left' (length_bytes s)]

theorem drop_bytes_append (s t : String) : (bytes (s ++ t)).drop s.utf8ByteSize = bytes t := by
  rw [bytes_append, List.drop_left' (length_bytes s)]

/-- A piece between two others is cut out by its offsets. -/
theorem cut_append (before piece behind : String) :
    cut (before ++ (piece ++ behind)) before.utf8ByteSize
      (before.utf8ByteSize + piece.utf8ByteSize) = piece := by
  rw [cut_eq, ← String.append_assoc, ← String.utf8ByteSize_append, take_bytes_append,
    drop_bytes_append, ofBytes_bytes]

theorem utf8ByteSize_pos {s : String} (hne : s ≠ "") : 0 < s.utf8ByteSize :=
  Nat.pos_of_ne_zero (mt String.utf8ByteSize_eq_zero_iff.mp hne)

theorem add_le_of_prefix_drop {needle text : String} {k : Nat} (hne : needle ≠ "")
    (h : bytes needle <+: (bytes text).drop k) :
    k + needle.utf8ByteSize ≤ text.utf8ByteSize := by
  have hpos := utf8ByteSize_pos hne
  have := h.length_le
  rw [List.length_drop, length_bytes, length_bytes] at this
  omega

/-- Bytes that spell a text which is not empty begin and end between characters. -/
theorem isValid_of_prefix_drop {needle text : String} {k : Nat} (hne : needle ≠ "")
    (h : bytes needle <+: (bytes text).drop k) :
    String.Pos.Raw.IsValid text ⟨k⟩ ∧
      String.Pos.Raw.IsValid text ⟨k + needle.utf8ByteSize⟩ := by
  have hextract : text.toByteArray.extract k (k + needle.utf8ByteSize) = needle.toByteArray := by
    apply ByteArray.ext
    apply Array.toList_inj.mp
    change _ = bytes needle
    rw [List.prefix_iff_eq_take.mp h, length_bytes]
    simp [bytes, List.take_drop]
  have hvalid : (text.toByteArray.extract k (k + needle.utf8ByteSize)).IsValidUTF8 :=
    hextract ▸ needle.isValidUTF8
  have hle := add_le_of_prefix_drop hne h
  -- Bytes that are cut out of a text are UTF-8 if they are cut between characters, or if
  -- there are none.
  obtain heq | hboth := (String.Pos.Raw.isValidUTF8_extract_iff (s := text) ⟨k⟩
    ⟨k + needle.utf8ByteSize⟩ (by simp [String.Pos.Raw.le_iff])
    (by simpa [String.Pos.Raw.le_iff] using hle)).mp hvalid
  · have hpos := utf8ByteSize_pos hne
    have hk : k = k + needle.utf8ByteSize := congrArg String.Pos.Raw.byteIdx heq
    omega
  · exact hboth

/-- An occurrence splits the text around it. -/
theorem exists_append_of_prefix_drop {needle text : String} {k : Nat} (hne : needle ≠ "")
    (h : bytes needle <+: (bytes text).drop k) :
    ∃ before after, text = before ++ needle ++ after ∧ before.utf8ByteSize = k := by
  obtain ⟨hstart, hstop⟩ := isValid_of_prefix_drop hne h
  obtain ⟨before, fromStart, hbefore, hk⟩ := String.Pos.Raw.isValid_iff_exists_append.mp hstart
  obtain ⟨toStop, after, hafter, hk'⟩ := String.Pos.Raw.isValid_iff_exists_append.mp hstop
  replace hk : k = before.utf8ByteSize := congrArg String.Pos.Raw.byteIdx hk
  replace hk' : k + needle.utf8ByteSize = toStop.utf8ByteSize :=
    congrArg String.Pos.Raw.byteIdx hk'
  have htake : (bytes text).take k = bytes before := by
    rw [hbefore, hk, take_bytes_append]
  have hdrop : (bytes text).drop (k + needle.utf8ByteSize) = bytes after := by
    rw [hafter, hk', drop_bytes_append]
  refine ⟨before, after, ?_, hk.symm⟩
  apply bytes_inj.mp
  obtain ⟨rest, hrest⟩ := h
  have hafter' : rest = bytes after := by
    rw [← hdrop, ← List.drop_drop, ← hrest, List.drop_left' (length_bytes needle)]
  rw [bytes_append, bytes_append, ← htake, ← hafter', List.append_assoc, hrest,
    List.take_append_drop]

end Text

namespace Marker

/-! ## Occurrences of a needle -/

/-- The needle stands somewhere in the text. -/
def Occurs (needle text : String) : Prop := Text.bytes needle <:+: Text.bytes text

instance {needle text : String} : Decidable (Occurs needle text) :=
  inferInstanceAs (Decidable (_ <:+: _))

/-- In `before` followed by the needle, the needle occurs first where `before` ends. -/
def FirstBehind (needle before : String) : Prop :=
  ∀ k < before.utf8ByteSize,
    ¬ Text.bytes needle <+: (Text.bytes (before ++ needle)).drop k

instance {needle before : String} : Decidable (FirstBehind needle before) :=
  inferInstanceAs (Decidable (∀ k < _, _))

theorem occurs_append (before needle after : String) :
    Occurs needle (before ++ needle ++ after) :=
  ⟨Text.bytes before, Text.bytes after, by simp⟩

/-- In front of its first occurrence the needle does not occur. -/
theorem FirstBehind.not_occurs {needle before : String} (h : FirstBehind needle before)
    (hne : needle ≠ "") : ¬ Occurs needle before := by
  rintro ⟨front, back, hsplit⟩
  have hpos := Text.utf8ByteSize_pos hne
  have hlen := congrArg List.length hsplit
  simp only [List.length_append, Text.length_bytes] at hlen
  refine h front.length (by omega) ⟨back ++ Text.bytes needle, ?_⟩
  rw [Text.bytes_append, ← hsplit]
  simp

theorem firstBehind_empty (needle : String) : FirstBehind needle "" := by
  intro k hk
  simp at hk

/-! ## What the search finds -/

theorem offset?_eq_none_iff {needle window : List UInt8} :
    offset? needle window = none ↔ ¬ needle <:+: window := by
  induction window with
  | nil =>
    rw [offset?_nil]
    split <;> simp_all
  | cons b rest ih =>
    rw [offset?_cons, List.infix_cons_iff]
    split <;> simp_all

theorem occursIn_iff {needle window : String} :
    occursIn needle window = true ↔ Occurs needle window := by
  rw [occursIn, Occurs, Option.isSome_iff_ne_none]
  exact not_congr offset?_eq_none_iff |>.trans Classical.not_not

/-- What stands behind an occurrence does not matter to the search for the first one. -/
theorem FirstBehind.offset?_append {needle before : String} (h : FirstBehind needle before)
    (after : String) :
    offset? (Text.bytes needle) (Text.bytes (before ++ needle ++ after)) =
      some before.utf8ByteSize := by
  rw [offset?_eq_some_iff]
  refine ⟨by simp, ⟨Text.bytes after, ?_⟩, ?_⟩
  · simp [List.append_assoc, List.drop_left' (Text.length_bytes before)]
  · intro k hk hprefix
    rw [Text.bytes_append (before ++ needle), List.drop_append_of_le_length (by simp; omega)]
      at hprefix
    refine h k hk (List.prefix_of_prefix_length_le hprefix (List.prefix_append _ _) ?_)
    simp
    omega

/-- A text in front of the first occurrence does not begin with the needle. -/
theorem FirstBehind.not_prefix {needle before : String} (h : FirstBehind needle before)
    (hne : before ≠ "") (after : String) :
    ¬ Text.bytes needle <+: Text.bytes (before ++ needle ++ after) := by
  obtain ⟨-, -, hleast⟩ := offset?_eq_some_iff.mp (h.offset?_append after)
  exact hleast 0 (Text.utf8ByteSize_pos hne)

/-- The first occurrence, if there is one, splits the text. -/
theorem exists_append_of_offset? {needle text : String} {k : Nat} (hne : needle ≠ "")
    (h : offset? (Text.bytes needle) (Text.bytes text) = some k) :
    ∃ before after, text = before ++ needle ++ after ∧ FirstBehind needle before := by
  obtain ⟨-, hprefix, hleast⟩ := offset?_eq_some_iff.mp h
  obtain ⟨before, after, rfl, rfl⟩ := Text.exists_append_of_prefix_drop hne hprefix
  refine ⟨before, after, rfl, ?_⟩
  intro j hj hearlier
  refine hleast j hj ?_
  rw [Text.bytes_append (before ++ needle), List.drop_append_of_le_length (by simp; omega)]
  exact hearlier.trans (List.prefix_append _ _)

theorem not_occurs_or_exists_append {needle : String} (hne : needle ≠ "") (text : String) :
    ¬ Occurs needle text ∨
      ∃ before after, text = before ++ needle ++ after ∧ FirstBehind needle before := by
  cases h : offset? (Text.bytes needle) (Text.bytes text) with
  | none => exact .inl (offset?_eq_none_iff.mp h)
  | some k => exact .inr (exists_append_of_offset? hne h)

end Marker

end Mustache
