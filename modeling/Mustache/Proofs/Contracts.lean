-- SUMMARY: The operations of a scan with their contracts, and that a sound cursor keeps them.
import Mustache.Proofs.InForce
import Mustache.Proofs.Moves

/-!
# Contracts

The operations of a scan are total. They give some result for any numbers: a slice that does
not lie between two characters is empty, a span may end in front of its beginning, a cursor
may move anywhere, and words wrap around. None of this is meant to happen. The operations
have contracts, and the checked operations of this module fail where a contract is broken.

A cursor that is sound keeps all contracts. Its searches begin within the template, what they
find can be sliced, and it moves forward.
-/

namespace Mustache

/-- What breaks the contract of an operation. -/
inductive Breach where
  /-- A search begins behind the end of its text. -/
  | search
  /-- A slice does not reach from one character boundary of its text to a later one. -/
  | slice
  /-- A span ends in front of its beginning. -/
  | span
  /-- A cursor moves back, or behind the end of its template. -/
  | move
  /-- The number of a line does not fit into a word. -/
  | line
  /-- A round leaves as much of the template as there was. -/
  | standstill
  deriving DecidableEq, Repr

namespace Checked

def require (p : Prop) [Decidable p] (breach : Breach) : Except Breach Unit :=
  if p then .ok () else .error breach

/-- Both offsets lie within the text and between its characters, in this order. -/
def Sliceable (text : String) (start stop : Nat) : Prop :=
  start ≤ stop ∧ stop ≤ text.utf8ByteSize ∧
    String.Pos.Raw.IsValid text ⟨start⟩ ∧ String.Pos.Raw.IsValid text ⟨stop⟩

instance {text : String} {start stop : Nat} : Decidable (Sliceable text start stop) :=
  inferInstanceAs (Decidable (_ ∧ _))

def slice (text : String) (start stop : Nat) : Except Breach String := do
  require (Sliceable text start stop) .slice
  .ok (Text.cut text start stop)

def span (start stop : UInt32) : Except Breach Span := do
  require (start ≤ stop) .span
  .ok ⟨start, stop⟩

/-- Looks for a marker in the template, from the position of the cursor on. -/
def find (c : Cursor) (needle : String) : Except Breach Marker.Match := do
  require (c.pos ≤ c.template.size) .search
  let found := Marker.find needle c.template.text c.pos
  match found.range with
  | none => .ok found
  | some range =>
    let range ← span range.start range.stop
    .ok { found with range := some range }

def advanceTo (c : Cursor) (pos newlines : UInt32) : Except Breach Cursor := do
  require (c.pos ≤ pos ∧ pos ≤ c.template.size) .move
  require (c.line.toNat + newlines.toNat < UInt32.size) .line
  .ok (c.advanceTo pos newlines)

/-! ## Operations that keep their contracts -/

theorem ok_bind {α β : Type} (a : α) (f : α → Except Breach β) : (Except.ok a >>= f) = f a := rfl

theorem require_eq {p : Prop} [Decidable p] (h : p) (breach : Breach) :
    require p breach = .ok () := if_pos h

theorem sliceable_append (before piece behind : String) :
    Sliceable (before ++ (piece ++ behind)) before.utf8ByteSize
      (before.utf8ByteSize + piece.utf8ByteSize) := by
  refine ⟨Nat.le_add_right _ _, by simp only [String.utf8ByteSize_append]; omega, ?_, ?_⟩
  · exact String.Pos.Raw.isValid_iff_exists_append.mpr ⟨before, piece ++ behind, rfl, rfl⟩
  · refine String.Pos.Raw.isValid_iff_exists_append.mpr ⟨before ++ piece, behind, ?_, ?_⟩
    · rw [String.append_assoc]
    · rw [← String.utf8ByteSize_append]
      rfl

/-- A piece between two others can be sliced out. -/
theorem slice_append (before piece behind : String) :
    slice (before ++ (piece ++ behind)) before.utf8ByteSize
      (before.utf8ByteSize + piece.utf8ByteSize) = .ok piece := by
  rw [slice, require_eq (sliceable_append before piece behind), ok_bind, Text.cut_append]

theorem span_eq {start stop : UInt32} (h : start.toNat ≤ stop.toNat) :
    span start stop = .ok ⟨start, stop⟩ := by
  rw [span, require_eq (UInt32.le_iff_toNat_le.mpr h), ok_bind]

end Checked

namespace Cursor.Sound

variable {c : Cursor} {text needle before behind : String}

theorem checked_find_eq (h : c.Sound text) (hne : needle ≠ "") :
    Checked.find c needle = .ok (c.find needle) := by
  rw [Checked.find, Checked.require_eq (UInt32.le_iff_toNat_le.mpr h.pos_le), Checked.ok_bind,
    ← c.find_eq]
  obtain ⟨-, hfind⟩ | ⟨before, behind, rfl, -, hfind⟩ := h.find_cases hne
  · rw [hfind]
  · rw [hfind]
    have hspan : (UInt32.ofNat (c.pos.toNat + before.utf8ByteSize)).toNat ≤
        (UInt32.ofNat (c.pos.toNat + before.utf8ByteSize + needle.utf8ByteSize)).toNat := by
      rw [h.toAt.toNat_ofNat (by simp only [String.utf8ByteSize_append]; omega),
        h.toAt.toNat_ofNat (by simp only [String.utf8ByteSize_append]; omega)]
      exact Nat.le_add_right _ _
    simp only [Checked.span_eq hspan, Checked.ok_bind]

/-- The text up to a marker can be sliced out of the template. -/
theorem checked_slice_eq (h : c.Sound (before ++ behind)) :
    Checked.slice c.template.text c.pos.toNat
      (UInt32.ofNat (c.pos.toNat + before.utf8ByteSize)).toNat = .ok before := by
  obtain ⟨front, hfront, hpos⟩ := h.exists_front
  rw [h.toAt.toNat_ofNat (by simp only [String.utf8ByteSize_append]; omega), hfront, ← hpos,
    Checked.slice_append]

theorem checked_advanceTo_eq (h : c.Sound (before ++ needle ++ behind)) (hne : needle ≠ "") :
    let pos := UInt32.ofNat (c.pos.toNat + before.utf8ByteSize + needle.utf8ByteSize)
    let newlines := UInt32.ofNat (Text.newlines (Text.bytes before))
    Checked.advanceTo c pos newlines = .ok (c.advanceTo pos newlines) := by
  intro pos newlines
  obtain ⟨hnext, hnextPos, hline⟩ := h.advanceTo hne
  have hpos : pos.toNat = _ := hnextPos
  have hmove : c.pos ≤ pos ∧ pos ≤ c.template.size := by
    rw [UInt32.le_iff_toNat_le, UInt32.le_iff_toNat_le]
    have hle := hnext.pos_le
    exact ⟨by omega, hle⟩
  have hcredit : c.line.toNat + newlines.toNat < UInt32.size := by
    rw [String.append_assoc] at h
    have hnewlines : newlines.toNat = _ := h.toNat_newlines
    rw [hnewlines, ← hline]
    exact UInt32.toNat_lt _
  rw [Checked.advanceTo, Checked.require_eq hmove, Checked.ok_bind, Checked.require_eq hcredit,
    Checked.ok_bind]

end Cursor.Sound

end Mustache
