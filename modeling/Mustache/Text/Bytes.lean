-- SUMMARY: The UTF-8 bytes of a text and the text that a run of bytes spells.

/-!
# Bytes

Positions in a template count bytes, and markers are looked for byte by byte. This
module goes from a text to its UTF-8 bytes and back. Decoding undoes encoding
(`ofBytes_bytes`), so a piece cut out of the bytes of a text at character boundaries
is read back unchanged.
-/

namespace Mustache.Text

def bytes (s : String) : List UInt8 := s.toByteArray.data.toList

/-- The text that a run of bytes encodes, if the bytes are UTF-8. -/
def ofBytes? (bs : List UInt8) : Option String := String.fromUTF8? bs.toByteArray

/-- The text that a run of bytes encodes. The empty text stands for bytes that are
    not UTF-8. -/
def ofBytes (bs : List UInt8) : String := (ofBytes? bs).getD ""

/-- The piece of a text between two byte offsets. The empty text stands for a piece that
    begins or ends inside a character. -/
def cut (s : String) (start stop : Nat) : String :=
  (String.fromUTF8? (s.toByteArray.extract start stop)).getD ""

def newline : UInt8 := 10

def newlines (bs : List UInt8) : Nat := bs.count newline

/-! ## Encoding -/

@[simp] theorem length_bytes (s : String) : (bytes s).length = s.utf8ByteSize := rfl

@[simp] theorem bytes_empty : bytes "" = [] := rfl

@[simp] theorem bytes_append (s t : String) : bytes (s ++ t) = bytes s ++ bytes t := by
  simp [bytes]

theorem toByteArray_bytes (s : String) : (bytes s).toByteArray = s.toByteArray := by
  apply ByteArray.ext
  apply Array.toList_inj.mp
  simp [bytes]

theorem bytes_inj {s t : String} : bytes s = bytes t ↔ s = t := by
  constructor
  · intro h
    apply String.toByteArray_inj.mp
    rw [← toByteArray_bytes s, ← toByteArray_bytes t, h]
  · rintro rfl
    rfl

theorem bytes_eq_nil_iff {s : String} : bytes s = [] ↔ s = "" := by
  rw [← bytes_empty, bytes_inj]

/-! ## Decoding -/

@[simp] theorem ofBytes?_bytes (s : String) : ofBytes? (bytes s) = some s := by
  simp only [ofBytes?, toByteArray_bytes, String.fromUTF8?, dif_pos s.isValidUTF8]
  rfl

@[simp] theorem ofBytes_bytes (s : String) : ofBytes (bytes s) = s := by
  simp [ofBytes]

theorem cut_eq (s : String) (start stop : Nat) :
    cut s start stop = ofBytes (((bytes s).take stop).drop start) := by
  have : (((bytes s).take stop).drop start).toByteArray = s.toByteArray.extract start stop := by
    apply ByteArray.ext
    apply Array.toList_inj.mp
    simp [bytes, List.drop_take]
  rw [cut, ofBytes, ofBytes?, this]

theorem bytes_of_ofBytes? {bs : List UInt8} {s : String} (h : ofBytes? bs = some s) :
    bytes s = bs := by
  simp only [ofBytes?, String.fromUTF8?] at h
  split at h
  · cases h
    simp [bytes, String.fromUTF8]
  · cases h

end Mustache.Text
