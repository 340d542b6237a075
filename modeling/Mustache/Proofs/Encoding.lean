-- SUMMARY: ASCII characters among the bytes of a text.
import Mustache.Text.Bytes

/-!
# ASCII in UTF-8

Line feeds are counted and braces are recognised by their bytes. This is the same as
counting and recognising the characters: UTF-8 writes an ASCII character as the byte of
its code, and no byte of any other character is an ASCII code.
-/

namespace Mustache.Text

/-- The byte that encodes an ASCII character. -/
def asciiByte (c : Char) : UInt8 := .ofNat c.toNat

theorem bytes_eq_flatMap (s : String) : bytes s = s.toList.flatMap String.utf8EncodeChar := by
  have : s.toByteArray = s.toList.utf8Encode := by simp
  rw [bytes, this, List.utf8Encode]
  simp

@[simp] theorem bytes_ofList_cons (c : Char) (cs : List Char) :
    bytes (.ofList (c :: cs)) = String.utf8EncodeChar c ++ bytes (.ofList cs) := by
  simp [bytes_eq_flatMap]

theorem utf8EncodeChar_of_ascii {c : Char} (h : c.toNat < 128) :
    String.utf8EncodeChar c = [asciiByte c] := by
  have hle : c.val.toNat ≤ 127 := Nat.le_of_lt_succ h
  simp only [String.utf8EncodeChar, hle, if_true]
  rfl

theorem le_toNat_of_mem_utf8EncodeChar {c : Char} {b : UInt8} (h : 128 ≤ c.toNat)
    (hb : b ∈ String.utf8EncodeChar c) : 128 ≤ b.toNat := by
  have hlt : ¬ c.val.toNat ≤ 127 := Nat.not_le_of_lt h
  simp only [String.utf8EncodeChar, hlt, if_false] at hb
  split at hb
  · simp only [List.mem_cons, List.not_mem_nil, or_false] at hb
    rcases hb with rfl | rfl <;> simp <;> omega
  · split at hb
    · simp only [List.mem_cons, List.not_mem_nil, or_false] at hb
      rcases hb with rfl | rfl | rfl <;> simp <;> omega
    · simp only [List.mem_cons, List.not_mem_nil, or_false] at hb
      rcases hb with rfl | rfl | rfl | rfl <;> simp <;> omega

theorem asciiByte_mem_utf8EncodeChar {a c : Char} (ha : a.toNat < 128) :
    asciiByte a ∈ String.utf8EncodeChar c ↔ c = a := by
  have htoNat : (asciiByte a).toNat = a.toNat := by
    simp only [asciiByte, UInt8.toNat_ofNat']
    omega
  by_cases hc : c.toNat < 128
  · rw [utf8EncodeChar_of_ascii hc, List.mem_singleton]
    constructor
    · intro h
      have hcode := congrArg UInt8.toNat h
      rw [htoNat, asciiByte, UInt8.toNat_ofNat', Nat.mod_eq_of_lt (by omega)] at hcode
      exact (Char.toNat_inj.mp hcode).symm
    · rintro rfl
      rfl
  · constructor
    · intro h
      have := le_toNat_of_mem_utf8EncodeChar (Nat.le_of_not_lt hc) h
      omega
    · rintro rfl
      exact absurd ha hc

/-- A text has the byte of an ASCII character only where it has the character. -/
theorem asciiByte_mem_bytes {a : Char} (ha : a.toNat < 128) {s : String} :
    asciiByte a ∈ bytes s ↔ a ∈ s.toList := by
  simp [bytes_eq_flatMap, asciiByte_mem_utf8EncodeChar ha]

/-- A text begins with an ASCII character if its bytes begin with the character's. -/
theorem headD_bytes_eq_asciiByte {a : Char} (ha : a.toNat < 128) (hpos : 0 < a.toNat)
    {s : String} : (bytes s).headD 0 = asciiByte a ↔ s.toList.head? = some a := by
  obtain ⟨cs, rfl⟩ := s.exists_eq_ofList
  cases cs with
  | nil =>
    have : asciiByte a ≠ 0 := by
      intro h
      have hcode := congrArg UInt8.toNat h
      simp only [asciiByte, UInt8.toNat_ofNat'] at hcode
      simp at hcode
      omega
    simp [Ne.symm this]
  | cons c cs =>
    rw [bytes_ofList_cons, String.toList_ofList, List.head?_cons, Option.some_inj,
      ← asciiByte_mem_utf8EncodeChar ha]
    constructor
    · intro h
      cases henc : String.utf8EncodeChar c with
      | nil => simp at henc
      | cons b bs =>
        rw [henc] at h
        simp only [List.cons_append, List.headD_cons] at h
        simp [h]
    · intro h
      obtain rfl := (asciiByte_mem_utf8EncodeChar ha).mp h
      simp [utf8EncodeChar_of_ascii ha]

theorem newlines_append (bs cs : List UInt8) :
    newlines (bs ++ cs) = newlines bs + newlines cs := List.count_append

theorem newlines_bytes_eq_zero {s : String} : newlines (bytes s) = 0 ↔ '\n' ∉ s.toList := by
  rw [newlines, List.count_eq_zero]
  exact not_congr (asciiByte_mem_bytes (a := '\n') (by decide))

end Mustache.Text
