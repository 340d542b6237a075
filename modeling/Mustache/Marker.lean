-- SUMMARY: The leftmost occurrence of a marker and the line feeds in front of it.
import Mustache.Template

/-!
# Markers

Tags stand between markers, which are arbitrary non-empty texts. A marker is looked
for byte by byte, from a position that may be anywhere in the text. The answer is the
leftmost occurrence (`offset?_eq_some_iff`) together with the number of line feeds
that lie in front of it. The marker's own line feeds are not counted.
-/

namespace Mustache.Marker

/-! ## The leftmost occurrence -/

/-- The offset of the leftmost occurrence of the needle, given that the window starts
    `passed` bytes after the point from which offsets are counted. -/
def offsetFrom (needle : List UInt8) : (window : List UInt8) → (passed : Nat) → Option Nat
  | [], passed => if needle.isEmpty then some passed else none
  | b :: rest, passed =>
    if needle.isPrefixOf (b :: rest) then some passed else offsetFrom needle rest (passed + 1)

/-- The number of bytes in front of the leftmost occurrence of the needle. -/
def offset? (needle window : List UInt8) : Option Nat := offsetFrom needle window 0

theorem offsetFrom_eq_map (needle window : List UInt8) (passed : Nat) :
    offsetFrom needle window passed = (offset? needle window).map (· + passed) := by
  induction window generalizing passed with
  | nil =>
    simp only [offset?, offsetFrom]
    split <;> simp
  | cons b rest ih =>
    simp only [offset?, offsetFrom]
    split
    · simp
    · rw [ih (passed + 1), ih (0 + 1), Option.map_map]
      congr 1
      funext k
      simp only [Function.comp]
      omega

theorem offset?_nil (needle : List UInt8) :
    offset? needle [] = if needle = [] then some 0 else none := by
  cases needle <;> rfl

theorem offset?_cons (needle : List UInt8) (b : UInt8) (rest : List UInt8) :
    offset? needle (b :: rest) =
      if needle <+: b :: rest then some 0 else (offset? needle rest).map (· + 1) := by
  simp only [offset?, offsetFrom, List.isPrefixOf_iff_prefix]
  split
  · rfl
  · exact offsetFrom_eq_map needle rest (0 + 1)

/-- The needle occurs at the offset found and nowhere in front of it. -/
theorem offset?_eq_some_iff {needle window : List UInt8} {k : Nat} :
    offset? needle window = some k ↔
      k ≤ window.length ∧ needle <+: window.drop k ∧ ∀ j < k, ¬ needle <+: window.drop j := by
  induction window generalizing k with
  | nil =>
    rw [offset?_nil]
    by_cases h : needle = []
    · subst h
      constructor
      · rintro ⟨⟩
        simp
      · rintro ⟨hk, -⟩
        simp_all
    · simp [h]
  | cons b rest ih =>
    rw [offset?_cons]
    split
    · rename_i h
      constructor
      · rintro ⟨⟩
        exact ⟨Nat.zero_le _, by simpa using h, fun j hj => absurd hj (Nat.not_lt_zero j)⟩
      · rintro ⟨-, -, hmin⟩
        cases k with
        | zero => rfl
        | succ k => exact absurd (by simpa using h) (hmin 0 (Nat.succ_pos k))
    · rename_i h
      cases k with
      | zero =>
        constructor
        · intro hs
          simp at hs
        · rintro ⟨-, hp, -⟩
          exact absurd (by simpa using hp) h
      | succ k =>
        have hsucc : (offset? needle rest).map (· + 1) = some (k + 1) ↔
            offset? needle rest = some k := by
          simp
        rw [hsucc, ih]
        constructor
        · rintro ⟨hk, hp, hmin⟩
          refine ⟨by simpa using hk, by simpa using hp, ?_⟩
          intro j hj
          cases j with
          | zero => simpa using h
          | succ j => simpa using hmin j (by omega)
        · rintro ⟨hk, hp, hmin⟩
          refine ⟨by simpa using hk, by simpa using hp, ?_⟩
          intro j hj
          simpa using hmin (j + 1) (by omega)

theorem offset?_add_length_le {needle window : List UInt8} {k : Nat}
    (h : offset? needle window = some k) : k + needle.length ≤ window.length := by
  obtain ⟨hk, hp, -⟩ := offset?_eq_some_iff.mp h
  have := hp.length_le
  rw [List.length_drop] at this
  omega

/-- Whether the needle occurs at all. -/
def occursIn (needle window : String) : Bool :=
  (offset? (Text.bytes needle) (Text.bytes window)).isSome

/-! ## Searches -/

/-- What a search for a marker finds. -/
structure Match where
  /-- The bytes of the leftmost occurrence, if there is one. -/
  range : Option Span
  /-- The number of line feeds from the start of the search up to the occurrence, or up
      to the end of the text if there is none. -/
  newlines : UInt32
  deriving DecidableEq, Repr

/-- Searches a window of a text that starts at the given offset of the text. -/
def search (needle window : List UInt8) (origin : UInt32) : Match :=
  match offset? needle window with
  | some k =>
    { range := some ⟨origin + .ofNat k, origin + .ofNat (k + needle.length)⟩
      newlines := .ofNat (Text.newlines (window.take k)) }
  | none => { range := none, newlines := .ofNat (Text.newlines window) }

/-- Searches a text from a byte offset on, which may lie inside a character. -/
def find (needle haystack : String) (start : UInt32) : Match :=
  search (Text.bytes needle) ((Text.bytes haystack).drop start.toNat) start

end Mustache.Marker
