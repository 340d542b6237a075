-- SUMMARY: Classes of characters, and the parts into which they divide a text.

/-!
# Characters

Blanks are the four characters that may pad a key path or a partial name. White space is
the Unicode property of that name. Both are dropped from the ends of a text by `trim`, and
white space divides a text into words.

Properties of characters are tables of closed ranges `(first, last)` of code points. The
ranges of a table ascend and do not touch. The tables of this library state the Unicode
17.0 properties.
-/

namespace Mustache.Text

/-! ## Tables of code points -/

/-- An ascending table of closed ranges of code points. -/
abbrev Ranges := List (Nat × Nat)

/-- Whether a code point lies in a range of the table. The search gives up at the
    first range that starts behind the code point. -/
def Ranges.contains : Ranges → Nat → Bool
  | [], _ => false
  | (first, last) :: rest, n => first ≤ n && (n ≤ last || Ranges.contains rest n)

/-! ## Blanks and white space -/

/-- Space, tab, line feed and carriage return. Other white space, such as a no-break
    space, may be part of a name. -/
def isBlank (c : Char) : Bool := c == ' ' || c == '\t' || c == '\n' || c == '\r'

/-- Whether a byte of UTF-8 encodes a blank. Every blank is one byte, and bytes of longer
    characters never are. -/
def isBlankByte (b : UInt8) : Bool := isBlank (Char.ofUInt8 b)

/-- The Unicode property White_Space, which holds the blanks and 21 more characters. -/
def whiteSpace : Ranges :=
  [(0x9, 0xD), (0x20, 0x20), (0x85, 0x85), (0xA0, 0xA0), (0x1680, 0x1680), (0x2000, 0x200A),
   (0x2028, 0x2029), (0x202F, 0x202F), (0x205F, 0x205F), (0x3000, 0x3000)]

def isWhiteSpace (c : Char) : Bool := whiteSpace.contains c.toNat

/-! ## Parts of a text -/

/-- What is left of a run of characters when the characters of a class are dropped from
    both of its ends. -/
def trim (p : Char → Bool) (cs : List Char) : List Char :=
  ((cs.dropWhile p).reverse.dropWhile p).reverse

theorem trim_append_left {p : Char → Bool} {pad cs : List Char} (h : ∀ c ∈ pad, p c) :
    trim p (pad ++ cs) = trim p cs := by
  rw [trim, List.dropWhile_append_of_pos h, trim]

/-- The maximal non-empty runs of characters that are not white space. -/
def words (cs : List Char) : List (List Char) :=
  (cs.splitOnP isWhiteSpace).filter (!·.isEmpty)

/-- The text made of lines. Every line is ended by a line feed, the last one included. -/
def ofLines (lines : List String) : String := String.join (lines.map (· ++ "\n"))

end Mustache.Text
