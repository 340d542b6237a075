-- SUMMARY: Text in double quotes on a single line, with escapes for what would not show.
import Mustache.Text.GraphemeExtend
import Mustache.Text.Unprintable

/-!
# Quoted text

Text is shown between double quotes. NUL, tab, carriage return, line feed, the double
quote and the backslash are written as a backslash and one character. Characters that
would not show, or only as part of the character in front of them, are written as their
code point in braces. All others stand for themselves.
-/

namespace Mustache.Text

/-- The halfwidth sound marks. They extend the character in front of them, but each has a
    cell and a visible form of its own. -/
def isSoundMark (c : Char) : Bool := c == '\uff9e' || c == '\uff9f'

/-- Whether a character has no visible form, or none of its own. -/
def isHidden (c : Char) : Bool :=
  isUnprintable c || isDefaultIgnorable c || (isGraphemeExtend c && !isSoundMark c)

/-- The code point in lower-case hexadecimal digits, without leading zeros. -/
def codePointEscape (c : Char) : List Char :=
  ['\\', 'u', '\x7b'] ++ Nat.toDigits 16 c.toNat ++ ['\x7d']

/-- How a character is written between double quotes. -/
def escape (c : Char) : List Char :=
  match c with
  | '\x00' => ['\\', '0']
  | '\t' => ['\\', 't']
  | '\r' => ['\\', 'r']
  | '\n' => ['\\', 'n']
  | '"' => ['\\', '"']
  | '\\' => ['\\', '\\']
  | c => if isHidden c then codePointEscape c else [c]

/-- The text between double quotes, on a single line. -/
def quoted (s : String) : String :=
  String.ofList ('"' :: s.toList.flatMap escape ++ ['"'])

end Mustache.Text
