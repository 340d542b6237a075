-- SUMMARY: What stands inside a tag: its sigil, its body and the faults they can have.
import Mustache.Delimiters
import Mustache.Marker
import Mustache.SyntaxError
import Mustache.Token

/-!
# Tags

The first character between the markers of a tag may be a sigil, which says what the
tag is. The rest is then its body. Without a sigil everything between the markers is
the key path of an escaped variable.

A partial is named by the text that is left of a tag's body without the blanks around it.
Everything else belongs to the name, blanks inside it included.

A tag with several faults has the first of these: it is empty, it contains an opening
marker, or its body is not what the sigil asks for.
-/

namespace Mustache

/-- The name of a partial, which is not empty. -/
def PartialName.parse? (s : String) : Option String :=
  match Text.trim Text.isBlank s.toList with
  | [] => none
  | name => some (.ofList name)

inductive Sigil where
  | comment
  | lookup (purpose : Lookup)
  | inclusion
  | delimiterChange
  deriving DecidableEq

/-- The sigils and their characters. A brace belongs to a tag with three braces on each
    side. -/
def Sigil.ofChar? : Char → Option Sigil
  | '!' => some .comment
  | '#' => some (.lookup .opening)
  | '^' => some (.lookup .inverted)
  | '/' => some (.lookup .closing)
  | '&' => some (.lookup .unescaped)
  | '\x7b' => some (.lookup .unescaped)
  | '>' => some .inclusion
  | '=' => some .delimiterChange
  | _ => none

namespace Tag

def readLookup (purpose : Lookup) (body : String) : Except Fault Token.Kind :=
  match KeyPath.parse? body with
  | some path => .ok (.lookup purpose path)
  | none => .error .invalidKeyPath

def readInclusion (body : String) : Except Fault Token.Kind :=
  match PartialName.parse? body with
  | some name => .ok (.inclusion name)
  | none => .error .invalidPartialName

/-- Reads what stands between the markers of a tag. The result is the kind of the tag
    and the delimiters that are in force behind it. -/
def read (d : Delimiters) (inner : String) : Except Fault (Token.Kind × Delimiters) :=
  match inner.toList with
  | [] => .error .emptyTag
  | first :: rest =>
    let body := String.ofList rest
    if Marker.occursIn d.opening inner then .error .unclosedTag
    else
      match Sigil.ofChar? first with
      | some .comment => .ok (.comment body, d)
      | some (.lookup purpose) => (readLookup purpose body).map (·, d)
      | some .inclusion => (readInclusion body).map (·, d)
      | some .delimiterChange =>
        match Delimiters.ofTagBody? inner with
        | some new => .ok (.delimiterChange, new)
        | none => .error .invalidDelimiters
      | none => (readLookup .escaped inner).map (·, d)

end Tag

end Mustache
