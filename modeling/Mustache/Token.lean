-- SUMMARY: The tokens of a template and the form in which they are shown.
import Mustache.KeyPath
import Mustache.Template
import Mustache.Text.Quoted

/-!
# Tokens

A template is a sequence of tokens: literal text and tags. A token says what it is,
the line on which it begins and the bytes it covers, markers included.
-/

namespace Mustache

/-- What a tag does with the value at a key path: insert it, with special characters
    escaped or not, or begin or end a section for it. An inverted section is for a value
    that is missing or empty. -/
inductive Lookup where
  | escaped
  | unescaped
  | opening
  | inverted
  | closing
  deriving DecidableEq, Repr

namespace Lookup

def name : Lookup → String
  | escaped => "EscapedVariable"
  | unescaped => "UnescapedVariable"
  | opening => "SectionOpening"
  | inverted => "InvertedSectionOpening"
  | closing => "SectionClosing"

end Lookup

namespace Token

inductive Kind where
  | text (content : String)
  | comment (content : String)
  | lookup (purpose : Lookup) (path : KeyPath)
  | inclusion (name : String)
  /-- A change of the delimiters, which are already in force behind the token. -/
  | delimiterChange
  deriving DecidableEq

namespace Kind

def name : Kind → String
  | text _ => "Text"
  | comment _ => "Comment"
  | lookup purpose _ => purpose.name
  | inclusion _ => "Partial"
  | delimiterChange => "SetDelimiter"

def isText : Kind → Bool
  | text _ => true
  | _ => false

def path? : Kind → Option KeyPath
  | lookup _ path => some path
  | _ => none

/-- What is shown of the kind besides its name. -/
def detail : Kind → String
  | text content | comment content => " " ++ Text.quoted content
  | lookup _ path => " " ++ path.display
  | inclusion name => " " ++ name
  | delimiterChange => ""

end Kind

end Token

structure Token where
  kind : Token.Kind
  line : UInt32
  /-- The bytes of the token. Those of a tag include its markers. -/
  span : Span
  template : TemplateId
  deriving DecidableEq

namespace Token

/-- The piece of the template from which the token was read. -/
def source (t : Token) (text : String) : String := t.span.slice text

/-- The form `line:start..stop Kind detail`. -/
def display (t : Token) : String :=
  toString t.line.toNat ++ ":" ++ t.span.display ++ " " ++ t.kind.name ++ t.kind.detail

end Token

end Mustache
