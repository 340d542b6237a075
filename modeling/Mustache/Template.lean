-- SUMMARY: Templates, whose offsets fit into 32 bits, their spans and their identifiers.
import Mustache.Text.Bytes

/-!
# Templates

A template is a text whose length in bytes fits into 32 bits, so that every offset in
it does. A longer text is no template. A span is a half-open range of such offsets. The
identifier of a template only appears in messages.
-/

namespace Mustache

/-! ## Templates and their identifiers -/

structure Template where
  text : String
  fits : text.utf8ByteSize < UInt32.size

namespace Template

/-- The template with the given text, if the text is short enough. -/
def ofText? (text : String) : Option Template :=
  if fits : text.utf8ByteSize < UInt32.size then some { text, fits } else none

/-- The length of the template in bytes. -/
def size (t : Template) : UInt32 := .ofNat t.text.utf8ByteSize

theorem toNat_size (t : Template) : t.size.toNat = (Text.bytes t.text).length := by
  simp [size, UInt32.toNat_ofNat_of_lt' t.fits]

end Template

/-- The name a caller gives a template. The empty text is a name as well. -/
inductive TemplateId where
  | anonymous
  | named (name : String)
  deriving DecidableEq, Repr

def TemplateId.display : TemplateId → String
  | anonymous => "<anonymous>"
  | named name => name

/-! ## Spans -/

/-- The bytes from `start` up to, but not including, `stop`. -/
structure Span where
  start : UInt32
  stop : UInt32
  deriving DecidableEq, Repr

namespace Span

def isEmpty (s : Span) : Bool := s.start == s.stop

/-- The piece of a text that the span covers, for a span that lies within the text and
    on character boundaries. -/
def slice (s : Span) (text : String) : String :=
  Text.cut text s.start.toNat s.stop.toNat

/-- The form `start..stop`. -/
def display (s : Span) : String :=
  toString s.start.toNat ++ ".." ++ toString s.stop.toNat

end Span

end Mustache
