-- SUMMARY: Key paths, the dotted names that variables and sections look up.
import Mustache.Text.Characters

/-!
# Key paths

A key path is `.`, the current context, or names joined by single dots, such as
`user.name`. A dot in front of the first name makes the lookup start at the current
context. A name is any non-empty text without blanks and dots. Blanks may surround a
key path but may not stand inside it.
-/

namespace Mustache

namespace KeyPath

/-- Whether the characters make a name: at least one, and no blank or dot. -/
def isName (cs : List Char) : Bool := !cs.isEmpty && cs.all fun c => !Text.isBlank c && c != '.'

structure Name where
  text : String
  valid : isName text.toList = true
  deriving DecidableEq

def Name.ofList? (cs : List Char) : Option Name :=
  if valid : isName cs then some { text := .ofList cs, valid := by simpa using valid } else none

end KeyPath

inductive KeyPath where
  /-- The current context itself, written `.`. -/
  | current
  /-- Names to look up one inside the other, beginning at the current context or
      wherever the first name is found. -/
  | names (fromCurrent : Bool) (first : KeyPath.Name) (others : List KeyPath.Name)
  deriving DecidableEq

namespace KeyPath

/-- The key path with the names that are written between dots. -/
def ofNames? (fromCurrent : Bool) (dotted : List Char) : Option KeyPath :=
  match (dotted.splitOn '.').mapM Name.ofList? with
  | some (first :: others) => some (.names fromCurrent first others)
  | _ => none

/-- Reads a key path with blanks around it. -/
def parse? (s : String) : Option KeyPath :=
  match Text.trim Text.isBlank s.toList with
  | ['.'] => some .current
  | '.' :: dotted => ofNames? true dotted
  | dotted => ofNames? false dotted

def texts : KeyPath → List String
  | current => []
  | names _ first others => (first :: others).map Name.text

/-- Whether the path begins at the current context. -/
def isExplicit : KeyPath → Bool
  | current => true
  | names fromCurrent _ _ => fromCurrent

def isCurrent (p : KeyPath) : Bool := p == current

/-- The parts of the path in lookup order, with `.` for the current context. -/
def components (p : KeyPath) : List String :=
  (if p.isExplicit then ["."] else []) ++ p.texts

def display (p : KeyPath) : String :=
  (if p.isExplicit then "." else "") ++ ".".intercalate p.texts

end KeyPath

end Mustache
