-- SUMMARY: The pair of markers between which tags stand, and the tag bodies that change it.
import Mustache.Text.Characters

/-!
# Delimiters

Tags stand between an opening and a closing marker, `{{` and `}}` to begin with. Both
are arbitrary non-empty texts. A tag may replace the pair: its body names the new
markers between two equals signs, separated by white space.
-/

namespace Mustache

structure Delimiters where
  opening : String
  closing : String
  opening_ne : opening ≠ ""
  closing_ne : closing ≠ ""
  deriving DecidableEq

namespace Delimiters

/-- The pair of two markers, if neither is empty. -/
def ofMarkers? (opening closing : String) : Option Delimiters :=
  if h : opening ≠ "" ∧ closing ≠ "" then
    some { opening, closing, opening_ne := h.1, closing_ne := h.2 }
  else
    none

/-- The markers in force at the start of a template. -/
def standard : Delimiters where
  opening := "\x7b\x7b"
  closing := "\x7d\x7d"
  opening_ne := by decide
  closing_ne := by decide

/-- The characters between a first and a last equals sign. A single sign is not both. -/
def unwrap? : List Char → Option (List Char)
  | '=' :: rest =>
    match rest.reverse with
    | '=' :: body => some body.reverse
    | _ => none
  | _ => none

/-- Reads the body of a tag that sets the delimiters, equals signs included. Between the
    signs stand exactly two markers, which may themselves contain equals signs. -/
def ofTagBody? (body : String) : Option Delimiters := do
  let inner ← unwrap? body.toList
  match Text.words inner with
  | [opening, closing] => ofMarkers? (.ofList opening) (.ofList closing)
  | _ => none

/-- Both markers with a space between them. -/
def display (d : Delimiters) : String := d.opening ++ " " ++ d.closing

end Delimiters

end Mustache
