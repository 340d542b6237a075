-- SUMMARY: The consumer that keeps all tokens and the last error, and the tokens of a whole template.
import Mustache.Scan

/-!
# Collections

A collection keeps every token it is given and the most recent error. It may be fed by
several scans, one after another: tokens accumulate, and an error stays until another
one replaces it. `tokenize` is a single scan into an empty collection.
-/

namespace Mustache

structure Collection where
  tokens : Array Token
  error : Option SyntaxError
  deriving DecidableEq

namespace Collection

def empty : Collection := ⟨#[], none⟩

def consumer : Consumer Collection where
  onToken := fun t c => (true, { c with tokens := c.tokens.push t })
  onError := fun e c => { c with error := some e }

/-- All tokens, or the error if there is one. -/
def result (c : Collection) : Except SyntaxError (Array Token) :=
  match c.error with
  | some e => .error e
  | none => .ok c.tokens

/-- Scans a further text into the collection, from the same delimiters as any other. -/
def add (d : Delimiters) (c : Collection) (text : String) (id : TemplateId) :
    Outcome × Collection :=
  scan d text id consumer c

/-- Scans texts one after another. The result is the outcome of every scan with the
    collection after it, and the collection in the end. -/
def addAll (d : Delimiters) : List (String × TemplateId) → Collection →
    List (Outcome × Collection) × Collection
  | [], c => ([], c)
  | (text, id) :: rest, c =>
    let step := c.add d text id
    let (steps, last) := addAll d rest step.2
    (step :: steps, last)

end Collection

def tokenize (d : Delimiters) (text : String) (id : TemplateId) :
    Except SyntaxError (Array Token) :=
  (Collection.empty.add d text id).2.result

end Mustache
