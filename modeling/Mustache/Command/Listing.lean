-- SUMMARY: The tokens of a template written to a sink, each ended by a line feed, and their number.
import Mustache.Command.Options
import Mustache.Scan

/-!
# Listings

A listing shows every token as soon as it is read and ends it with a line feed. It goes
to a sink, which may run full in the middle of a token. A sink that is full ends the
scan. If several things go wrong, a failed write counts before a failed flush, and a
failed flush before an error of the template.

A template can also be checked: it is scanned to the end and its tokens are counted.
Nothing else of the tokens is kept.
-/

namespace Mustache

/-! ## Sinks -/

/-- A place to write to, with everything that was written so far. -/
structure Sink where
  written : ByteArray
  /-- The number of bytes that the sink takes in all, if there is a limit. -/
  limit : Option Nat
  /-- Whether the sink refuses to pass on what it holds. -/
  flushFails : Bool

namespace Sink

def ofLimit (limit : Option Nat) (flushFails : Bool) : Sink := ⟨.empty, limit, flushFails⟩

def unlimited : Sink := ofLimit none false

/-- Writes as much of a text as the sink takes. The answer is whether that is all. -/
def write (s : Sink) (text : String) : Bool × Sink :=
  let bytes := text.toUTF8
  match s.limit with
  | none => (true, { s with written := s.written ++ bytes })
  | some limit =>
    let room := limit - s.written.size
    (bytes.size ≤ room, { s with written := s.written ++ bytes.extract 0 room })

def text (s : Sink) : String := Text.ofBytes s.written.data.toList

end Sink

/-! ## Listings -/

namespace Listing

inductive Failure where
  | output
  | template (e : SyntaxError)
  deriving DecidableEq, Repr

def Failure.message : Failure → String
  | output => "cannot write output: broken pipe"
  | template e => e.message

def Failure.report : Failure → String
  | output => "error: " ++ output.message
  | template e => e.report

/-- A listing in the making. -/
structure Progress where
  sink : Sink
  count : Nat
  error : Option SyntaxError

def line (t : Token) : String := t.display ++ "\n"

/-- The consumer that writes every token until a write fails. -/
def consumer : Consumer Progress where
  onToken := fun t p =>
    let (complete, sink) := p.sink.write (line t)
    (complete, { p with sink, count := if complete then p.count + 1 else p.count })
  onError := fun e p => { p with error := some e }

/-- Lists the tokens of a text. The result is the number of tokens and the sink. -/
def write (o : Options) (text : String) (sink : Sink) : Except Failure Nat × Sink :=
  let (outcome, p) := scan o.delimiters text o.templateId consumer ⟨sink, 0, none⟩
  let result :=
    if outcome = .stopped || p.sink.flushFails then .error .output
    else
      match p.error with
      | some e => .error (.template e)
      | none => .ok p.count
  (result, p.sink)

end Listing

/-! ## Counts -/

structure Count where
  tokens : Nat
  error : Option SyntaxError
  deriving DecidableEq, Repr

namespace Count

def consumer : Consumer Count where
  onToken := fun _ c => (true, { c with tokens := c.tokens + 1 })
  onError := fun e c => { c with error := some e }

/-- The number of tokens of a text, or its error. -/
def ofText (o : Options) (text : String) : Except SyntaxError Nat :=
  let c := (scan o.delimiters text o.templateId consumer ⟨0, none⟩).2
  match c.error with
  | some e => .error e
  | none => .ok c.tokens

end Count

end Mustache
