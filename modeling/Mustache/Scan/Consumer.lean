-- SUMMARY: Consumers of a scan, which receive its tokens and its error and may stop it.
import Mustache.SyntaxError
import Mustache.Token

/-!
# Consumers

A scan hands every token to a consumer as soon as it is read and keeps none. The
consumer answers whether the scan goes on. If the scan fails, the consumer receives
the error once, behind all tokens. A consumer has a state of any type, which both
operations update.
-/

namespace Mustache

structure Consumer (σ : Type) where
  /-- Receives a token. The scan stops if the answer is `false`. -/
  onToken : Token → σ → Bool × σ
  /-- Receives the error with which the scan fails. -/
  onError : SyntaxError → σ → σ

/-- An error as it is announced to a consumer that has no use for its details. -/
structure Notice where
  line : UInt32
  template : TemplateId
  description : String
  deriving DecidableEq, Repr

def SyntaxError.notice (e : SyntaxError) : Notice where
  line := e.line
  template := e.template
  description := e.fault.description

namespace Consumer

variable {σ : Type}

/-- Hands over tokens one by one until the consumer refuses to go on. -/
def feed (k : Consumer σ) : List Token → σ → Bool × σ
  | [], s => (true, s)
  | t :: rest, s =>
    match k.onToken t s with
    | (true, s') => k.feed rest s'
    | (false, s') => (false, s')

@[simp] theorem feed_nil (k : Consumer σ) (s : σ) : k.feed [] s = (true, s) := rfl

theorem feed_append (k : Consumer σ) (ts us : List Token) (s : σ) :
    k.feed (ts ++ us) s =
      match k.feed ts s with
      | (true, s') => k.feed us s'
      | (false, s') => (false, s') := by
  induction ts generalizing s with
  | nil => rfl
  | cons t ts ih =>
    simp only [List.cons_append, feed]
    split
    · exact ih _
    · rfl

/-! ## Ways to make a consumer -/

/-- A consumer that is told of the error by a notice. -/
def ofNotice (onToken : Token → σ → Bool × σ) (onNotice : Notice → σ → σ) : Consumer σ where
  onToken := onToken
  onError := fun e => onNotice e.notice

/-- A consumer made of two callbacks, each of which may be missing. Without a callback
    for tokens the scan never stops early, and without one for errors they are ignored. -/
def ofCallbacks (onToken : Option (Token → σ → Bool × σ))
    (onNotice : Option (Notice → σ → σ)) : Consumer σ :=
  ofNotice (onToken.getD fun _ s => (true, s)) (onNotice.getD fun _ s => s)

def silent : Consumer σ := ofNotice (fun _ s => (true, s)) (fun _ s => s)

end Consumer

end Mustache
