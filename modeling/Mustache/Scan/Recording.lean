-- SUMMARY: The consumer that writes down what it is told and may stop after some tokens.
import Mustache.Scan

/-!
# Recordings

A recording is the list of events of a scan in order: tokens, and the notice of an
error. The consumer that makes it may refuse to go on after a given number of tokens.
-/

namespace Mustache

inductive Event where
  | token (t : Token)
  | notice (n : Notice)
  deriving DecidableEq

structure Recording where
  events : Array Event
  /-- The number of tokens among the events. -/
  seen : Nat
  deriving DecidableEq

namespace Recording

def empty : Recording := ⟨#[], 0⟩

/-- Writes down a token and stops if it is the one after which to stop. -/
def onToken (stopAfter : Option Nat) (t : Token) (r : Recording) : Bool × Recording :=
  let seen := r.seen + 1
  (some seen != stopAfter, ⟨r.events.push (.token t), seen⟩)

def onNotice (n : Notice) (r : Recording) : Recording :=
  { r with events := r.events.push (.notice n) }

def consumer (stopAfter : Option Nat) : Consumer Recording :=
  .ofNotice (onToken stopAfter) onNotice

end Recording

end Mustache
