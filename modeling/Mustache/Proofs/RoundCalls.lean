-- SUMMARY: What a consumer is told of each round of a scan, and the lines it is told of.
import Mathlib.Data.List.Infix
import Mustache.Proofs.Calls
import Mustache.Proofs.Rounds

/-!
# Calls of a round

A round tells the consumer of the text in front of a tag and then of the tag, which is a token
or an error. What a scan tells the consumer is what its rounds do, one after another, unless
the consumer refuses a token of the last one (`Scan.Loop.exists_calls`).

A round has two cursors, one in front of the text and one behind the opening marker. They are
sound, and the lines they stand on are the only ones that a consumer is told of.
-/

namespace Mustache

/-! ## Scans that may be stopped -/

/-- The part of a list that a scan with the outcome gets to: the whole of it, or the first few
    if the scan is stopped. -/
def Outcome.Reaches {α : Type} (outcome : Outcome) (part whole : List α) : Prop :=
  part <+: whole ∧ (outcome ≠ .stopped → part = whole)

namespace Outcome.Reaches

variable {α β : Type} {outcome : Outcome} {part whole more : List α}

theorem refl (outcome : Outcome) (whole : List α) : outcome.Reaches whole whole :=
  ⟨List.prefix_rfl, fun _ => rfl⟩

theorem stopped (h : part <+: whole) : Outcome.stopped.Reaches part whole :=
  ⟨h, fun hne => absurd rfl hne⟩

theorem append (front : List α) (h : outcome.Reaches part whole) :
    outcome.Reaches (front ++ part) (front ++ whole) :=
  ⟨(List.prefix_append_right_inj front).mpr h.1, fun hne => congrArg (front ++ ·) (h.2 hne)⟩

theorem flatMap (f : α → List β) (h : outcome.Reaches part whole) :
    outcome.Reaches (part.flatMap f) (whole.flatMap f) :=
  ⟨h.1.flatMap f, fun hne => congrArg (List.flatMap f) (h.2 hne)⟩

theorem map (f : α → β) (h : outcome.Reaches part whole) :
    outcome.Reaches (part.map f) (whole.map f) :=
  ⟨h.1.map f, fun hne => congrArg (List.map f) (h.2 hne)⟩

theorem trans (h : outcome.Reaches part whole) (h' : outcome.Reaches whole more) :
    outcome.Reaches part more :=
  ⟨h.1.trans h'.1, fun hne => (h.2 hne).trans (h'.2 hne)⟩

end Outcome.Reaches

/-- A consumer that takes all tokens has written them down. -/
theorem Consumer.calls_of_feed_noting {σ : Type} {k : Consumer σ} {ts : List Token}
    {acc acc' : σ × List Call} (h : k.noting.feed ts acc = (true, acc')) :
    acc'.2 = acc.2 ++ ts.map .token := by
  rw [feed_noting] at h
  obtain ⟨hfeed, rfl⟩ := Prod.mk.inj h
  rw [taken_of_feed hfeed]

namespace Scan

/-! ## One round -/

def Next.error? : Next → Option SyntaxError
  | .failed e => some e
  | .more _ | .finished => none

/-- All that a consumer is told of a round that it does not stop. -/
def Round.calls (r : Round) : List Call := r.tokens.map .token ++ r.next.error?.toList.map .error

theorem Round.calls_of_error? {r : Round} (h : r.next.error? = none) :
    r.calls = r.tokens.map .token := by
  rw [calls, h]
  exact List.append_nil _

namespace State

variable {id : TemplateId} {s : State} {tag : OpenTag} {text : String}

/-- What a consumer is told of an open tag. -/
def tagCall (id : TemplateId) (s : State) (tag : OpenTag) : Call :=
  match s.readTag id tag with
  | .error e => .error e
  | .ok (token, _) => .token token

theorem calls_of_none (hopen : s.openTag? = none) :
    (s.round id).calls = (s.textUpTo id s.cursor.template.size).map .token := by
  rw [round, hopen]
  exact Round.calls_of_error? rfl

theorem calls_of_some (hopen : s.openTag? = some tag) :
    (s.round id).calls =
      (s.textUpTo id tag.marker.start).map .token ++ [s.tagCall id tag] := by
  rw [round, tagCall, hopen]
  simp only
  cases s.readTag id tag with
  | error e => rfl
  | ok result =>
    rw [Round.calls_of_error? rfl]
    exact List.map_append

/-! ## Lines -/

theorem line_textUpTo {stop : UInt32} {call : Call}
    (h : call ∈ (s.textUpTo id stop).map .token) : call.line = s.cursor.line := by
  rw [textUpTo] at h
  split at h
  · rw [List.mem_singleton.mp h]
    rfl
  · cases h

/-- A tag has the line on which it opens, also if something is wrong with it. -/
theorem line_tagCall (id : TemplateId) (s : State) (tag : OpenTag) :
    (s.tagCall id tag).line = tag.inside.line := by
  rw [tagCall, readTag]
  cases (tag.inside.find (closingMarker s.delimiters tag.inside.peek)).range with
  | none => rfl
  | some range =>
    simp only
    cases Tag.read s.delimiters (tag.inside.upTo range.start) <;> rfl

theorem bounds_of_mem_calls {call : Call} (h : s.cursor.Sound text)
    (hcall : call ∈ (s.round id).calls) :
    1 ≤ call.line.toNat ∧ call.line.toNat ≤ max 1 s.cursor.template.size.toNat := by
  cases hopen : s.openTag? with
  | none =>
    rw [calls_of_none hopen] at hcall
    rw [line_textUpTo hcall]
    exact h.line_bounds
  | some tag =>
    rw [calls_of_some hopen] at hcall
    obtain htext | htag := List.mem_append.mp hcall
    · rw [line_textUpTo htext]
      exact h.line_bounds
    · obtain ⟨_, inside, -, hinside, htemplate, -⟩ := exists_inside h hopen
      rw [List.mem_singleton.mp htag, line_tagCall, ← htemplate]
      exact hinside.line_bounds

end State

/-! ## All rounds -/

namespace Loop

variable {σ : Type} {id : TemplateId} {k : Consumer σ} {s : State} {rounds : List State}
  {r : Outcome × σ × List Call} {acc : σ × List Call} {text : String}

/-- A consumer that writes down its calls is told of every round. -/
theorem exists_calls (h : Loop id k.noting s acc rounds r) :
    ∃ calls, r.2.2 = acc.2 ++ calls ∧
      r.1.Reaches calls (rounds.flatMap fun s => (s.round id).calls) := by
  induction h with
  | @stopped s acc acc' hfeed =>
    rw [Consumer.feed_noting] at hfeed
    obtain ⟨-, rfl⟩ := Prod.mk.inj hfeed
    refine ⟨_, rfl, .stopped ?_⟩
    rw [List.flatMap_singleton, Round.calls]
    exact ((k.taken_prefix _ _).map _).trans (List.prefix_append _ _)
  | @finished s _ _ hfeed hnext =>
    have hcalls : (s.round id).calls = (s.round id).tokens.map .token :=
      Round.calls_of_error? (by rw [hnext]; rfl)
    refine ⟨_, Consumer.calls_of_feed_noting hfeed, ?_⟩
    rw [List.flatMap_singleton, hcalls]
    exact .refl _ _
  | @failed s _ _ e hfeed hnext =>
    have hcalls : (s.round id).calls = (s.round id).tokens.map .token ++ [.error e] := by
      rw [Round.calls, hnext]
      rfl
    refine ⟨(s.round id).calls, ?_, ?_⟩
    · rw [hcalls, ← List.append_assoc, ← Consumer.calls_of_feed_noting hfeed]
      rfl
    · rw [List.flatMap_singleton]
      exact .refl _ _
  | @more s _ _ _ _ _ hfeed hnext _ ih =>
    have hcalls : (s.round id).calls = (s.round id).tokens.map .token :=
      Round.calls_of_error? (by rw [hnext]; rfl)
    obtain ⟨calls, hlast, hreaches⟩ := ih
    rw [Consumer.calls_of_feed_noting hfeed, List.append_assoc, ← hcalls] at hlast
    rw [List.flatMap_cons]
    exact ⟨_, hlast, hreaches.append _⟩

end Loop

end Scan

end Mustache
