-- SUMMARY: What a scan tells its consumer, for every consumer.
import Mustache.Proofs.Following

/-!
# Calls

A scan keeps no tokens. What it delivers is what its consumer is told, and a consumer
may do anything with that. To speak of the tokens and of the error that reach a consumer,
the consumer is made to write down every call, which changes neither its answers nor its
state (`scan_noting`).

A consumer is told of the pieces of the reading of its template: of all of them, or of
the first few up to the one it refuses (`Turnout`).
-/

namespace Mustache

/-- What a consumer is told by a scan. -/
inductive Call where
  | token (t : Token)
  | error (e : SyntaxError)
  deriving DecidableEq

namespace Call

def token? : Call → Option Token
  | token t => some t
  | error _ => none

def error? : Call → Option SyntaxError
  | token _ => none
  | error e => some e

def line : Call → UInt32
  | token t => t.line
  | error e => e.line

def span : Call → Span
  | token t => t.span
  | error e => e.span

section

variable (ts : List Token) (es : List SyntaxError)

theorem filterMap_token?_calls :
    (ts.map token ++ es.map error).filterMap token? = ts := by
  have htokens : (ts.map token).filterMap token? = ts := by
    rw [List.filterMap_map]
    exact List.filterMap_some
  have herrors : (es.map error).filterMap token? = [] := by
    rw [List.filterMap_map]
    exact List.filterMap_eq_nil_iff.mpr fun _ _ => rfl
  rw [List.filterMap_append, htokens, herrors, List.append_nil]

theorem filterMap_error?_calls :
    (ts.map token ++ es.map error).filterMap error? = es := by
  have htokens : (ts.map token).filterMap error? = [] := by
    rw [List.filterMap_map]
    exact List.filterMap_eq_nil_iff.mpr fun _ _ => rfl
  have herrors : (es.map error).filterMap error? = es := by
    rw [List.filterMap_map]
    exact List.filterMap_some
  rw [List.filterMap_append, htokens, herrors, List.nil_append]

end

/-- In front of an error there are all tokens, if no token comes behind errors. -/
theorem filterMap_token?_of_error {ts : List Token} {es : List SyntaxError} {e : SyntaxError}
    {before after : List Call} (h : ts.map token ++ es.map error = before ++ error e :: after) :
    before.filterMap token? = ts := by
  induction ts generalizing before with
  | nil =>
    obtain ⟨front, back, -, hfront, -⟩ := List.map_eq_append_iff.mp h
    rw [← hfront]
    exact filterMap_token?_calls [] front
  | cons t ts ih =>
    cases before with
    | nil => cases h
    | cons c before =>
      rw [List.map_cons, List.cons_append, List.cons_append, List.cons.injEq] at h
      obtain ⟨rfl, hrest⟩ := h
      exact congrArg (t :: ·) (ih hrest)

end Call

namespace Consumer

variable {σ : Type}

/-- A consumer that answers as the given one and writes down what it is told. -/
def noting (k : Consumer σ) : Consumer (σ × List Call) where
  onToken := fun t s => ((k.onToken t s.1).1, ((k.onToken t s.1).2, s.2 ++ [.token t]))
  onError := fun e s => (k.onError e s.1, s.2 ++ [.error e])

/-- The tokens that reach the consumer. The last one may be one that it refuses. -/
def taken (k : Consumer σ) : List Token → σ → List Token
  | [], _ => []
  | t :: rest, s =>
    match k.onToken t s with
    | (true, s') => t :: k.taken rest s'
    | (false, _) => [t]

theorem taken_prefix (k : Consumer σ) (ts : List Token) (s : σ) : k.taken ts s <+: ts := by
  induction ts generalizing s with
  | nil => exact List.prefix_rfl
  | cons t ts ih =>
    simp only [taken]
    split
    · exact (List.prefix_cons_inj t).mpr (ih _)
    · exact (List.prefix_cons_inj t).mpr List.nil_prefix

theorem taken_of_feed {k : Consumer σ} {ts : List Token} {s : σ} (h : (k.feed ts s).1 = true) :
    k.taken ts s = ts := by
  induction ts generalizing s with
  | nil => rfl
  | cons t ts ih =>
    unfold feed at h
    unfold taken
    cases hanswer : k.onToken t s with
    | mk goesOn s' =>
      rw [hanswer] at h
      cases goesOn with
      | false => cases h
      | true => exact congrArg (t :: ·) (ih h)

/-- A consumer refuses no more than it is given. -/
theorem taken_ne_of_feed {k : Consumer σ} {ts : List Token} {s : σ}
    (h : (k.feed ts s).1 = false) : k.taken ts s ≠ [] := by
  cases ts with
  | nil => simp at h
  | cons t ts =>
    simp only [taken]
    split
    · exact List.cons_ne_nil _ _
    · exact List.cons_ne_nil _ _

theorem feed_noting (k : Consumer σ) (ts : List Token) (s : σ) (calls : List Call) :
    k.noting.feed ts (s, calls) =
      ((k.feed ts s).1, ((k.feed ts s).2, calls ++ (k.taken ts s).map .token)) := by
  induction ts generalizing s calls with
  | nil => simp [taken]
  | cons t ts ih =>
    simp only [feed, taken, noting]
    cases k.onToken t s with
    | mk goesOn s' =>
      cases goesOn with
      | false => simp
      | true =>
        have hrest := ih s' (calls ++ [.token t])
        rw [List.append_assoc] at hrest
        exact hrest

/-- The errors that reach the consumer behind the tokens. -/
def takenErrors (k : Consumer σ) (ts : List Token) (e : Option SyntaxError) (s : σ) :
    List SyntaxError :=
  if (k.feed ts s).1 then e.toList else []

theorem conclude_noting (k : Consumer σ) (ts : List Token) (e : Option SyntaxError) (s : σ)
    (calls : List Call) :
    k.noting.conclude ts e (s, calls) =
      ((k.conclude ts e s).1, ((k.conclude ts e s).2,
        calls ++ ((k.taken ts s).map .token ++ (k.takenErrors ts e s).map .error))) := by
  simp only [conclude, feed_noting, takenErrors]
  cases k.feed ts s with
  | mk goesOn s' =>
    cases goesOn with
    | false => simp
    | true => cases e <;> simp [noting]

end Consumer

section

variable {σ : Type} (d : Delimiters) (text : String) (id : TemplateId) (k : Consumer σ) (acc : σ)

/-- All that a scan tells its consumer, in order. -/
def scanCalls : List Call := (scan d text id k.noting (acc, [])).2.2

def deliveredTokens : List Token := (scanCalls d text id k acc).filterMap Call.token?

def reportedErrors : List SyntaxError := (scanCalls d text id k acc).filterMap Call.error?

end

section

variable {σ : Type} {d : Delimiters} {text : String} {id : TemplateId} {k : Consumer σ} {acc : σ}

theorem outcome_of_not_fits (h : ¬ text.utf8ByteSize < UInt32.size) :
    (scan d text id k acc).1 = .failed := by
  have htemplate : Template.ofText? text = none := dif_neg h
  rw [scan, htemplate]

/-- A text that is too long is no template, of which no token is read. -/
theorem scanCalls_of_not_fits (h : ¬ text.utf8ByteSize < UInt32.size) :
    scanCalls d text id k acc = [.error ⟨.templateTooLarge, 1, ⟨0, 0⟩, id⟩] := by
  have htemplate : Template.ofText? text = none := dif_neg h
  rw [scanCalls, scan, htemplate]
  rfl

theorem deliveredTokens_of_not_fits (h : ¬ text.utf8ByteSize < UInt32.size) :
    deliveredTokens d text id k acc = [] := by
  rw [deliveredTokens, scanCalls_of_not_fits h]
  rfl

theorem reportedErrors_of_not_fits (h : ¬ text.utf8ByteSize < UInt32.size) :
    reportedErrors d text id k acc = [⟨.templateTooLarge, 1, ⟨0, 0⟩, id⟩] := by
  rw [reportedErrors, scanCalls_of_not_fits h]
  rfl

theorem Reads.scanCalls_eq {ps : List Piece} {e : Ending} (hreads : Reads d text ps e)
    (fits : text.utf8ByteSize < UInt32.size) :
    scanCalls d text id k acc =
      (k.taken (Piece.place id 0 1 ps) acc).map .token ++
        (k.takenErrors (Piece.place id 0 1 ps)
          (e.error? id (Piece.sources ps).utf8ByteSize (1 + Piece.credit ps))
          acc).map .error := by
  rw [scanCalls, hreads.scan_eq fits, Consumer.conclude_noting, List.nil_append]

/-- Writing down the calls does not change the scan. -/
theorem scan_noting :
    scan d text id k.noting (acc, []) =
      ((scan d text id k acc).1, ((scan d text id k acc).2, scanCalls d text id k acc)) := by
  by_cases fits : text.utf8ByteSize < UInt32.size
  · obtain ⟨ps, e, hreads⟩ := exists_reads d text
    simp only [scanCalls, hreads.scan_eq fits, Consumer.conclude_noting]
  · have htemplate : Template.ofText? text = none := dif_neg fits
    simp only [scanCalls, scan, htemplate]
    rfl

/-- Errors are reported behind all tokens. -/
theorem scanCalls_eq :
    scanCalls d text id k acc =
      (deliveredTokens d text id k acc).map .token ++
        (reportedErrors d text id k acc).map .error := by
  by_cases fits : text.utf8ByteSize < UInt32.size
  · obtain ⟨ps, e, hreads⟩ := exists_reads d text
    rw [deliveredTokens, reportedErrors, hreads.scanCalls_eq fits, Call.filterMap_token?_calls,
      Call.filterMap_error?_calls]
  · rw [deliveredTokens_of_not_fits fits, reportedErrors_of_not_fits fits,
      scanCalls_of_not_fits fits]
    rfl

end

/-! ## Turnouts -/

/-- How the scan of a template with a given reading may turn out: its outcome, the tokens
    and the errors that reach the consumer. -/
inductive Turnout (id : TemplateId) (ps : List Piece) (e : Ending) :
    Outcome → List Token → List SyntaxError → Prop
  | completed : e = .finished → Turnout id ps e .completed (Piece.place id 0 1 ps) []
  | failed {error : SyntaxError} :
      e.error? id (Piece.sources ps).utf8ByteSize (1 + Piece.credit ps) = some error →
      Turnout id ps e .failed (Piece.place id 0 1 ps) [error]
  | stopped {qs : List Piece} :
      qs ≠ [] → qs <+: ps → Turnout id ps e .stopped (Piece.place id 0 1 qs) []

namespace Turnout

variable {σ : Type} {d : Delimiters} {text : String} {ps : List Piece} {e : Ending}

theorem of_reads (id : TemplateId) (k : Consumer σ) (acc : σ)
    (fits : text.utf8ByteSize < UInt32.size) (hreads : Reads d text ps e) :
    Turnout id ps e (scan d text id k acc).1 (deliveredTokens d text id k acc)
      (reportedErrors d text id k acc) := by
  rw [deliveredTokens, reportedErrors, hreads.scanCalls_eq fits, Call.filterMap_token?_calls,
    Call.filterMap_error?_calls, hreads.scan_eq fits, Consumer.conclude, Consumer.takenErrors]
  cases hfeed : k.feed (Piece.place id 0 1 ps) acc with
  | mk goesOn acc' =>
    cases goesOn with
    | false =>
      obtain ⟨us, hus⟩ := k.taken_prefix (Piece.place id 0 1 ps) acc
      obtain ⟨qs, rs, hps, htaken, -⟩ := Piece.exists_of_place_eq_append hus.symm
      have hne : qs ≠ [] := by
        rintro rfl
        exact Consumer.taken_ne_of_feed (congrArg Prod.fst hfeed) htaken
      simpa [htaken] using stopped hne ⟨rs, hps.symm⟩
    | true =>
      have htaken := Consumer.taken_of_feed (congrArg Prod.fst hfeed)
      cases herror : e.error? id (Piece.sources ps).utf8ByteSize
          (1 + Piece.credit ps) with
      | none => simpa [htaken] using completed (Ending.error?_eq_none_iff.mp herror)
      | some error => simpa [htaken] using failed herror

end Turnout

/-- Whatever the consumer does, it is told of the first pieces of a reading. -/
theorem exists_deliveredTokens {σ : Type} (d : Delimiters) {text : String} (id : TemplateId)
    (k : Consumer σ) (acc : σ) (fits : text.utf8ByteSize < UInt32.size) :
    ∃ ps qs e, Reads d text (ps ++ qs) e ∧
      deliveredTokens d text id k acc = Piece.place id 0 1 ps := by
  obtain ⟨ps, e, hreads⟩ := exists_reads d text
  have hturnout := Turnout.of_reads id k acc fits hreads
  generalize (scan d text id k acc).1 = outcome at hturnout
  generalize deliveredTokens d text id k acc = ts at hturnout ⊢
  generalize reportedErrors d text id k acc = es at hturnout
  cases hturnout with
  | completed => exact ⟨ps, [], e, by simpa using hreads, rfl⟩
  | failed => exact ⟨ps, [], e, by simpa using hreads, rfl⟩
  | stopped _ hqs =>
    obtain ⟨rs, rfl⟩ := hqs
    exact ⟨_, rs, e, hreads, rfl⟩

/-- A delivered token is made of a piece of the reading, behind the pieces of the tokens in
    front of it. -/
theorem exists_of_deliveredTokens_eq_append {σ : Type} {d : Delimiters} {text : String}
    {id : TemplateId} {k : Consumer σ} {acc : σ} {before after : List Token} {t : Token}
    (h : deliveredTokens d text id k acc = before ++ t :: after) :
    text.utf8ByteSize < UInt32.size ∧
      ∃ ps p qs rest e, Reads d text (ps ++ p :: (qs ++ rest)) e ∧
        before = Piece.place id 0 1 ps ∧
        t = p.token id (Piece.sources ps).utf8ByteSize (1 + Piece.credit ps) ∧
        after = Piece.place id ((Piece.sources ps).utf8ByteSize + p.size)
          (1 + Piece.credit ps + p.newlines) qs := by
  by_cases fits : text.utf8ByteSize < UInt32.size
  · obtain ⟨_, rest, e, hreads, hdelivered⟩ := exists_deliveredTokens d id k acc fits
    rw [hdelivered] at h
    obtain ⟨ps, back, rfl, hbefore, hback⟩ := Piece.exists_of_place_eq_append h
    cases back with
    | nil => cases hback
    | cons p qs =>
      rw [Piece.place, List.cons.injEq, Nat.zero_add] at hback
      obtain ⟨htoken, hafter⟩ := hback
      rw [List.append_assoc] at hreads
      exact ⟨fits, ps, p, qs, rest, e, hreads, hbefore, htoken, hafter⟩
  · rw [deliveredTokens_of_not_fits fits] at h
    simp at h

end Mustache
