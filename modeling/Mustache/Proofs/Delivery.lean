-- SUMMARY: What reaches a consumer is decided by the template, up to the token that the consumer refuses.
import Mustache.Proofs.Calls
import Mustache.Scan.Collection
import Mustache.Scan.Recording

/-!
# Delivery

A consumer cannot change what is scanned. It can only cut it short: it receives the tokens
that a collection takes of the same template, up to and including the first one that it
refuses, and it receives the error of the template only if it refuses none.

So a scan for any consumer is a scan for a collection, with the tokens and the error handed
on (`scan_eq_conclude`). A consumer that agrees to all tokens is told of the whole reading
of the template (`Reads.scan_of_agrees`), and one that never stops is told all that a
collection takes (`scan_of_patient`).
-/

namespace Mustache

/-! ## Collections -/

/-- A collection takes all tokens that it is given. -/
theorem Collection.feed_consumer (ts : List Token) (c : Collection) :
    consumer.feed ts c = (true, { c with tokens := c.tokens ++ ts.toArray }) := by
  induction ts generalizing c with
  | nil => simp
  | cons t ts ih =>
    have hrest := ih { c with tokens := c.tokens.push t }
    have htokens : c.tokens.push t ++ ts.toArray = c.tokens ++ (t :: ts).toArray := by simp
    rw [htokens] at hrest
    exact hrest

/-- How a scan that is not stopped ends. -/
def Outcome.ofError? : Option SyntaxError → Outcome
  | none => .completed
  | some _ => .failed

theorem Collection.conclude_consumer (ts : List Token) (e : Option SyntaxError)
    (c : Collection) :
    consumer.conclude ts e c = (.ofError? e, ⟨c.tokens ++ ts.toArray, e.or c.error⟩) := by
  rw [Consumer.conclude, feed_consumer]
  cases e <;> simp [Outcome.ofError?, consumer]

/-! ## Answers -/

namespace Consumer

variable {σ : Type}

/-- The state behind tokens that a consumer receives, whatever it answers. -/
def after (k : Consumer σ) : List Token → σ → σ
  | [], s => s
  | t :: ts, s => k.after ts (k.onToken t s).2

/-- A consumer that receives the tokens goes on behind every one of them. -/
def Agrees (k : Consumer σ) : List Token → σ → Prop
  | [], _ => True
  | t :: ts, s => (k.onToken t s).1 = true ∧ k.Agrees ts (k.onToken t s).2

/-- A consumer that receives the token behind the others stops the scan. -/
def Refuses (k : Consumer σ) (before : List Token) (t : Token) (s : σ) : Prop :=
  k.Agrees before s ∧ (k.onToken t (k.after before s)).1 = false

/-- A consumer that never stops a scan. -/
def Patient (k : Consumer σ) : Prop := ∀ t s, (k.onToken t s).1 = true

/-- The state in which a call leaves the consumer. -/
def hear (k : Consumer σ) (s : σ) : Call → σ
  | .token t => (k.onToken t s).2
  | .error e => k.onError e s

theorem Patient.agrees {k : Consumer σ} (h : k.Patient) (ts : List Token) (s : σ) :
    k.Agrees ts s := by
  induction ts generalizing s with
  | nil => trivial
  | cons t ts ih => exact ⟨h t s, ih _⟩

theorem onToken_eq {k : Consumer σ} {t : Token} {s : σ} {answer : Bool}
    (h : (k.onToken t s).1 = answer) : k.onToken t s = (answer, (k.onToken t s).2) := by
  rw [← h]

section

variable {k : Consumer σ} {ts before : List Token} {t : Token} {s : σ}

theorem feed_of_agrees (h : k.Agrees ts s) : k.feed ts s = (true, k.after ts s) := by
  induction ts generalizing s with
  | nil => rfl
  | cons t ts ih =>
    obtain ⟨hanswer, hrest⟩ := h
    rw [after, ← ih hrest, feed, onToken_eq hanswer]

theorem taken_of_agrees (h : k.Agrees ts s) : k.taken ts s = ts :=
  taken_of_feed (congrArg Prod.fst (feed_of_agrees h))

theorem takenErrors_of_agrees (h : k.Agrees ts s) (e : Option SyntaxError) :
    k.takenErrors ts e s = e.toList := by
  rw [takenErrors, feed_of_agrees h, if_pos rfl]

/-- What stands behind a refused token has no part in the scan. -/
theorem feed_of_refuses (h : k.Refuses before t s) (behind : List Token) :
    k.feed (before ++ t :: behind) s = (false, (k.onToken t (k.after before s)).2) := by
  obtain ⟨hbefore, hanswer⟩ := h
  rw [feed_append, feed_of_agrees hbefore]
  simp only [feed]
  rw [onToken_eq hanswer]

theorem taken_of_refuses (h : k.Refuses before t s) (behind : List Token) :
    k.taken (before ++ t :: behind) s = before ++ [t] := by
  induction before generalizing s with
  | nil =>
    have hanswer : (k.onToken t s).1 = false := h.2
    rw [List.nil_append, taken, onToken_eq hanswer]
    rfl
  | cons u before ih =>
    obtain ⟨⟨hfirst, hbefore⟩, hanswer⟩ := h
    rw [List.cons_append, taken, onToken_eq hfirst]
    exact congrArg (u :: ·) (ih ⟨hbefore, hanswer⟩)

theorem takenErrors_of_refuses (h : k.Refuses before t s) (behind : List Token)
    (e : Option SyntaxError) : k.takenErrors (before ++ t :: behind) e s = [] := by
  rw [takenErrors, feed_of_refuses h, if_neg Bool.false_ne_true]

end

/-- A consumer agrees to all tokens, or there is a first one that it refuses. -/
theorem agrees_or_refuses (k : Consumer σ) (ts : List Token) (s : σ) :
    k.Agrees ts s ∨ ∃ before t behind, ts = before ++ t :: behind ∧ k.Refuses before t s := by
  induction ts generalizing s with
  | nil => exact .inl trivial
  | cons t ts ih =>
    cases hanswer : (k.onToken t s).1 with
    | false => exact .inr ⟨[], t, ts, rfl, trivial, hanswer⟩
    | true =>
      obtain hrest | ⟨before, u, behind, rfl, hbefore, hrefused⟩ := ih (k.onToken t s).2
      · exact .inl ⟨hanswer, hrest⟩
      · exact .inr ⟨t :: before, u, behind, rfl, ⟨hanswer, hbefore⟩, hrefused⟩

theorem foldl_hear_tokens (k : Consumer σ) (ts : List Token) (s : σ) :
    (ts.map Call.token).foldl k.hear s = k.after ts s := by
  induction ts generalizing s with
  | nil => rfl
  | cons t ts ih => exact ih _

theorem fst_conclude (k : Consumer σ) (ts : List Token) (e : Option SyntaxError) (s : σ) :
    (k.conclude ts e s).1 = if (k.feed ts s).1 then .ofError? e else .stopped := by
  rw [conclude]
  cases k.feed ts s with
  | mk goesOn s' =>
    cases goesOn with
    | false => rfl
    | true => cases e <;> rfl

/-- The state in the end is made by the calls. -/
theorem foldl_hear_calls (k : Consumer σ) (ts : List Token) (e : Option SyntaxError) (s : σ) :
    ((k.taken ts s).map Call.token ++ (k.takenErrors ts e s).map Call.error).foldl k.hear s =
      (k.conclude ts e s).2 := by
  obtain hagrees | ⟨before, t, behind, rfl, hrefuses⟩ := k.agrees_or_refuses ts s
  · rw [taken_of_agrees hagrees, takenErrors_of_agrees hagrees, List.foldl_append,
      foldl_hear_tokens, conclude, feed_of_agrees hagrees]
    cases e <;> rfl
  · rw [taken_of_refuses hrefuses, takenErrors_of_refuses hrefuses, List.foldl_append,
      List.map_append, List.foldl_append, foldl_hear_tokens k before, conclude,
      feed_of_refuses hrefuses]
    rfl

/-! ## Ways to make a consumer -/

theorem patient_ofCallbacks (onNotice : Option (Notice → σ → σ)) :
    (ofCallbacks none onNotice).Patient := fun _ _ => rfl

theorem patient_silent : (silent : Consumer σ).Patient := fun _ _ => rfl

/-- Only the answers to tokens decide which tokens are received. -/
theorem feed_taken_congr {k l : Consumer σ} (h : k.onToken = l.onToken) (ts : List Token)
    (s : σ) : k.feed ts s = l.feed ts s ∧ k.taken ts s = l.taken ts s := by
  induction ts generalizing s with
  | nil => exact ⟨rfl, rfl⟩
  | cons t ts ih =>
    simp only [feed, taken, h]
    cases l.onToken t s with
    | mk goesOn s' =>
      cases goesOn with
      | false => exact ⟨rfl, rfl⟩
      | true => exact ⟨(ih s').1, congrArg (t :: ·) (ih s').2⟩

end Consumer

/-! ## Readings -/

/-- How a scan ends that reads its template to the end. -/
def Ending.outcome : Ending → Outcome
  | .finished => .completed
  | .failed _ _ => .failed

theorem Ending.ofError?_error? (e : Ending) (id : TemplateId) (pos line : Nat) :
    Outcome.ofError? (e.error? id pos line) = e.outcome := by
  cases e <;> rfl

/-- All that there is to tell of pieces and of what ends them, from the given position and
    line on. -/
def Piece.calls (id : TemplateId) (pos line : Nat) (ps : List Piece) (e : Ending) : List Call :=
  (place id pos line ps).map .token ++
    (e.error? id (pos + (sources ps).utf8ByteSize) (line + credit ps)).toList.map .error

theorem Piece.filterMap_token?_calls (id : TemplateId) (pos line : Nat) (ps : List Piece)
    (e : Ending) : (calls id pos line ps e).filterMap Call.token? = place id pos line ps :=
  Call.filterMap_token?_calls ..

/-! ## Scans -/

section

variable {σ : Type} (d : Delimiters) (text : String) (id : TemplateId) (k : Consumer σ) (acc : σ)

theorem Reads.add_eq {d : Delimiters} {text : String} {ps : List Piece} {e : Ending}
    (id : TemplateId) (hreads : Reads d text ps e) (fits : text.utf8ByteSize < UInt32.size) :
    let error := e.error? id (Piece.sources ps).utf8ByteSize (1 + Piece.credit ps)
    Collection.empty.add d text id =
      (.ofError? error, ⟨(Piece.place id 0 1 ps).toArray, error⟩) := by
  rw [Collection.add, hreads.scan_eq fits, Collection.conclude_consumer]
  simp [Collection.empty]

theorem Collection.add_of_not_fits {d : Delimiters} {text : String} (id : TemplateId)
    (h : ¬ text.utf8ByteSize < UInt32.size) :
    Collection.empty.add d text id =
      (.failed, ⟨#[], some ⟨.templateTooLarge, 1, ⟨0, 0⟩, id⟩⟩) := by
  have htemplate : Template.ofText? text = none := dif_neg h
  rw [Collection.add, scan, htemplate]
  rfl

/-- A scan for a consumer hands on what a collection takes. -/
theorem scan_eq_conclude :
    let all := (Collection.empty.add d text id).2
    scan d text id k acc = k.conclude all.tokens.toList all.error acc := by
  by_cases fits : text.utf8ByteSize < UInt32.size
  · obtain ⟨ps, e, hreads⟩ := exists_reads d text
    rw [hreads.add_eq id fits, hreads.scan_eq fits]
  · have htemplate : Template.ofText? text = none := dif_neg fits
    rw [Collection.add_of_not_fits id fits, scan, htemplate]
    rfl

theorem scanCalls_eq_taken :
    let all := (Collection.empty.add d text id).2
    scanCalls d text id k acc =
      (k.taken all.tokens.toList acc).map .token ++
        (k.takenErrors all.tokens.toList all.error acc).map .error := by
  intro all
  rw [scanCalls, scan_eq_conclude, Consumer.conclude_noting, List.nil_append]

theorem outcome_add :
    let all := Collection.empty.add d text id
    all.1 = .ofError? all.2.error := by
  by_cases fits : text.utf8ByteSize < UInt32.size
  · obtain ⟨ps, e, hreads⟩ := exists_reads d text
    rw [hreads.add_eq id fits]
  · rw [Collection.add_of_not_fits id fits]
    rfl

theorem deliveredTokens_eq_taken :
    deliveredTokens d text id k acc =
      k.taken (Collection.empty.add d text id).2.tokens.toList acc := by
  rw [deliveredTokens, scanCalls_eq_taken, Call.filterMap_token?_calls]

section

variable {d text id k acc} {ps : List Piece} {ending : Ending}

/-- A consumer that agrees to all tokens is told of the whole reading. -/
theorem Reads.scan_of_agrees (hreads : Reads d text ps ending)
    (fits : text.utf8ByteSize < UInt32.size) (h : k.Agrees (Piece.place id 0 1 ps) acc) :
    (scan d text id k acc).1 = ending.outcome ∧
      scanCalls d text id k acc = Piece.calls id 0 1 ps ending := by
  constructor
  · rw [hreads.scan_eq fits, Consumer.fst_conclude, Consumer.feed_of_agrees h, if_pos rfl]
    exact ending.ofError?_error? ..
  · rw [hreads.scanCalls_eq fits, Consumer.taken_of_agrees h, Consumer.takenErrors_of_agrees h,
      Piece.calls, Nat.zero_add]

theorem Reads.deliveredTokens_of_agrees (hreads : Reads d text ps ending)
    (fits : text.utf8ByteSize < UInt32.size) (h : k.Agrees (Piece.place id 0 1 ps) acc) :
    deliveredTokens d text id k acc = Piece.place id 0 1 ps := by
  rw [deliveredTokens, (hreads.scan_of_agrees fits h).2, Piece.filterMap_token?_calls]

/-- A consumer that is told of an error has agreed to all tokens. -/
theorem Reads.agrees_of_reportedErrors {e : SyntaxError} (hreads : Reads d text ps ending)
    (fits : text.utf8ByteSize < UInt32.size) (h : e ∈ reportedErrors d text id k acc) :
    k.Agrees (Piece.place id 0 1 ps) acc ∧
      ending.error? id (Piece.sources ps).utf8ByteSize (1 + Piece.credit ps) = some e := by
  rw [reportedErrors, hreads.scanCalls_eq fits, Call.filterMap_error?_calls] at h
  obtain hagrees | ⟨before, t, behind, hts, hrefuses⟩ :=
    k.agrees_or_refuses (Piece.place id 0 1 ps) acc
  · rw [Consumer.takenErrors_of_agrees hagrees] at h
    exact ⟨hagrees, by simpa using h⟩
  · rw [hts, Consumer.takenErrors_of_refuses hrefuses] at h
    simp at h

/-- A consumer that agrees to all tokens is told what a collection is told. -/
theorem scan_of_agrees (h : k.Agrees (Collection.empty.add d text id).2.tokens.toList acc) :
    let all := Collection.empty.add d text id
    (scan d text id k acc).1 = all.1 ∧
      scanCalls d text id k acc =
        all.2.tokens.toList.map .token ++ all.2.error.toList.map .error := by
  intro all
  constructor
  · rw [scan_eq_conclude, Consumer.fst_conclude, Consumer.feed_of_agrees h, if_pos rfl]
    exact (outcome_add d text id).symm
  · rw [scanCalls_eq_taken, Consumer.taken_of_agrees h, Consumer.takenErrors_of_agrees h]

theorem scan_of_refuses {before behind : List Token} {t : Token}
    (hts : (Collection.empty.add d text id).2.tokens.toList = before ++ t :: behind)
    (h : k.Refuses before t acc) :
    (scan d text id k acc).1 = .stopped ∧
      scanCalls d text id k acc = (before ++ [t]).map .token := by
  constructor
  · rw [scan_eq_conclude, hts, Consumer.fst_conclude, Consumer.feed_of_refuses h,
      if_neg Bool.false_ne_true]
  · rw [scanCalls_eq_taken, hts, Consumer.taken_of_refuses h, Consumer.takenErrors_of_refuses h,
      List.map_nil, List.append_nil]

/-- What a consumer does with an error has no part in the scan. -/
theorem scan_congr {l : Consumer σ} (h : k.onToken = l.onToken) :
    (scan d text id k acc).1 = (scan d text id l acc).1 ∧
      deliveredTokens d text id k acc = deliveredTokens d text id l acc := by
  obtain ⟨hfeed, htaken⟩ :=
    Consumer.feed_taken_congr h (Collection.empty.add d text id).2.tokens.toList acc
  constructor
  · rw [scan_eq_conclude, scan_eq_conclude, Consumer.fst_conclude, Consumer.fst_conclude, hfeed]
  · rw [deliveredTokens_eq_taken, deliveredTokens_eq_taken, htaken]

/-- A scan is stopped only by its consumer. -/
theorem scan_ne_stopped (h : k.Patient) : (scan d text id k acc).1 ≠ .stopped := by
  rw [(scan_of_agrees (h.agrees _ _)).1, outcome_add]
  cases (Collection.empty.add d text id).2.error <;> simp [Outcome.ofError?]

end

/-- A consumer that never stops is told what a collection is told. -/
theorem scan_of_patient (h : k.Patient) :
    let all := Collection.empty.add d text id
    (scan d text id k acc).1 = all.1 ∧
      deliveredTokens d text id k acc = all.2.tokens.toList ∧
      reportedErrors d text id k acc = all.2.error.toList := by
  intro all
  obtain ⟨houtcome, hcalls⟩ := scan_of_agrees (h.agrees all.2.tokens.toList acc)
  refine ⟨houtcome, ?_, ?_⟩
  · rw [deliveredTokens, hcalls, Call.filterMap_token?_calls]
  · rw [reportedErrors, hcalls, Call.filterMap_error?_calls]

/-- A scan for a consumer that never stops completes and reports nothing, or it fails and
    reports one error. -/
theorem outcome_of_patient (h : k.Patient) :
    (scan d text id k acc).1 = .completed ∧ reportedErrors d text id k acc = [] ∨
      (scan d text id k acc).1 = .failed ∧ ∃ e, reportedErrors d text id k acc = [e] := by
  obtain ⟨houtcome, -, herrors⟩ := scan_of_patient d text id k acc h
  rw [houtcome, herrors, outcome_add]
  cases (Collection.empty.add d text id).2.error with
  | none => exact .inl ⟨rfl, rfl⟩
  | some e => exact .inr ⟨rfl, e, rfl⟩

theorem outcome_silent :
    (scan d text id .silent ()).1 = (Collection.empty.add d text id).1 :=
  (scan_of_patient d text id .silent () Consumer.patient_silent).1

theorem deliveredTokens_silent :
    deliveredTokens d text id .silent () = (Collection.empty.add d text id).2.tokens.toList :=
  (scan_of_patient d text id .silent () Consumer.patient_silent).2.1

theorem reportedErrors_silent :
    reportedErrors d text id .silent () = (Collection.empty.add d text id).2.error.toList :=
  (scan_of_patient d text id .silent () Consumer.patient_silent).2.2

/-- The tokens of a text are those that a consumer receives which never stops, unless there
    is an error. -/
theorem tokenize_eq :
    tokenize d text id =
      match reportedErrors d text id .silent () with
      | [] => .ok (deliveredTokens d text id .silent ()).toArray
      | e :: _ => .error e := by
  rw [deliveredTokens_silent, reportedErrors_silent, tokenize, Collection.result]
  cases (Collection.empty.add d text id).2.error <;> simp

/-- The tokens that a collection takes of a template decide, up to the first one that is
    refused, what any consumer receives. -/
theorem scan_of_collection (onToken : Token → σ → Bool × σ) (onNotice : Notice → σ → σ)
    (onToken? : Option (Token → σ → Bool × σ)) (onNotice? : Option (Notice → σ → σ)) :
    let all := Collection.empty.add d text id
    let ts := all.2.tokens.toList
    let result := scan d text id k acc
    let calls := scanCalls d text id k acc
    (all.1 = .completed ∧ all.2.error = none ∨ all.1 = .failed ∧ ∃ e, all.2.error = some e) ∧
    (k.Agrees ts acc →
      result.1 = all.1 ∧ calls = ts.map .token ++ all.2.error.toList.map .error) ∧
    (∀ before t behind, ts = before ++ t :: behind → k.Refuses before t acc →
      result.1 = .stopped ∧ calls = (before ++ [t]).map .token) ∧
    result.2 = calls.foldl k.hear acc ∧
    scan d text id (.ofCallbacks (some onToken) (some onNotice)) acc =
      scan d text id (.ofNotice onToken onNotice) acc ∧
    (scan d text id (.ofCallbacks none onNotice?) acc).1 ≠ .stopped ∧
    (scan d text id .silent acc).1 ≠ .stopped ∧
    ((scan d text id (.ofCallbacks onToken? none) acc).1 =
        (scan d text id (.ofCallbacks onToken? onNotice?) acc).1 ∧
      deliveredTokens d text id (.ofCallbacks onToken? none) acc =
        deliveredTokens d text id (.ofCallbacks onToken? onNotice?) acc) := by
  intro all ts result calls
  refine ⟨?_, scan_of_agrees, fun before t behind => scan_of_refuses, ?_, rfl, ?_, ?_, ?_⟩
  · have houtcome : all.1 = .ofError? all.2.error := outcome_add d text id
    cases herror : all.2.error with
    | none => exact .inl ⟨by rw [houtcome, herror]; rfl, rfl⟩
    | some e => exact .inr ⟨by rw [houtcome, herror]; rfl, e, rfl⟩
  · have hstate : result.2 = (k.conclude ts all.2.error acc).2 :=
      congrArg Prod.snd (scan_eq_conclude d text id k acc)
    have hcalls : calls = _ := scanCalls_eq_taken d text id k acc
    rw [hstate, hcalls, Consumer.foldl_hear_calls]
  · exact scan_ne_stopped (Consumer.patient_ofCallbacks onNotice?)
  · exact scan_ne_stopped Consumer.patient_silent
  · exact scan_congr rfl

end

/-- A consumer that stops at the last token, in front of an unclosed tag. -/
theorem scan_of_collection_last :
    let text := "a\x7b\x7bb\x7d\x7d\x7b\x7b"
    let k := Recording.consumer (some 2)
    let all := Collection.empty.add .standard text .anonymous
    let before : List Token := [⟨.text "a", 1, ⟨0, 1⟩, .anonymous⟩]
    let t : Token := ⟨.lookup .escaped (.names false ⟨"b", by decide⟩ []), 1, ⟨1, 6⟩, .anonymous⟩
    all.1 = .failed ∧ all.2.tokens.toList = before ++ t :: [] ∧ k.Refuses before t .empty ∧
      (scan .standard text .anonymous k .empty).1 = .stopped ∧
      scanCalls .standard text .anonymous k .empty = (before ++ [t]).map .token := by
  intro text k all before t
  have hts : all.2.tokens.toList = before ++ t :: [] := by decide +kernel
  have hrefuses : k.Refuses before t .empty := ⟨⟨by decide, trivial⟩, by decide⟩
  obtain ⟨-, -, hrefused, -⟩ := scan_of_collection .standard text .anonymous k .empty
    (Recording.onToken (some 2)) Recording.onNotice none none
  exact ⟨by decide +kernel, hts, hrefuses, hrefused before t [] hts hrefuses⟩

end Mustache
