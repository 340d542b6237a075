-- SUMMARY: The delivered tokens lie side by side and leave nothing of the template out.
import Mustache.Proofs.Calls
import Mustache.Proofs.InForce

/-!
# Coverage

No byte of a template is lost. The delivered tokens lie side by side, from the beginning
of the template up to where the scan came. A scan that completes comes to the end, and a
scan that fails comes to the tag that has the fault.
-/

namespace Mustache

/-- The spans lie side by side from `start` to `stop`, and none of them is empty. -/
def Covers : (start stop : Nat) → List Token → Prop
  | start, stop, [] => start = stop
  | start, stop, t :: ts =>
    t.span.start.toNat = start ∧ start < t.span.stop.toNat ∧ Covers t.span.stop.toNat stop ts

/-- The pieces of the template that the tokens cover, one behind the other. -/
def Token.sources (text : String) (ts : List Token) : String :=
  String.join (ts.map fun t => t.source text)

theorem Covers.stop_getLast {start stop : Nat} {ts : List Token} (h : Covers start stop ts)
    (hne : ts ≠ []) : (ts.getLast hne).span.stop.toNat = stop := by
  induction ts generalizing start with
  | nil => exact absurd rfl hne
  | cons t ts ih =>
    obtain ⟨-, -, hrest⟩ := h
    cases ts with
    | nil => exact hrest
    | cons u us => exact ih hrest (List.cons_ne_nil u us)

/-! ## Placed pieces -/

namespace Piece

variable {template before behind : String} {ps : List Piece}

theorem covers_place (id : TemplateId) (line : Nat) (fits : template.utf8ByteSize < UInt32.size)
    (hsplit : template = before ++ (sources ps ++ behind)) (hne : ∀ p ∈ ps, p.source ≠ "") :
    Covers before.utf8ByteSize (before.utf8ByteSize + (sources ps).utf8ByteSize)
      (place id before.utf8ByteSize line ps) := by
  induction ps generalizing before line with
  | nil => simp [place, Covers]
  | cons p ps ih =>
    rw [sources_cons, String.append_assoc] at hsplit
    have hstop := toNat_stop_token id line fits hsplit
    have hpos : 0 < p.size := Text.utf8ByteSize_pos (hne p List.mem_cons_self)
    rw [place, Covers, hstop]
    refine ⟨toNat_start_token id line fits hsplit, by omega, ?_⟩
    rw [← String.append_assoc] at hsplit
    have hrest := ih (line + p.newlines) hsplit fun q hq => hne q (List.mem_cons_of_mem p hq)
    rw [String.utf8ByteSize_append] at hrest
    rw [utf8ByteSize_sources_cons, ← Nat.add_assoc]
    exact hrest

theorem map_source_place (id : TemplateId) (line : Nat)
    (fits : template.utf8ByteSize < UInt32.size)
    (hsplit : template = before ++ (sources ps ++ behind)) :
    (place id before.utf8ByteSize line ps).map (fun t => t.source template) = ps.map source := by
  induction ps generalizing before line with
  | nil => rfl
  | cons p ps ih =>
    rw [sources_cons, String.append_assoc] at hsplit
    have hsource := source_token id line fits hsplit
    rw [← String.append_assoc] at hsplit
    have hrest := ih (line + p.newlines) hsplit
    rw [String.utf8ByteSize_append] at hrest
    rw [place, List.map_cons, List.map_cons, hsource]
    exact congrArg (p.source :: ·) hrest

end Piece

/-! ## Scans -/

theorem Reads.source_ne {d : Delimiters} {text : String} {ps : List Piece} {e : Ending}
    (h : Reads d text ps e) : ∀ p ∈ ps, p.source ≠ "" := by
  induction h with
  | ends _ => simp
  | step hstep _ ih =>
    intro q hq
    rcases List.mem_cons.mp hq with rfl | hq
    · exact hstep.source_ne
    · exact ih q hq

/-- The tokens of the first pieces of a reading. -/
theorem Reads.covers {d : Delimiters} {text : String} {ps qs : List Piece} {e : Ending}
    (id : TemplateId) (fits : text.utf8ByteSize < UInt32.size) (h : Reads d text (ps ++ qs) e) :
    ∃ d' behind, text = Piece.sources ps ++ behind ∧ Reads d' behind qs e ∧
      Covers 0 (Piece.sources ps).utf8ByteSize (Piece.place id 0 1 ps) ∧
      Token.sources text (Piece.place id 0 1 ps) = Piece.sources ps := by
  obtain ⟨behind, hsplit, hbehind⟩ := h.split_template id fits
  have htext : text = "" ++ (Piece.sources ps ++ behind) := by
    rw [String.empty_append]
    exact hsplit
  refine ⟨_, behind, hsplit, hbehind, ?_, ?_⟩
  · have hcovers := Piece.covers_place id 1 fits htext
      fun p hp => h.source_ne p (List.mem_append_left qs hp)
    rw [String.utf8ByteSize_empty, Nat.zero_add] at hcovers
    exact hcovers
  · exact congrArg String.join (Piece.map_source_place id 1 fits htext)

theorem Reads.empty_of_finished {d : Delimiters} {text : String}
    (h : Reads d text [] .finished) : text = "" := by
  cases h with
  | ends hends => cases hends with
    | finished => rfl

theorem Ending.start_of_error? {id : TemplateId} {pos line : Nat} {e : Ending}
    {error : SyntaxError} (h : e.error? id pos line = some error) :
    error.span.start = .ofNat pos := by
  cases e with
  | finished => cases h
  | failed fault tag =>
    cases h
    rfl

/-- The delivered tokens cover the template up to where the scan came. -/
theorem deliveredTokens_covers {σ : Type} (d : Delimiters) (text : String) (id : TemplateId)
    (k : Consumer σ) (acc : σ) :
    let ts := deliveredTokens d text id k acc
    ∃ stop, Covers 0 stop ts ∧
      Text.bytes (Token.sources text ts) = (Text.bytes text).take stop ∧
      match (scan d text id k acc).1 with
      | .completed => stop = text.utf8ByteSize ∧ Token.sources text ts = text
      | .failed => ∃ e, reportedErrors d text id k acc = [e] ∧ e.span.start.toNat = stop
      | .stopped => ∃ t, ts.getLast? = some t ∧ t.span.stop.toNat = stop := by
  intro ts
  by_cases fits : text.utf8ByteSize < UInt32.size
  · obtain ⟨ps, e, hreads⟩ := exists_reads d text
    have hturnout : Turnout id ps e _ ts _ := Turnout.of_reads id k acc fits hreads
    generalize (scan d text id k acc).1 = outcome at hturnout ⊢
    generalize ts = ts at hturnout ⊢
    generalize reportedErrors d text id k acc = es at hturnout ⊢
    cases hturnout with
    | completed he =>
      subst he
      rw [← List.append_nil ps] at hreads
      obtain ⟨_, behind, hsplit, hends, hcovers, hsources⟩ := hreads.covers id fits
      obtain rfl := hends.empty_of_finished
      rw [String.append_empty] at hsplit
      rw [← hsplit] at hcovers hsources
      refine ⟨_, hcovers, ?_, rfl, hsources⟩
      rw [hsources, ← Text.length_bytes, List.take_length]
    | @failed error herror =>
      rw [← List.append_nil ps] at hreads
      obtain ⟨_, behind, hsplit, -, hcovers, hsources⟩ := hreads.covers id fits
      refine ⟨_, hcovers, ?_, error, rfl, ?_⟩
      · rw [hsources, hsplit, Text.take_bytes_append]
      · rw [Ending.start_of_error? herror]
        apply UInt32.toNat_ofNat_of_lt'
        rw [hsplit, String.utf8ByteSize_append] at fits
        exact Nat.lt_of_le_of_lt (Nat.le_add_right _ _) fits
    | @stopped qs hne hprefix =>
      obtain ⟨rs, rfl⟩ := hprefix
      obtain ⟨_, behind, hsplit, -, hcovers, hsources⟩ := hreads.covers id fits
      have hts : Piece.place id 0 1 qs ≠ [] := by
        cases qs with
        | nil => exact absurd rfl hne
        | cons q qs => exact List.cons_ne_nil _ _
      refine ⟨_, hcovers, ?_, _, List.getLast?_eq_some_getLast hts, hcovers.stop_getLast hts⟩
      rw [hsources, hsplit, Text.take_bytes_append]
  · have htokens : ts = [] := deliveredTokens_of_not_fits fits
    have houtcome : (scan d text id k acc).1 = .failed := outcome_of_not_fits fits
    rw [htokens, houtcome, reportedErrors_of_not_fits fits]
    exact ⟨0, rfl, rfl, _, rfl, rfl⟩

end Mustache
