-- SUMMARY: Texts that are scanned into one collection have no part in each other's scans.
import Mustache.Proofs.Delivery

/-!
# Sessions

A collection may be fed by several scans, one after another. Each of them begins with the
same delimiters and with no knowledge of the others. So the collection holds what the scans
of the texts alone deliver, one behind the other, and the error of the last one that fails
(`addAll_eq_alone`).

A text is scanned alone for a consumer that never stops and keeps nothing.
-/

namespace Mustache.Collection

section

variable (d : Delimiters)

/-- How the scan of a text alone ends. -/
def outcomeAlone (job : String × TemplateId) : Outcome := (scan d job.1 job.2 .silent ()).1

/-- The tokens that the scans of the texts deliver, each of them alone. -/
def tokensAlone (jobs : List (String × TemplateId)) : List Token :=
  jobs.flatMap fun job => deliveredTokens d job.1 job.2 .silent ()

/-- The errors that these scans report. -/
def errorsAlone (jobs : List (String × TemplateId)) : List SyntaxError :=
  jobs.flatMap fun job => reportedErrors d job.1 job.2 .silent ()

/-- The collection is what the scans of the texts leave behind. -/
structure Holds (jobs : List (String × TemplateId)) (c : Collection) : Prop where
  tokens : c.tokens.toList = tokensAlone d jobs
  error : c.error = (errorsAlone d jobs).getLast?

end

variable {d : Delimiters} {done jobs : List (String × TemplateId)} {c : Collection}

/-! ## One more scan -/

/-- What is in a collection has no part in a scan. -/
theorem add_eq_alone (d : Delimiters) (c : Collection) (job : String × TemplateId) :
    c.add d job.1 job.2 =
      (outcomeAlone d job,
        { tokens := c.tokens ++ (deliveredTokens d job.1 job.2 .silent ()).toArray
          error := (reportedErrors d job.1 job.2 .silent ()).getLast?.or c.error }) := by
  have hscan : c.add d job.1 job.2 = _ := scan_eq_conclude d job.1 job.2 consumer c
  rw [hscan, conclude_consumer, outcomeAlone, outcome_silent, outcome_add, deliveredTokens_silent,
    reportedErrors_silent]
  cases (empty.add d job.1 job.2).2.error <;> rfl

theorem holds_empty (d : Delimiters) : empty.Holds d [] := ⟨rfl, rfl⟩

theorem Holds.add (h : c.Holds d done) (job : String × TemplateId) :
    (c.add d job.1 job.2).2.Holds d (done ++ [job]) := by
  rw [add_eq_alone]
  constructor
  · simp [tokensAlone, h.tokens]
  · simp [errorsAlone, h.error, List.getLast?_append]

/-! ## All scans -/

/-- Behind each scan, and in the end, the collection holds the texts so far. -/
theorem Holds.addAll (h : c.Holds d done) (jobs : List (String × TemplateId)) :
    (addAll d jobs c).1.map Prod.fst = jobs.map (outcomeAlone d) ∧
      (∀ (n : Nat) (step : Outcome × Collection), (addAll d jobs c).1[n]? = some step →
        step.2.Holds d (done ++ jobs.take (n + 1))) ∧
      (addAll d jobs c).2.Holds d (done ++ jobs) := by
  induction jobs generalizing c done with
  | nil => exact ⟨rfl, by simp [Collection.addAll], by simpa [Collection.addAll] using h⟩
  | cons job jobs ih =>
    have hjob := h.add job
    obtain ⟨houtcomes, hsteps, hlast⟩ := ih hjob
    refine ⟨?_, ?_, ?_⟩
    · have houtcome : (c.add d job.1 job.2).1 = outcomeAlone d job :=
        congrArg Prod.fst (add_eq_alone d c job)
      rw [List.map_cons, ← houtcomes, ← houtcome]
      rfl
    · intro n step hstep
      cases n with
      | zero =>
        obtain rfl := Option.some.inj hstep
        exact hjob
      | succ n =>
        have hrest := hsteps n step hstep
        rwa [List.append_assoc] at hrest
    · rwa [List.append_assoc] at hlast

theorem Holds.result_eq (h : c.Holds d jobs) :
    c.result =
      match (errorsAlone d jobs).getLast? with
      | none => .ok (tokensAlone d jobs).toArray
      | some e => .error e := by
  rw [result, h.error, ← h.tokens, Array.toArray_toList]
  cases (errorsAlone d jobs).getLast? <;> rfl

/-- A scan of a text alone completes and reports nothing, or it fails and reports one error. -/
theorem outcomeAlone_cases (d : Delimiters) (job : String × TemplateId) :
    outcomeAlone d job = .completed ∧ reportedErrors d job.1 job.2 .silent () = [] ∨
      outcomeAlone d job = .failed ∧ ∃ e, reportedErrors d job.1 job.2 .silent () = [e] :=
  outcome_of_patient d job.1 job.2 .silent () Consumer.patient_silent

theorem errorsAlone_eq_nil_iff :
    errorsAlone d jobs = [] ↔ ∀ job ∈ jobs, outcomeAlone d job ≠ .failed := by
  rw [errorsAlone, List.flatMap_eq_nil_iff]
  refine forall₂_congr fun job _ => ?_
  obtain ⟨houtcome, herrors⟩ | ⟨houtcome, e, herrors⟩ := outcomeAlone_cases d job
  · simp [houtcome, herrors]
  · simp [houtcome, herrors]

/-- Scans into one collection end as the scans of the texts alone. The collection holds their
    tokens one behind the other and the error of the last scan that fails. -/
theorem addAll_eq_alone (d : Delimiters) (jobs : List (String × TemplateId)) :
    let session := addAll d jobs empty
    session.1.map Prod.fst = jobs.map (outcomeAlone d) ∧
      (∀ (n : Nat) (step : Outcome × Collection), session.1[n]? = some step →
        step.2.Holds d (jobs.take (n + 1))) ∧
      session.2.Holds d jobs ∧
      (∀ job, outcomeAlone d job = .completed ∧ reportedErrors d job.1 job.2 .silent () = [] ∨
        outcomeAlone d job = .failed ∧ ∃ e, reportedErrors d job.1 job.2 .silent () = [e]) ∧
      (session.2.result = .ok (tokensAlone d jobs).toArray ↔
        ∀ job ∈ jobs, outcomeAlone d job ≠ .failed) ∧
      ∀ e, session.2.result = .error e ↔ (errorsAlone d jobs).getLast? = some e := by
  intro session
  obtain ⟨houtcomes, hsteps, hlast⟩ := (holds_empty d).addAll jobs
  rw [List.nil_append] at hlast
  refine ⟨houtcomes, hsteps, hlast, outcomeAlone_cases d, ?_, ?_⟩
  · rw [hlast.result_eq, ← errorsAlone_eq_nil_iff, ← List.getLast?_eq_none_iff]
    cases (errorsAlone d jobs).getLast? <;> simp
  · intro e
    rw [hlast.result_eq]
    cases (errorsAlone d jobs).getLast? <;> simp

/-- A scan that fails, between one that changes the delimiters and one that begins with the
    standard ones again. -/
theorem addAll_eq_alone_failing :
    let jobs : List (String × TemplateId) :=
      [("\x7b\x7b=<% %>=\x7d\x7d<%a%>", .named "s"), ("x\n\x7b\x7b", .named "t"),
        ("\x7b\x7bb\x7d\x7d", .named "u")]
    let session := addAll .standard jobs empty
    let lookup (name : String) (valid : KeyPath.isName name.toList = true) : Token.Kind :=
      .lookup .escaped (.names false ⟨name, valid⟩ [])
    let e : SyntaxError := ⟨.unclosedTag, 2, ⟨2, 4⟩, .named "t"⟩
    session.1.map Prod.fst = [.completed, .failed, .completed] ∧
      session.1.map (·.2.error) = [none, some e, some e] ∧
      session.2.tokens.toList =
        [⟨.delimiterChange, 1, ⟨0, 11⟩, .named "s"⟩,
          ⟨lookup "a" (by decide), 1, ⟨11, 16⟩, .named "s"⟩,
          ⟨.text "x\n", 1, ⟨0, 2⟩, .named "t"⟩,
          ⟨lookup "b" (by decide), 1, ⟨0, 5⟩, .named "u"⟩] ∧
      session.2.result = .error e := by
  intro jobs session lookup e
  obtain ⟨houtcomes, hsteps, hlast, -, -, hresult⟩ := addAll_eq_alone .standard jobs
  have herrors : (errorsAlone .standard jobs).getLast? = some e := by decide +kernel
  refine ⟨?_, by decide +kernel, ?_, (hresult e).mpr herrors⟩
  · rw [houtcomes]
    decide +kernel
  · rw [hlast.tokens]
    decide +kernel

end Mustache.Collection
