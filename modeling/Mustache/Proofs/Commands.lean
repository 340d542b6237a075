-- SUMMARY: The commands that read a template agree: one counts the tokens that the other lists.
import Mustache.Command.Program
import Mustache.Proofs.Listings

/-!
# Commands

The commands `lex` and `check` share the reader of their options and that of their template,
but each scans for a consumer of its own, which counts and keeps the error by itself. What
they answer can be said by `tokenize`, which scans for a third one (`Request.answerList_eq`,
`Request.answerCount_eq`). So they exit alike and complain alike, whatever goes wrong
(`Program.lex_check_agree`). Nothing but complaints goes to the standard error, since the
program is not asked to log (see `Mustache.Command.Program`).
-/

namespace Mustache

/-! ## Counting -/

theorem Count.feed_consumer (ts : List Token) (c : Count) :
    consumer.feed ts c = (true, { c with tokens := c.tokens + ts.length }) := by
  induction ts generalizing c with
  | nil => rfl
  | cons t ts ih =>
    have hrest := ih { c with tokens := c.tokens + 1 }
    rw [Nat.add_assoc, Nat.add_comm 1] at hrest
    exact hrest

/-- Tokens are counted as they are collected. -/
theorem Count.ofText_eq (o : Options) (text : String) :
    ofText o text = (tokenize o.delimiters text o.templateId).map Array.size := by
  rw [ofText, tokenize, Collection.result, scan_eq_conclude, Consumer.conclude, feed_consumer]
  generalize (Collection.empty.add o.delimiters text o.templateId).2 = all
  cases herror : all.error with
  | none => simp [Except.map]
  | some e => simp [Except.map, consumer]

theorem eq_of_tokenize {d : Delimiters} {text : String} {id : TemplateId} {ts : Array Token}
    (h : tokenize d text id = .ok ts) : ts = (deliveredTokens d text id .silent ()).toArray := by
  rw [tokenize_eq] at h
  split at h
  · exact (Except.ok.inj h).symm
  · cases h

/-! ## Answers -/

/-- What a command says of its options. -/
def OptionError.report (command : String) (e : OptionError) : String :=
  Text.ofLines
    ["error: " ++ e.message,
     "Usage: stache " ++ command ++ " <file> [--delimiters=OPEN,CLOSE] [--name=ID]"]

namespace Request

section

variable (o : Options) (text : String)

theorem answerList_eq :
    let ts := deliveredTokens o.delimiters text o.templateId .silent ()
    answerList o text =
      match tokenize o.delimiters text o.templateId with
      | .ok _ => .success (Listing.ofTokens ts)
      | .error e => .failure (Listing.ofTokens ts) (e.report ++ "\n") := by
  intro ts
  obtain ⟨hout, hresult⟩ := Listing.write_unlimited o text
  rw [answerList, tokenize_eq]
  simp only [hout, hresult]
  cases reportedErrors o.delimiters text o.templateId .silent () <;> rfl

theorem answerCount_eq :
    answerCount o text =
      match tokenize o.delimiters text o.templateId with
      | .ok ts => .success ("ok (" ++ toString ts.size ++ " tokens)\n")
      | .error e => .failure "" (e.report ++ "\n") := by
  rw [answerCount, Count.ofText_eq]
  cases tokenize o.delimiters text o.templateId <;> rfl

end

/-- A command that reads a template first reads its options. -/
theorem answer_withOptions (command : String) (request : Options → Request)
    (reply : Options → String → Output) {read : String → Except ReadFault String}
    (h : ∀ o, (request o).answer read = withTemplate read o reply) (args : List String) :
    (withOptions command request args).answer read =
      match Options.parse args with
      | .ok o => withTemplate read o reply
      | .error e => .failure "" (e.report command) := by
  rw [withOptions]
  cases Options.parse args with
  | ok o => exact h o
  | error e => rfl

end Request

/-! ## Agreement -/

/-- What `lex` and `check` answer to the same arguments, given how templates are read. -/
inductive Request.Answers (read : String → Except ReadFault String) (args : List String) :
    Output → Output → Prop
  | invalid {e : OptionError} :
      Options.parse args = .error e →
      Answers read args (.failure "" (e.report "lex")) (.failure "" (e.report "check"))
  | unread {o : Options} {fault : ReadFault} :
      Options.parse args = .ok o → read o.path = .error fault →
      Answers read args (.failure "" (fault.message o.path ++ "\n"))
        (.failure "" (fault.message o.path ++ "\n"))
  /-- The tokens in front of the error are listed as well. -/
  | faulty {o : Options} {text : String} {ts : List Token} {e : SyntaxError} :
      Options.parse args = .ok o → read o.path = .ok text →
      tokenize o.delimiters text o.templateId = .error e →
      deliveredTokens o.delimiters text o.templateId .silent () = ts →
      Answers read args
        (.failure (String.join (ts.map fun t => t.display ++ "\n")) (e.report ++ "\n"))
        (.failure "" (e.report ++ "\n"))
  | accepted {o : Options} {text : String} {ts : List Token} :
      Options.parse args = .ok o → read o.path = .ok text →
      tokenize o.delimiters text o.templateId = .ok ts.toArray →
      deliveredTokens o.delimiters text o.templateId .silent () = ts →
      Answers read args (.success (String.join (ts.map fun t => t.display ++ "\n")))
        (.success ("ok (" ++ toString ts.length ++ " tokens)\n"))

/-- The answers have the same status, which is zero only if nothing goes wrong, and make the
    same complaint, unless it is about the options and names the command. -/
structure Request.Agree (read : String → Except ReadFault String) (args : List String)
    (lex check : Output) : Prop where
  answers : Answers read args lex check
  exit_eq : lex.exit = check.exit
  exit_eq_zero_iff : lex.exit = 0 ↔
    ∃ o text ts, Options.parse args = .ok o ∧ read o.path = .ok text ∧
      tokenize o.delimiters text o.templateId = .ok ts
  err_lex_eq_empty_iff : lex.err = "" ↔ lex.exit = 0
  err_check_eq_empty_iff : check.err = "" ↔ check.exit = 0
  err_eq : ∀ o, Options.parse args = .ok o → lex.err = check.err

theorem OptionError.report_ne (command : String) (e : OptionError) : e.report command ≠ "" := by
  simp [report, Text.ofLines]

theorem Output.exit_failure_ne (out err : String) : (failure out err).exit ≠ 0 := by
  simp [failure]

namespace Request

section

variable {read : String → Except ReadFault String} {args : List String} {lex check : Output}

theorem Answers.exit_eq_zero_iff (h : Answers read args lex check) :
    lex.exit = 0 ↔ ∃ o text ts, Options.parse args = .ok o ∧ read o.path = .ok text ∧
      tokenize o.delimiters text o.templateId = .ok ts := by
  cases h with
  | invalid hparse => simp [hparse, Output.failure]
  | unread hparse hread =>
    refine iff_of_false (Output.exit_failure_ne _ _) ?_
    rintro ⟨o, text, ts, hparse', hread', -⟩
    cases hparse.symm.trans hparse'
    cases hread.symm.trans hread'
  | faulty hparse hread htokens _ =>
    refine iff_of_false (Output.exit_failure_ne _ _) ?_
    rintro ⟨o, text, ts, hparse', hread', htokens'⟩
    cases hparse.symm.trans hparse'
    cases hread.symm.trans hread'
    cases htokens.symm.trans htokens'
  | accepted hparse hread htokens _ => exact iff_of_true rfl ⟨_, _, _, hparse, hread, htokens⟩

theorem Answers.agree (h : Answers read args lex check) : Agree read args lex check where
  answers := h
  exit_eq := by cases h <;> rfl
  exit_eq_zero_iff := h.exit_eq_zero_iff
  err_lex_eq_empty_iff := by
    cases h <;> simp [Output.failure, Output.success, OptionError.report_ne]
  err_check_eq_empty_iff := by
    cases h <;> simp [Output.failure, Output.success, OptionError.report_ne]
  err_eq := by
    intro o ho
    cases h with
    | invalid hparse => cases hparse.symm.trans ho
    | unread | faulty | accepted => rfl

end

/-- However templates are read, the commands agree. -/
theorem answers (read : String → Except ReadFault String) (args : List String) :
    Answers read args ((ofArgs ("lex" :: args)).answer read)
      ((ofArgs ("check" :: args)).answer read) := by
  have hlex : (ofArgs ("lex" :: args)).answer read = _ :=
    answer_withOptions "lex" list answerList (fun _ => rfl) args
  have hcheck : (ofArgs ("check" :: args)).answer read = _ :=
    answer_withOptions "check" count answerCount (fun _ => rfl) args
  rw [hlex, hcheck]
  cases hparse : Options.parse args with
  | error e => exact .invalid hparse
  | ok o =>
    simp only [withTemplate]
    cases hread : read o.path with
    | error fault => exact .unread hparse hread
    | ok text =>
      simp only [answerList_eq, answerCount_eq]
      cases htokens : tokenize o.delimiters text o.templateId with
      | error e => exact .faulty hparse hread htokens rfl
      | ok ts =>
        obtain rfl := eq_of_tokenize htokens
        exact .accepted hparse hread htokens rfl

end Request

/-! ## Programs -/

namespace Inputs

/-- The bytes under a path. -/
def content? (i : Inputs) (path : String) : Option ByteArray :=
  if path = "-" then some i.stdin else i.file path

theorem decode_eq_ok_iff {content : ByteArray} {text : String} :
    decode content = .ok text ↔ content = text.toByteArray := by
  unfold decode String.fromUTF8?
  constructor
  · intro h
    by_cases hvalid : content.IsValidUTF8
    · rw [dif_pos hvalid] at h
      rw [← Except.ok.inj h]
      rfl
    · rw [dif_neg hvalid] at h
      cases h
  · rintro rfl
    rw [dif_pos text.isValidUTF8]
    rfl

/-- A template is read if its bytes are the UTF-8 of a text. -/
theorem read_eq_ok_iff {i : Inputs} {path text : String} :
    i.read path = .ok text ↔ i.content? path = some text.toByteArray := by
  rw [read, content?]
  split
  · rw [decode_eq_ok_iff, Option.some.injEq]
  · cases i.file path with
    | none => simp
    | some content => simp [decode_eq_ok_iff]

end Inputs

/-- The commands agree as programs, for these inputs and however else reading may fail. -/
theorem Program.lex_check_agree (inputs : Inputs) (args : List String) :
    Request.Agree inputs.read args (run inputs ("lex" :: args)) (run inputs ("check" :: args)) ∧
      (∀ path text, inputs.read path = .ok text ↔
        inputs.content? path = some text.toByteArray) ∧
      ∀ read, Request.Agree read args ((Request.ofArgs ("lex" :: args)).answer read)
        ((Request.ofArgs ("check" :: args)).answer read) :=
  ⟨(Request.answers inputs.read args).agree, fun _ _ => Inputs.read_eq_ok_iff,
    fun read => (Request.answers read args).agree⟩

/-- A template that is read to its end, and one with an unclosed tag behind two tokens. -/
theorem Program.lex_check_agree_unclosed :
    let closed := "é\x7b\x7bb\x7d\x7d"
    let inputs : Inputs := ⟨closed.toByteArray, fun path =>
      if path = "f" then some (closed ++ "\x7b\x7b").toByteArray else none⟩
    let e : SyntaxError := ⟨.unclosedTag, 1, ⟨7, 9⟩, .named "t"⟩
    let listing := "1:0..2 Text \"é\"\n1:2..7 EscapedVariable b\n"
    run inputs ["lex", "-"] = ⟨0, listing, ""⟩ ∧
      run inputs ["check", "-"] = ⟨0, "ok (2 tokens)\n", ""⟩ ∧
      run inputs ["lex", "--name=t", "f"] = ⟨1, listing, e.report ++ "\n"⟩ ∧
      run inputs ["check", "--name=t", "f"] = ⟨1, "", e.report ++ "\n"⟩ ∧
      Request.Agree inputs.read ["--name=t", "f"] (run inputs ["lex", "--name=t", "f"])
        (run inputs ["check", "--name=t", "f"]) := by
  intro closed inputs e listing
  exact ⟨by decide +kernel, by decide +kernel, by decide +kernel, by decide +kernel,
    (lex_check_agree inputs ["--name=t", "f"]).1⟩

end Mustache
