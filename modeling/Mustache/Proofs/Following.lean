-- SUMMARY: The scan follows the reading of its template, for every consumer.
import Mustache.Proofs.Reading

/-!
# Scans and readings

A cursor that stands in front of a text sees nothing but this text, its own position
and its own line (`Cursor.At`). So does a round of the scan. Round by round, a scan
hands to its consumer the pieces of the reading, put side by side from where it stands
(`Reads.run_eq`).

A piece of literal text and the tag behind it share a round. Since a reading takes them
one at a time, the round is first shown to be a round that stops behind the text and
goes on from there (`round_text`).
-/

namespace Mustache

/-! ## Cursors in front of a text -/

namespace Cursor

/-- The cursor stands in front of the text, at the position and on the line. -/
structure At (c : Cursor) (text : String) (pos line : Nat) : Prop where
  ahead_eq : c.ahead = Text.bytes text
  toNat_pos : c.pos.toNat = pos
  line_eq : c.line = .ofNat line
  toNat_size : c.template.size.toNat = pos + text.utf8ByteSize

theorem eq_of_fields {c c' : Cursor} (htemplate : c.template = c'.template)
    (hpos : c.pos = c'.pos) (hline : c.line = c'.line) : c = c' := by
  obtain ⟨t, pos, line, ahead, hahead⟩ := c
  obtain ⟨t', pos', line', ahead', hahead'⟩ := c'
  obtain rfl : t = t' := htemplate
  obtain rfl : pos = pos' := hpos
  obtain rfl : line = line' := hline
  obtain rfl : ahead = ahead' := hahead.trans hahead'.symm
  rfl

theorem at_start (t : Template) : (start t).At t.text 0 1 where
  ahead_eq := rfl
  toNat_pos := rfl
  line_eq := rfl
  toNat_size := by rw [Nat.zero_add]; exact t.toNat_size

namespace At

variable {c : Cursor} {text before needle behind : String} {pos line : Nat}

theorem pos_eq (h : c.At text pos line) : c.pos = .ofNat pos := by
  rw [← h.toNat_pos, UInt32.ofNat_toNat]

theorem size_eq (h : c.At text pos line) :
    c.template.size = .ofNat (pos + text.utf8ByteSize) := by
  rw [← h.toNat_size, UInt32.ofNat_toNat]

/-- The length of a template fits into 32 bits, so every position in it does. -/
theorem toNat_ofNat (h : c.At text pos line) {n : Nat} (hn : n ≤ pos + text.utf8ByteSize) :
    (UInt32.ofNat n).toNat = n := by
  apply UInt32.toNat_ofNat_of_lt'
  exact Nat.lt_of_le_of_lt hn (h.toNat_size ▸ c.template.size.toNat_lt)

theorem advanceTo (h : c.At (before ++ behind) pos line) (n : Nat) :
    (c.advanceTo (.ofNat (pos + before.utf8ByteSize)) (.ofNat n)).At behind
      (pos + before.utf8ByteSize) (line + n) := by
  have hstop : (UInt32.ofNat (pos + before.utf8ByteSize)).toNat = pos + before.utf8ByteSize :=
    h.toNat_ofNat (by simp)
  constructor
  · rw [ahead_advanceTo _ (by rw [hstop, h.toNat_pos]; omega), hstop, h.toNat_pos, h.ahead_eq,
      Nat.add_sub_cancel_left, Text.drop_bytes_append]
  · exact hstop
  · rw [UInt32.ofNat_add line, ← h.line_eq]
    rfl
  · have := h.toNat_size
    rw [String.utf8ByteSize_append, ← Nat.add_assoc] at this
    exact this

theorem upTo (h : c.At (before ++ behind) pos line) :
    c.upTo (.ofNat (pos + before.utf8ByteSize)) = before := by
  rw [Cursor.upTo, h.toNat_ofNat (by simp), h.toNat_pos, h.ahead_eq, Nat.add_sub_cancel_left,
    Text.take_bytes_append, Text.ofBytes_bytes]

/-- The marker that closes a tag is decided by the text inside. -/
theorem closingMarker_peek (h : c.At text pos line) (d : Delimiters) :
    Scan.closingMarker d c.peek = d.closer text := by
  rw [Cursor.peek, h.ahead_eq, d.closingMarker_headD]

theorem find_of_firstBehind (h : c.At (before ++ needle ++ behind) pos line)
    (hfirst : Marker.FirstBehind needle before) :
    c.find needle =
      { range := some ⟨.ofNat (pos + before.utf8ByteSize),
          .ofNat (pos + before.utf8ByteSize + needle.utf8ByteSize)⟩
        newlines := .ofNat (Text.newlines (Text.bytes before)) } := by
  have htake : (Text.bytes (before ++ needle ++ behind)).take before.utf8ByteSize =
      Text.bytes before := by
    rw [String.append_assoc, Text.take_bytes_append]
  rw [Cursor.find, Marker.search, h.ahead_eq, hfirst.offset?_append, h.pos_eq]
  simp only [htake, Text.length_bytes, UInt32.ofNat_add, UInt32.add_assoc]

theorem find_of_not_occurs (h : c.At text pos line) (hnone : ¬ Marker.Occurs needle text) :
    c.find needle =
      { range := none, newlines := .ofNat (Text.newlines (Text.bytes text)) } := by
  rw [Cursor.find, Marker.search, h.ahead_eq, Marker.offset?_eq_none_iff.mpr hnone]

end At

end Cursor

/-! ## Rounds -/

/-- The error with which a reading ends that has come to the given position and line. -/
def Ending.error? (id : TemplateId) (pos line : Nat) : Ending → Option SyntaxError
  | .finished => none
  | .failed fault tag =>
    some ⟨fault, .ofNat line, ⟨.ofNat pos, .ofNat (pos + tag.utf8ByteSize)⟩, id⟩

theorem Ending.error?_eq_none_iff {id : TemplateId} {pos line : Nat} {e : Ending} :
    e.error? id pos line = none ↔ e = .finished := by
  cases e <;> simp [Ending.error?]

namespace Scan.State

/-- The scan stands in front of the text, with the delimiters in force. -/
structure At (s : State) (d : Delimiters) (text : String) (pos line : Nat) : Prop where
  cursor : s.cursor.At text pos line
  delimiters : s.delimiters = d

/-- The state in which a scan has gone `n` bytes and some line feeds further. -/
def skip (s : State) (pos newlines : Nat) : State where
  cursor := s.cursor.advanceTo (.ofNat pos) (.ofNat newlines)
  delimiters := s.delimiters

theorem at_start (t : Template) (d : Delimiters) : (start t d).At d t.text 0 1 where
  cursor := Cursor.at_start t
  delimiters := rfl

section

variable {s : State} {d : Delimiters} {before inside : String} {pos line : Nat}

theorem At.skip {behind : String} (h : s.At d (before ++ behind) pos line) (newlines : Nat) :
    (s.skip (pos + before.utf8ByteSize) newlines).At d behind (pos + before.utf8ByteSize)
      (line + newlines) :=
  ⟨h.cursor.advanceTo newlines, h.delimiters⟩

theorem openTag?_of_not_occurs {text : String} (h : s.At d text pos line)
    (hnone : ¬ Marker.Occurs d.opening text) : s.openTag? = none := by
  rw [openTag?, h.delimiters, h.cursor.find_of_not_occurs hnone]
  rfl

theorem openTag?_of_firstBehind (h : s.At d (before ++ (d.opening ++ inside)) pos line)
    (hfirst : Marker.FirstBehind d.opening before) :
    s.openTag? = some
      { marker := ⟨.ofNat (pos + before.utf8ByteSize),
          .ofNat (pos + before.utf8ByteSize + d.opening.utf8ByteSize)⟩
        inside := s.cursor.advanceTo
          (.ofNat (pos + before.utf8ByteSize + d.opening.utf8ByteSize))
          (.ofNat (Text.newlines (Text.bytes before))) } := by
  have hcursor := h.cursor
  rw [← String.append_assoc] at hcursor
  rw [openTag?, h.delimiters, hcursor.find_of_firstBehind hfirst]
  rfl

theorem textUpTo_of_ne (id : TemplateId) {behind : String} (h : s.At d (before ++ behind) pos line)
    (hne : before ≠ "") :
    s.textUpTo id (.ofNat (pos + before.utf8ByteSize)) =
      [(Piece.ofText before).token id pos line] := by
  have hlt : s.cursor.pos < .ofNat (pos + before.utf8ByteSize) := by
    have := Text.utf8ByteSize_pos hne
    rw [UInt32.lt_iff_toNat_lt, h.cursor.toNat_ofNat (by simp), h.cursor.toNat_pos]
    omega
  rw [textUpTo, if_pos hlt, h.cursor.upTo, h.cursor.line_eq, h.cursor.pos_eq]
  simp [Piece.token, Piece.size, Piece.ofText, Piece.source]

theorem textUpTo_self (id : TemplateId) {text : String} (h : s.At d text pos line) :
    s.textUpTo id (.ofNat pos) = [] := by
  rw [textUpTo, if_neg]
  rw [h.cursor.pos_eq]
  exact UInt32.lt_irrefl _

/-- A round that begins with literal text is a round that begins behind it, with the
    text token in front. -/
theorem round_text (id : TemplateId) (h : s.At d (before ++ (d.opening ++ inside)) pos line)
    (hne : before ≠ "") (hfirst : Marker.FirstBehind d.opening before) :
    let behind := s.skip (pos + before.utf8ByteSize) (Text.newlines (Text.bytes before))
    s.round id =
      ⟨(Piece.ofText before).token id pos line :: (behind.round id).tokens,
        (behind.round id).next⟩ := by
  intro behind
  have hbehind : behind.At d ("" ++ (d.opening ++ inside)) (pos + before.utf8ByteSize)
      (line + Text.newlines (Text.bytes before)) := by
    simpa using h.skip (Text.newlines (Text.bytes before))
  have hopen := openTag?_of_firstBehind h hfirst
  -- Both cursors end up behind the marker. One was credited in two moves, the other in one.
  have hopen' : behind.openTag? = s.openTag? := by
    rw [hopen, openTag?_of_firstBehind hbehind (Marker.firstBehind_empty _)]
    congr 2
    apply Cursor.eq_of_fields
    · rfl
    · rfl
    · exact UInt32.add_zero _
  have htext : behind.textUpTo id (.ofNat (pos + before.utf8ByteSize)) = [] :=
    textUpTo_self id hbehind
  have hread : ∀ tag, behind.readTag id tag = s.readTag id tag := fun _ => rfl
  simp only [round, hopen', hopen, hread, htext, textUpTo_of_ne id h hne]
  cases s.readTag id _ with
  | error e => rfl
  | ok result => rfl

theorem round_of_not_occurs (id : TemplateId) {text : String} (h : s.At d text pos line)
    (hne : text ≠ "") (hnone : ¬ Marker.Occurs d.opening text) :
    s.round id = ⟨[(Piece.ofText text).token id pos line], .finished⟩ := by
  have htext : s.At d (text ++ "") pos line := by simpa using h
  rw [round, openTag?_of_not_occurs h hnone, h.cursor.size_eq, textUpTo_of_ne id htext hne]

theorem round_of_empty (id : TemplateId) (h : s.At d "" pos line) :
    s.round id = ⟨[], .finished⟩ := by
  have hnone : ¬ Marker.Occurs d.opening "" := by
    rw [Marker.Occurs, Text.bytes_empty, List.infix_nil]
    exact mt Text.bytes_eq_nil_iff.mp d.opening_ne
  have hsize : s.cursor.template.size = .ofNat pos := by simpa using h.cursor.size_eq
  rw [round, openTag?_of_not_occurs h hnone, hsize, textUpTo_self id h]

/-- A tag that opens where the scan stands. -/
theorem exists_openTag (h : s.At d (d.opening ++ inside) pos line) :
    ∃ tag, s.openTag? = some tag ∧ tag.marker.start = .ofNat pos ∧
      tag.inside.At inside (pos + d.opening.utf8ByteSize) line := by
  have h' : s.At d ("" ++ (d.opening ++ inside)) pos line := by simpa using h
  refine ⟨_, openTag?_of_firstBehind h' (Marker.firstBehind_empty _), by simp, ?_⟩
  simpa [Text.newlines] using h.cursor.advanceTo 0

theorem round_of_openTag (id : TemplateId) {tag : OpenTag}
    (h : s.At d (d.opening ++ inside) pos line) (hopen : s.openTag? = some tag) (hstart : tag.marker.start = .ofNat pos) :
    s.round id =
      match s.readTag id tag with
      | .error e => ⟨[], .failed e⟩
      | .ok (token, next) => ⟨[token], .more next⟩ := by
  have htext : s.textUpTo id tag.marker.start = [] := by
    rw [hstart]
    exact textUpTo_self id h
  rw [round, hopen]
  cases hread : s.readTag id tag with
  | error e => simp only [htext, hread]
  | ok result => simp only [htext, hread, List.nil_append]

theorem round_of_unclosed (id : TemplateId) (h : s.At d (d.opening ++ inside) pos line)
    (hnone : ¬ Marker.Occurs (d.closer inside) inside) :
    s.round id =
      ⟨[], .failed ⟨.unclosedTag, .ofNat line,
        ⟨.ofNat pos, .ofNat (pos + (d.opening ++ inside).utf8ByteSize)⟩, id⟩⟩ := by
  obtain ⟨tag, hopen, hstart, hinside⟩ := exists_openTag h
  rw [round_of_openTag id h hopen hstart, readTag, h.delimiters,
    hinside.closingMarker_peek, hinside.find_of_not_occurs hnone]
  simp only [hstart, hinside.line_eq, h.cursor.size_eq]

section Closes

variable {inner behind : String}

theorem round_of_closes (id : TemplateId) (h : s.At d (d.opening ++ inside) pos line)
    (hcloses : d.Closes inside inner behind) :
    ∃ cursor : Cursor,
      cursor.At behind (pos + (d.opening ++ inner ++ d.closer inside).utf8ByteSize)
        (line + Text.newlines (Text.bytes inner)) ∧
      s.round id =
        let span : Span :=
          ⟨.ofNat pos, .ofNat (pos + (d.opening ++ inner ++ d.closer inside).utf8ByteSize)⟩
        match Tag.read d inner with
        | .error fault => ⟨[], .failed ⟨fault, .ofNat line, span, id⟩⟩
        | .ok (kind, d') => ⟨[⟨kind, .ofNat line, span, id⟩], .more ⟨cursor, d'⟩⟩ := by
  obtain ⟨tag, hopen, hstart, hinside⟩ := exists_openTag h
  have hsplit : tag.inside.At (inner ++ d.closer inside ++ behind)
      (pos + d.opening.utf8ByteSize) line := by
    rw [← hcloses.split]
    exact hinside
  have hstop : pos + (d.opening ++ inner ++ d.closer inside).utf8ByteSize =
      pos + d.opening.utf8ByteSize + (inner ++ d.closer inside).utf8ByteSize := by
    simp only [String.utf8ByteSize_append]
    omega
  refine ⟨_, hstop ▸ hsplit.advanceTo (Text.newlines (Text.bytes inner)), ?_⟩
  have hfind := hsplit.find_of_firstBehind hcloses.first
  rw [Nat.add_assoc _ inner.utf8ByteSize, ← String.utf8ByteSize_append, ← hstop] at hfind
  rw [String.append_assoc] at hsplit
  rw [round_of_openTag id h hopen hstart, readTag, h.delimiters,
    hinside.closingMarker_peek, hfind]
  simp only [hstart, hinside.line_eq, hsplit.upTo]
  cases Tag.read d inner <;> rfl

end Closes

end

/-! ## Runs -/

theorem run_eq {σ : Type} (id : TemplateId) (k : Consumer σ) (s : State) (acc : σ) :
    s.run id k acc =
      match k.feed (s.round id).tokens acc with
      | (false, acc') => (.stopped, acc')
      | (true, acc') =>
        match (s.round id).next with
        | .more next => next.run id k acc'
        | .finished => (.completed, acc')
        | .failed e => (.failed, k.onError e acc') := by
  rw [run]
  cases k.feed (s.round id).tokens acc with
  | mk goesOn acc' =>
    cases goesOn with
    | false => rfl
    | true => cases (s.round id).next <;> rfl

/-- If a round begins as another one does, with a token in front, so does the run. -/
theorem run_of_round_cons {σ : Type} {id : TemplateId} {s s' : State} {t : Token}
    (hround : s.round id = ⟨t :: (s'.round id).tokens, (s'.round id).next⟩)
    (k : Consumer σ) (acc : σ) :
    s.run id k acc =
      match k.onToken t acc with
      | (false, acc') => (.stopped, acc')
      | (true, acc') => s'.run id k acc' := by
  simp only [run_eq id k s, hround, Consumer.feed]
  cases k.onToken t acc with
  | mk goesOn acc' =>
    cases goesOn with
    | false => rfl
    | true => exact (run_eq id k s' acc').symm

theorem run_of_round_more {σ : Type} {id : TemplateId} {s s' : State} {t : Token}
    (hround : s.round id = ⟨[t], .more s'⟩) (k : Consumer σ) (acc : σ) :
    s.run id k acc =
      match k.onToken t acc with
      | (false, acc') => (.stopped, acc')
      | (true, acc') => s'.run id k acc' := by
  simp only [run_eq id k s, hround, Consumer.feed]
  cases k.onToken t acc with
  | mk goesOn acc' => cases goesOn <;> rfl

/-- A scan hands over the piece with which the text ahead begins, and goes on behind it. -/
theorem exists_run_of_steps (id : TemplateId) {s : State} {d d' : Delimiters}
    {text behind : String} {p : Piece} {pos line : Nat} (hstep : Steps d text p d' behind)
    (h : s.At d text pos line) :
    ∃ s' : State, s'.At d' behind (pos + p.size) (line + p.newlines) ∧
      ∀ {σ : Type} (k : Consumer σ) (acc : σ),
        s.run id k acc =
          match k.onToken (p.token id pos line) acc with
          | (false, acc') => (.stopped, acc')
          | (true, acc') => s'.run id k acc' := by
  cases hstep with
  | rest hne hnone =>
    have htext : s.At d (text ++ "") pos line := by simpa using h
    have hbehind := htext.skip (Text.newlines (Text.bytes text))
    rw [Piece.size_ofText]
    refine ⟨_, hbehind, run_of_round_cons ?_⟩
    rw [round_of_not_occurs id h hne hnone, round_of_empty id hbehind]
  | @text before inside hne hfirst =>
    have hbehind := h.skip (Text.newlines (Text.bytes before))
    rw [Piece.size_ofText]
    exact ⟨_, hbehind, run_of_round_cons (round_text id h hne hfirst)⟩
  | @tag _ inner _ kind hfirst hread =>
    have hne := Tag.ne_of_read hread
    obtain ⟨cursor, hcursor, hround⟩ :=
      round_of_closes id h (Delimiters.closes_append hne hfirst behind)
    rw [d.closer_tag hne] at hcursor hround
    rw [hread] at hround
    exact ⟨⟨cursor, d'⟩, ⟨hcursor, rfl⟩, run_of_round_more hround⟩

theorem run_of_ends {σ : Type} (id : TemplateId) (k : Consumer σ) {s : State} {acc : σ}
    {d : Delimiters} {text : String} {e : Ending} {pos line : Nat} (hends : Ends d text e)
    (h : s.At d text pos line) :
    s.run id k acc =
      match e.error? id pos line with
      | none => (.completed, acc)
      | some error => (.failed, k.onError error acc) := by
  cases hends with
  | finished =>
    rw [run_eq, round_of_empty id h]
    rfl
  | unclosed hnone =>
    rw [run_eq, round_of_unclosed id h hnone]
    rfl
  | faulty hcloses hread =>
    obtain ⟨cursor, -, hround⟩ := round_of_closes id h hcloses
    rw [run_eq, hround, hread]
    rfl

end Scan.State

/-- Hands over tokens and what comes behind them, unless the consumer refuses to go on. -/
def Consumer.conclude {σ : Type} (k : Consumer σ) (ts : List Token) (e : Option SyntaxError)
    (acc : σ) : Outcome × σ :=
  match k.feed ts acc with
  | (false, acc') => (.stopped, acc')
  | (true, acc') =>
    match e with
    | none => (.completed, acc')
    | some e => (.failed, k.onError e acc')

theorem Consumer.conclude_cons {σ : Type} (k : Consumer σ) (t : Token) (ts : List Token)
    (e : Option SyntaxError) (acc : σ) :
    k.conclude (t :: ts) e acc =
      match k.onToken t acc with
      | (false, acc') => (.stopped, acc')
      | (true, acc') => k.conclude ts e acc' := by
  simp only [conclude, feed]
  cases k.onToken t acc with
  | mk goesOn acc' => cases goesOn <;> rfl

/-- A scan hands to its consumer the pieces of the reading of the text ahead. -/
theorem Reads.run_eq {σ : Type} {id : TemplateId} {k : Consumer σ} {s : Scan.State} {acc : σ}
    {d : Delimiters} {text : String} {ps : List Piece} {e : Ending} {pos line : Nat}
    (hreads : Reads d text ps e) (h : s.At d text pos line) :
    s.run id k acc =
      k.conclude (Piece.place id pos line ps)
        (e.error? id (pos + (Piece.sources ps).utf8ByteSize) (line + Piece.credit ps))
        acc := by
  induction hreads generalizing s acc pos line with
  | ends hends =>
    rw [Scan.State.run_of_ends id k hends h]
    rfl
  | @step d d' text behind p ps e hstep _ ih =>
    obtain ⟨s', hs', hrun⟩ := Scan.State.exists_run_of_steps id hstep h
    rw [hrun, Piece.place, Consumer.conclude_cons]
    cases k.onToken (p.token id pos line) acc with
    | mk goesOn acc' =>
      cases goesOn with
      | false => rfl
      | true =>
        rw [Piece.utf8ByteSize_sources_cons, Piece.credit, ← Nat.add_assoc, ← Nat.add_assoc]
        exact ih hs'

/-- A scan hands to its consumer the pieces of the reading of the template. -/
theorem Reads.scan_eq {σ : Type} {id : TemplateId} {k : Consumer σ} {acc : σ} {d : Delimiters}
    {text : String} {ps : List Piece} {e : Ending} (fits : text.utf8ByteSize < UInt32.size)
    (hreads : Reads d text ps e) :
    scan d text id k acc =
      k.conclude (Piece.place id 0 1 ps)
        (e.error? id (Piece.sources ps).utf8ByteSize (1 + Piece.credit ps)) acc := by
  have htemplate : Template.ofText? text = some ⟨text, fits⟩ := dif_pos fits
  have hstart := Scan.State.at_start ⟨text, fits⟩ d
  rw [scan, htemplate]
  simpa using hreads.run_eq hstart

end Mustache
