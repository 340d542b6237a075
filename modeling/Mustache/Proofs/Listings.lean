-- SUMMARY: What a listing leaves in its sink, and with what it ends, for every sink.
import Mustache.Command.Listing
import Mustache.Proofs.Delivery

/-!
# Listings and their sinks

A sink that runs full takes the first bytes of what it is given, as many as fit, wherever
this cuts a line or a character. It does not matter in which pieces the bytes come: texts
that are written one after another, up to the first that does not fit, leave the sink as
their concatenation does (`Sink.writeEach_eq`). So a listing writes the lines of all tokens
of the template at once, as it were (`Listing.write_eq`).

A listing ends with the first of these that goes wrong: writing, passing on what the sink
holds, reading the template (`Listing.write_ofLimit`).
-/

namespace Mustache

/-! ## Sinks -/

namespace Sink

/-- The sink takes the text as a whole. -/
def Fits (s : Sink) (text : String) : Prop :=
  ∀ limit ∈ s.limit, text.utf8ByteSize ≤ limit - s.written.size

/-- The sink takes no more than a first part of the text, up to its limit. -/
def Overflows (s : Sink) (limit : Nat) (text : String) : Prop :=
  s.limit = some limit ∧ limit - s.written.size < text.utf8ByteSize

/-- Writes texts one after another, up to the first that the sink does not take. -/
def writeEach (s : Sink) : List String → Bool × Sink
  | [] => (true, s)
  | text :: rest =>
    match s.write text with
    | (true, s') => s'.writeEach rest
    | (false, s') => (false, s')

theorem fits_or_overflows (s : Sink) (text : String) :
    s.Fits text ∨ ∃ limit, s.Overflows limit text := by
  unfold Fits Overflows
  cases s.limit with
  | none => exact .inl nofun
  | some limit =>
    obtain h | h := Nat.lt_or_ge (limit - s.written.size) text.utf8ByteSize
    · exact .inr ⟨limit, rfl, h⟩
    · exact .inl fun _ hlimit => Option.some.inj hlimit ▸ h

theorem fits_unlimited (text : String) : unlimited.Fits text := by
  intro limit hlimit
  cases hlimit

theorem extract_of_size_le {bytes : ByteArray} {room : Nat} (h : bytes.size ≤ room) :
    bytes.extract 0 room = bytes := by
  rw [← Nat.max_eq_left h, ByteArray.extract_zero_max_size]

section

variable {s : Sink} {text : String}

theorem write_of_fits (h : s.Fits text) :
    s.write text = (true, { s with written := s.written ++ text.toByteArray }) := by
  obtain ⟨written, limit, flushFails⟩ := s
  cases limit with
  | none => rfl
  | some limit =>
    have hroom : text.toByteArray.size ≤ limit - written.size := h limit rfl
    simp only [write, String.toUTF8, extract_of_size_le hroom, hroom, decide_true]

theorem write_of_overflows {limit : Nat} (h : s.Overflows limit text) :
    s.write text =
      (false, { s with
        written := s.written ++ text.toByteArray.extract 0 (limit - s.written.size) }) := by
  obtain ⟨written, _, flushFails⟩ := s
  obtain ⟨rfl, hroom⟩ := h
  have hsize : ¬ text.toByteArray.size ≤ limit - written.size := Nat.not_le_of_lt hroom
  simp only [write, String.toUTF8, hsize, decide_false]

end

theorem flushFails_write (s : Sink) (text : String) :
    (s.write text).2.flushFails = s.flushFails := by
  obtain h | ⟨limit, h⟩ := s.fits_or_overflows text
  · rw [write_of_fits h]
  · rw [write_of_overflows h]

theorem write_empty (s : Sink) : s.write "" = (true, s) := by
  rw [write_of_fits fun _ _ => Nat.zero_le _]
  simp

/-- Two texts are written as one, unless the first one fills the sink. -/
theorem write_append (s : Sink) (a b : String) :
    s.write (a ++ b) =
      match s.write a with
      | (true, s') => s'.write b
      | (false, s') => (false, s') := by
  have hsize : (a ++ b).utf8ByteSize = a.utf8ByteSize + b.utf8ByteSize :=
    String.utf8ByteSize_append
  have hcut (room : Nat) : (a ++ b).toByteArray.extract 0 room =
      a.toByteArray.extract 0 room ++ b.toByteArray.extract 0 (room - a.utf8ByteSize) := by
    rw [String.toByteArray_append, ByteArray.extract_append, Nat.zero_sub, String.size_toByteArray]
  obtain ha | ⟨limit, hlimit, hroom⟩ := s.fits_or_overflows a
  · rw [write_of_fits ha]
    obtain hb | ⟨limit, hlimit, hrest⟩ :=
      fits_or_overflows { s with written := s.written ++ a.toByteArray } b
    · have hfits : s.Fits (a ++ b) := by
        intro limit hlimit
        have hroom := ha limit hlimit
        have hrest := hb limit hlimit
        simp only [ByteArray.size_append, String.size_toByteArray] at hrest
        omega
      simp only [write_of_fits hfits, write_of_fits hb, String.toByteArray_append,
        ByteArray.append_assoc]
    · -- The sink runs full in the second text, behind the whole of the first one.
      have hroom : a.toByteArray.size ≤ limit - s.written.size := ha limit hlimit
      have hoverflows : s.Overflows limit (a ++ b) := by
        simp only [ByteArray.size_append, String.size_toByteArray] at hrest hroom
        exact ⟨hlimit, by omega⟩
      simp only [write_of_overflows ⟨hlimit, hrest⟩, write_of_overflows hoverflows, hcut,
        extract_of_size_le hroom, ByteArray.size_append, String.size_toByteArray,
        ByteArray.append_assoc, Nat.sub_sub]
  · have hoverflows : s.Overflows limit (a ++ b) := ⟨hlimit, by omega⟩
    have hnone : limit - s.written.size - a.utf8ByteSize = 0 := by omega
    rw [write_of_overflows hoverflows, write_of_overflows ⟨hlimit, hroom⟩, hcut, hnone,
      ByteArray.extract_same, ByteArray.append_empty]

theorem writeEach_eq (s : Sink) (texts : List String) :
    s.writeEach texts = s.write (String.join texts) := by
  induction texts generalizing s with
  | nil => exact s.write_empty.symm
  | cons text rest ih =>
    rw [writeEach, String.join_cons, write_append]
    cases s.write text with
    | mk complete s' =>
      cases complete with
      | false => rfl
      | true => exact ih s'

/-- An empty sink takes the first bytes of a text, up to its limit. -/
theorem write_ofLimit_eq (limit : Option Nat) (flushFails : Bool) (text : String) :
    let written := (ofLimit limit flushFails).write text
    written.1 = !limit.any (· < text.utf8ByteSize) ∧
      written.2.written.data.toList =
        (Text.bytes text).take (limit.getD text.utf8ByteSize) := by
  intro written
  obtain h | ⟨bound, hbound, hroom⟩ := (ofLimit limit flushFails).fits_or_overflows text
  · have hwritten : written = _ := write_of_fits h
    have hbytes : written.2.written.data.toList = Text.bytes text := by
      simp [hwritten, ofLimit, Text.bytes]
    rw [hbytes, hwritten]
    cases limit with
    | none => exact ⟨rfl, (List.take_length (l := Text.bytes text)).symm⟩
    | some bound =>
      have hroom : text.utf8ByteSize ≤ bound := h bound rfl
      exact ⟨by simpa using hroom, (List.take_of_length_le hroom).symm⟩
  · obtain rfl : limit = some bound := hbound
    have hroom : bound < text.utf8ByteSize := hroom
    have hwritten : written = _ := write_of_overflows ⟨rfl, hroom⟩
    rw [hwritten]
    refine ⟨by simpa using hroom, ?_⟩
    simp [ofLimit, Text.bytes]

end Sink

/-! ## Listings -/

namespace Listing

/-- The text of tokens, each of them ended by a line feed. -/
def ofTokens (ts : List Token) : String := String.join (ts.map fun t => t.display ++ "\n")

/-- A listing hands its lines to the sink one after another, and counts those that the sink
    takes. -/
theorem feed_consumer (ts : List Token) (p : Progress) :
    let written := p.sink.writeEach (ts.map line)
    ∃ count, consumer.feed ts p = (written.1, ⟨written.2, count, p.error⟩) ∧
      (written.1 = true → count = p.count + ts.length) := by
  induction ts generalizing p with
  | nil => exact ⟨p.count, rfl, fun _ => rfl⟩
  | cons t ts ih =>
    simp only [List.map_cons, Sink.writeEach, Consumer.feed, consumer]
    cases p.sink.write (line t) with
    | mk complete sink =>
      cases complete with
      | false => exact ⟨p.count, rfl, fun h => absurd h Bool.false_ne_true⟩
      | true =>
        obtain ⟨count, hfeed, hcount⟩ := ih ⟨sink, p.count + 1, p.error⟩
        refine ⟨count, hfeed, ?_⟩
        intro h
        rw [hcount h, List.length_cons, Nat.add_right_comm]
        rfl

/-- The lines are written as one text. -/
theorem writeEach_line (ts : List Token) (sink : Sink) :
    sink.writeEach (ts.map line) = sink.write (ofTokens ts) := by
  have hlines : ts.map line = ts.map fun t => t.display ++ "\n" := rfl
  rw [hlines, Sink.writeEach_eq, ofTokens]

section

variable (o : Options) (text : String)

/-- A listing writes the lines of all tokens of the template, as far as the sink takes them,
    and ends with the first thing that goes wrong. -/
theorem write_eq (sink : Sink) :
    let ts := deliveredTokens o.delimiters text o.templateId .silent ()
    let written := sink.write (ofTokens ts)
    write o text sink =
      (if !written.1 then .error .output
        else if sink.flushFails then .error .output
        else
          match reportedErrors o.delimiters text o.templateId .silent () with
          | [] => .ok ts.length
          | e :: _ => .error (.template e),
      written.2) := by
  intro ts written
  have hflush : written.2.flushFails = sink.flushFails := Sink.flushFails_write ..
  obtain ⟨count, hfeed, hcount⟩ := feed_consumer ts ⟨sink, 0, none⟩
  have hwritten : sink.writeEach (ts.map line) = written := writeEach_line ts sink
  rw [hwritten] at hfeed hcount
  rw [write, scan_eq_conclude, Consumer.conclude, ← deliveredTokens_silent, hfeed,
    reportedErrors_silent]
  cases hpassed : written.1 with
  | false => rfl
  | true =>
    have hcount' : count = ts.length := by simpa using hcount hpassed
    cases (Collection.empty.add o.delimiters text o.templateId).2.error with
    | none => simp [hcount', hflush]
    | some e => simp [consumer, hflush]

theorem deliveredTokens_unlimited :
    deliveredTokens o.delimiters text o.templateId consumer ⟨.unlimited, 0, none⟩ =
      deliveredTokens o.delimiters text o.templateId .silent () := by
  rw [deliveredTokens_eq_taken, ← deliveredTokens_silent, Consumer.taken_of_feed]
  obtain ⟨count, hfeed, -⟩ := feed_consumer
    (deliveredTokens o.delimiters text o.templateId .silent ()) ⟨.unlimited, 0, none⟩
  rw [hfeed, writeEach_line, Sink.write_of_fits (Sink.fits_unlimited _)]

/-- A sink without a limit receives the whole listing. -/
theorem write_unlimited :
    let ts := deliveredTokens o.delimiters text o.templateId .silent ()
    let ending := write o text .unlimited
    ending.2.text = ofTokens ts ∧
      ending.1 =
        match reportedErrors o.delimiters text o.templateId .silent () with
        | [] => .ok ts.length
        | e :: _ => .error (.template e) := by
  intro ts ending
  have hending : ending = _ := write_eq o text .unlimited
  rw [Sink.write_of_fits (Sink.fits_unlimited _)] at hending
  rw [hending]
  refine ⟨?_, rfl⟩
  have hbytes : (Sink.unlimited.written ++ (ofTokens ts).toByteArray).data.toList =
      Text.bytes (ofTokens ts) := by
    simp [Sink.unlimited, Sink.ofLimit, Text.bytes]
  exact (congrArg Text.ofBytes hbytes).trans (Text.ofBytes_bytes _)

end

/-- The sink ends up with the first bytes of the listing, as many as it takes. A write that
    fails hides everything else, and a flush that fails hides an error of the template. -/
theorem write_ofLimit (o : Options) (text : String) (limit : Option Nat) (flushFails : Bool) :
    let ts := deliveredTokens o.delimiters text o.templateId .silent ()
    let listing := String.join (ts.map fun t => t.display ++ "\n")
    let ending := write o text (.ofLimit limit flushFails)
    ending.2.written.data.toList =
        (Text.bytes listing).take (limit.getD listing.utf8ByteSize) ∧
      ending.1 =
        if limit.any (· < listing.utf8ByteSize) then .error .output
        else if flushFails then .error .output
        else
          match reportedErrors o.delimiters text o.templateId .silent () with
          | [] => .ok ts.length
          | e :: _ => .error (.template e) := by
  intro ts listing ending
  obtain ⟨hpassed, hbytes⟩ := Sink.write_ofLimit_eq limit flushFails listing
  have hending : ending = _ := write_eq o text (.ofLimit limit flushFails)
  have hlisting : ofTokens ts = listing := rfl
  rw [hlisting, hpassed, Bool.not_not] at hending
  rw [hending]
  exact ⟨hbytes, rfl⟩

/-- A sink that runs full inside a character, one that takes all and does not pass it on, and one
    without any fault. The template ends with an unclosed tag. -/
theorem write_ofLimit_inside :
    let o : Options := ⟨"t", .standard, none⟩
    let text := "é\x7b\x7bb\x7d\x7d\x7b\x7b"
    let listing := "1:0..2 Text \"é\"\n1:2..7 EscapedVariable b\n"
    let full := write o text (.ofLimit (some 14) true)
    let stuck := write o text (.ofLimit (some 42) true)
    let whole := write o text (.ofLimit none false)
    full.2.written.data.toList = Text.bytes "1:0..2 Text \"" ++ [0xC3] ∧
      full.1 = .error .output ∧
      stuck.2.written.data.toList = Text.bytes listing ∧ stuck.1 = .error .output ∧
      whole.2.written.data.toList = Text.bytes listing ∧
      whole.1 = .error (.template ⟨.unclosedTag, 1, ⟨7, 9⟩, .named "t"⟩) := by
  intro o text listing full stuck whole
  have hlisting : String.join ((deliveredTokens o.delimiters text o.templateId .silent ()).map
      fun t => t.display ++ "\n") = listing := by decide +kernel
  have herrors : reportedErrors o.delimiters text o.templateId .silent () =
      [⟨.unclosedTag, 1, ⟨7, 9⟩, .named "t"⟩] := by decide +kernel
  have hfull := write_ofLimit o text (some 14) true
  have hstuck := write_ofLimit o text (some 42) true
  have hwhole := write_ofLimit o text none false
  simp only [hlisting, herrors] at hfull hstuck hwhole
  obtain ⟨hfullBytes, hfullResult⟩ := hfull
  obtain ⟨hstuckBytes, hstuckResult⟩ := hstuck
  obtain ⟨hwholeBytes, hwholeResult⟩ := hwhole
  rw [if_pos (by decide +kernel)] at hfullResult
  rw [if_neg (by decide +kernel), if_pos trivial] at hstuckResult
  rw [if_neg (by decide +kernel), if_neg Bool.false_ne_true] at hwholeResult
  exact ⟨hfullBytes.trans (by decide +kernel), hfullResult, hstuckBytes.trans (by decide +kernel),
    hstuckResult, hwholeBytes.trans (by decide +kernel), hwholeResult⟩

end Listing

end Mustache
