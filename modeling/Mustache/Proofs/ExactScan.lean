-- SUMMARY: The scan with unbounded numbers, and that the words of a scan never wrap around.
import Mustache.Proofs.RoundCalls

/-!
# Exact scans

The numbers of a scan are words of 32 bits, which wrap around. `Exact.State.rounds` is the
same scan with natural numbers in place of words: it searches, moves and reports in the same
way, but no number of it is ever cut off.

The two agree on every template (`scan_exact`). The length of a template fits into a word, and
so does every offset in it and every number of line feeds. A line is another matter, since the
first line is 1: in a template of greatest length that is made of line feeds only, the last
line would be one too many. But line feeds are credited only with a marker behind them, which
is not credited itself.
-/

namespace Mustache

namespace Exact

/-! ## The scan with unbounded numbers -/

structure Range where
  start : Nat
  stop : Nat
  deriving DecidableEq

structure Match where
  range : Option Range
  newlines : Nat
  deriving DecidableEq

structure Cursor where
  text : String
  pos : Nat
  line : Nat

namespace Cursor

def ahead (c : Cursor) : List UInt8 := (Text.bytes c.text).drop c.pos

/-- The number of bytes ahead. -/
def left (c : Cursor) : Nat := c.text.utf8ByteSize - c.pos

def upTo (c : Cursor) (stop : Nat) : String := Text.ofBytes (c.ahead.take (stop - c.pos))

def find (c : Cursor) (needle : String) : Match :=
  match Marker.offset? (Text.bytes needle) c.ahead with
  | some k =>
    { range := some ⟨c.pos + k, c.pos + k + needle.utf8ByteSize⟩
      newlines := Text.newlines (c.ahead.take k) }
  | none => { range := none, newlines := Text.newlines c.ahead }

def advanceTo (c : Cursor) (pos newlines : Nat) : Cursor where
  text := c.text
  pos := pos
  line := c.line + newlines

theorem length_ahead (c : Cursor) : c.ahead.length = c.left := by
  rw [ahead, left, List.length_drop, Text.length_bytes]

/-- The line feeds that are counted lie in front of what is found, which lies within the text. -/
theorem bounds_of_find {c : Cursor} {needle : String} {range : Range}
    (h : (c.find needle).range = some range) :
    c.pos + (c.find needle).newlines ≤ range.start ∧
      range.stop = range.start + needle.utf8ByteSize ∧ range.stop ≤ c.pos + c.left := by
  unfold find at h ⊢
  split
  · rename_i k hk
    rw [hk] at h
    obtain rfl := Option.some.inj h
    have hle := Marker.offset?_add_length_le hk
    rw [length_ahead, Text.length_bytes] at hle
    have hcount : Text.newlines (c.ahead.take k) ≤ k :=
      Nat.le_trans List.count_le_length (List.length_take_le _ _)
    refine ⟨Nat.add_le_add_left hcount _, rfl, ?_⟩
    simp only
    omega
  · rename_i hk
    rw [hk] at h
    cases h

end Cursor

/-- What is reported of a tag or a text: its kind, or what is wrong with it, and its place. -/
structure Report where
  content : Token.Kind ⊕ Fault
  line : Nat
  range : Range
  deriving DecidableEq

structure State where
  cursor : Cursor
  delimiters : Delimiters

namespace State

def start (text : String) (d : Delimiters) : State where
  cursor := ⟨text, 0, 1⟩
  delimiters := d

def textUpTo (s : State) (stop : Nat) : List Report :=
  if s.cursor.pos < stop then
    [⟨.inl (.text (s.cursor.upTo stop)), s.cursor.line, ⟨s.cursor.pos, stop⟩⟩]
  else
    []

/-- Reads a tag whose opening marker begins at the given offset, from behind the marker. -/
def readTag (s : State) (start : Nat) (inside : Cursor) : Report × Option State :=
  let found := inside.find (Scan.closingMarker s.delimiters (inside.ahead.headD 0))
  match found.range with
  | none => (⟨.inr .unclosedTag, inside.line, ⟨start, s.cursor.text.utf8ByteSize⟩⟩, none)
  | some range =>
    match Tag.read s.delimiters (inside.upTo range.start) with
    | .error fault => (⟨.inr fault, inside.line, ⟨start, range.stop⟩⟩, none)
    | .ok (kind, delimiters) =>
      (⟨.inl kind, inside.line, ⟨start, range.stop⟩⟩,
        some ⟨inside.advanceTo range.stop found.newlines, delimiters⟩)

/-- What a round reports, and the state behind it if there is another round. -/
def round (s : State) : List Report × Option State :=
  let found := s.cursor.find s.delimiters.opening
  match found.range with
  | none => (s.textUpTo s.cursor.text.utf8ByteSize, none)
  | some range =>
    let tag := s.readTag range.start (s.cursor.advanceTo range.stop found.newlines)
    (s.textUpTo range.start ++ [tag.1], tag.2)

theorem left_of_readTag {s next : State} {start : Nat} {inside : Cursor}
    (h : (s.readTag start inside).2 = some next) : next.cursor.left ≤ inside.left := by
  simp only [readTag] at h
  split at h
  · cases h
  · rename_i range hrange
    split at h
    · cases h
    · rename_i kind delimiters hread
      obtain rfl := Option.some.inj h
      obtain ⟨hstart, hstop, hle⟩ := Cursor.bounds_of_find hrange
      simp only [Cursor.left, Cursor.advanceTo] at hle ⊢
      omega

theorem left_of_round {s next : State} (h : s.round.2 = some next) :
    next.cursor.left < s.cursor.left := by
  simp only [round] at h
  split at h
  · cases h
  · rename_i range hrange
    have hopening := Text.utf8ByteSize_pos s.delimiters.opening_ne
    obtain ⟨hstart, hstop, hle⟩ := Cursor.bounds_of_find hrange
    have hnext := left_of_readTag h
    simp only [Cursor.left, Cursor.advanceTo] at hle hnext ⊢
    omega

/-- The states at which rounds begin. -/
def rounds (s : State) : List State :=
  s :: match _ : s.round.2 with
    | none => []
    | some next => next.rounds
termination_by s.cursor.left
decreasing_by exact left_of_round ‹_›

theorem rounds_of_none {s : State} (h : s.round.2 = none) : s.rounds = [s] := by
  rw [rounds]
  split
  · rfl
  · rename_i next hnext
    cases h.symm.trans hnext

theorem rounds_of_some {s next : State} (h : s.round.2 = some next) :
    s.rounds = s :: next.rounds := by
  rw [rounds]
  split
  · rename_i hnext
    cases h.symm.trans hnext
  · rename_i next' hnext
    obtain rfl := Option.some.inj (h.symm.trans hnext)
    rfl

/-- All that a scan reports. -/
def reports (s : State) : List Report := s.rounds.flatMap fun s => s.round.1

end State

end Exact

/-! ## Words as numbers -/

def Span.exact (s : Span) : Exact.Range := ⟨s.start.toNat, s.stop.toNat⟩

/-- The numbers of a match fit into words. -/
def Exact.Match.Fits (m : Match) : Prop :=
  m.newlines < UInt32.size ∧
    ∀ range, m.range = some range → range.start < UInt32.size ∧ range.stop < UInt32.size

def Marker.Match.exact (m : Match) : Exact.Match := ⟨m.range.map Span.exact, m.newlines.toNat⟩

theorem Marker.Match.fits_exact (m : Match) : m.exact.Fits := by
  refine ⟨m.newlines.toNat_lt, ?_⟩
  intro range hrange
  obtain ⟨range, -, rfl⟩ := Option.map_eq_some_iff.mp hrange
  exact ⟨range.start.toNat_lt, range.stop.toNat_lt⟩

def Call.exact : Call → Exact.Report
  | token t => ⟨.inl t.kind, t.line.toNat, t.span.exact⟩
  | error e => ⟨.inr e.fault, e.line.toNat, e.span.exact⟩

namespace Cursor

def exact (c : Cursor) : Exact.Cursor := ⟨c.template.text, c.pos.toNat, c.line.toNat⟩

variable {c : Cursor} {needle : String} {range : Span}

theorem ahead_exact (c : Cursor) : c.exact.ahead = c.ahead := c.ahead_eq.symm

theorem upTo_exact (c : Cursor) (stop : UInt32) : c.exact.upTo stop.toNat = c.upTo stop := by
  rw [Exact.Cursor.upTo, upTo, ahead_exact]
  rfl

/-- The line feeds among bytes ahead fit into a word, as all bytes ahead do. -/
theorem toNat_newlines_of_prefix (c : Cursor) {bytes : List UInt8} (h : bytes <+: c.ahead) :
    (UInt32.ofNat (Text.newlines bytes)).toNat = Text.newlines bytes := by
  apply UInt32.toNat_ofNat_of_lt'
  have hcount : Text.newlines bytes ≤ bytes.length := List.count_le_length
  have hlength := h.length_le
  have hsize := c.template.size.toNat_lt
  rw [length_ahead] at hlength
  exact Nat.lt_of_le_of_lt (by omega) hsize

/-- A search finds what it would find with unbounded numbers. -/
theorem find_exact (c : Cursor) (needle : String) :
    (c.find needle).exact = c.exact.find needle := by
  rw [Exact.Cursor.find, ahead_exact]
  cases hk : Marker.offset? (Text.bytes needle) c.ahead with
  | none =>
    have hfind : c.find needle = ⟨none, .ofNat (Text.newlines c.ahead)⟩ := by
      rw [find, Marker.search, hk]
    rw [hfind]
    simp only [Marker.Match.exact, Option.map_none, c.toNat_newlines_of_prefix List.prefix_rfl]
  | some k =>
    have hfind : c.find needle =
        ⟨some ⟨c.pos + .ofNat k, c.pos + .ofNat (k + (Text.bytes needle).length)⟩,
          .ofNat (Text.newlines (c.ahead.take k))⟩ := by
      rw [find, Marker.search, hk]
    obtain ⟨k', hk', hstart, hstop⟩ := toNat_of_range_find (congrArg Marker.Match.range hfind)
    obtain rfl : k = k' := Option.some.inj (hk.symm.trans hk')
    rw [hfind]
    simp only [Marker.Match.exact, Option.map_some, Span.exact, hstart, hstop,
      c.toNat_newlines_of_prefix (List.take_prefix k _)]
    rfl

theorem range_find_exact (c : Cursor) (needle : String) :
    (c.exact.find needle).range = (c.find needle).range.map Span.exact := by
  rw [← c.find_exact]
  rfl

/-- No word of the cursor has wrapped around, and none does so by a search or by a move behind
    what is found. -/
structure Unwrapped (c : Cursor) : Prop where
  line_le : c.line.toNat ≤ max 1 c.pos.toNat
  find_fits : ∀ needle, (c.exact.find needle).Fits
  find_exact : ∀ needle, (c.find needle).exact = c.exact.find needle
  line_fits : ∀ needle, needle ≠ "" → (c.exact.find needle).range ≠ none →
    c.line.toNat + (c.exact.find needle).newlines < UInt32.size

namespace Sound

variable {text : String}

theorem line_fits (h : c.Sound text) (hne : needle ≠ "") {range : Exact.Range}
    (hrange : (c.exact.find needle).range = some range) :
    c.line.toNat + (c.exact.find needle).newlines < UInt32.size := by
  obtain ⟨hstart, hstop, hle⟩ := Exact.Cursor.bounds_of_find hrange
  have hline := h.line_le
  -- The marker has a byte to spare for the first line.
  have hneedle := Text.utf8ByteSize_pos hne
  have hfits := c.template.fits
  simp only [exact, Exact.Cursor.left] at hstart hle ⊢
  omega

theorem unwrapped (h : c.Sound text) : c.Unwrapped where
  line_le := h.line_le
  find_fits needle := by
    rw [← c.find_exact]
    exact Marker.Match.fits_exact _
  find_exact := c.find_exact
  line_fits needle hne hfound := by
    obtain ⟨range, hrange⟩ := Option.ne_none_iff_exists'.mp hfound
    exact h.line_fits hne hrange

theorem advanceTo_exact (h : c.Sound text) (hne : needle ≠ "")
    (hrange : (c.find needle).range = some range) :
    (c.advanceTo range.stop (c.find needle).newlines).exact =
      c.exact.advanceTo range.stop.toNat (c.exact.find needle).newlines := by
  have hrange' : (c.exact.find needle).range = some range.exact := by
    rw [c.range_find_exact, hrange, Option.map_some]
  have hfits := h.line_fits hne hrange'
  rw [← c.find_exact] at hfits ⊢
  have hline : (c.line + (c.find needle).newlines).toNat =
      c.line.toNat + (c.find needle).newlines.toNat := by
    rw [UInt32.toNat_add]
    exact Nat.mod_eq_of_lt hfits
  exact congrArg (Exact.Cursor.mk c.template.text range.stop.toNat) hline

end Sound

end Cursor

/-! ## Rounds -/

namespace Scan

def State.exact (s : State) : Exact.State := ⟨s.cursor.exact, s.delimiters⟩

def Next.exactState? : Next → Option Exact.State
  | .more s => some s.exact
  | .finished | .failed _ => none

namespace State

variable {id : TemplateId} {s : State} {tag : OpenTag} {text inside : String}

theorem textUpTo_exact (id : TemplateId) (s : State) (stop : UInt32) :
    s.exact.textUpTo stop.toNat = ((s.textUpTo id stop).map .token).map Call.exact := by
  rw [Exact.State.textUpTo, textUpTo]
  by_cases hlt : s.cursor.pos < stop
  · have hlt' : s.exact.cursor.pos < stop.toNat := UInt32.lt_iff_toNat_lt.mp hlt
    rw [if_pos hlt, if_pos hlt']
    simp only [exact, Cursor.upTo_exact]
    rfl
  · have hlt' : ¬ s.exact.cursor.pos < stop.toNat := mt UInt32.lt_iff_toNat_lt.mpr hlt
    rw [if_neg hlt, if_neg hlt']
    rfl

theorem readTag_exact (id : TemplateId) (s : State) (hinside : tag.inside.Sound inside) :
    s.exact.readTag tag.marker.start.toNat tag.inside.exact =
      ((s.tagCall id tag).exact,
        match s.readTag id tag with
        | .error _ => none
        | .ok (_, next) => some next.exact) := by
  have hpeek : tag.inside.exact.ahead.headD 0 = tag.inside.peek := by
    rw [Cursor.ahead_exact]
    rfl
  have hsize : s.exact.cursor.text.utf8ByteSize = s.cursor.template.size.toNat :=
    s.cursor.template.toNat_size.symm
  rw [Exact.State.readTag, tagCall, readTag, hpeek]
  have hne : closingMarker s.delimiters tag.inside.peek ≠ "" := by
    rw [hinside.toAt.closingMarker_peek]
    exact s.delimiters.closer_ne inside
  have hdelimiters : s.exact.delimiters = s.delimiters := rfl
  simp only [hdelimiters, Cursor.range_find_exact]
  generalize closingMarker s.delimiters tag.inside.peek = closer at hne ⊢
  cases hrange : (tag.inside.find closer).range with
  | none =>
    simp only [Option.map_none, hsize]
    rfl
  | some range =>
    have hupTo : tag.inside.exact.upTo range.exact.start = tag.inside.upTo range.start :=
      tag.inside.upTo_exact range.start
    have hadvance := hinside.advanceTo_exact hne hrange
    simp only [Option.map_some, hupTo]
    cases Tag.read s.delimiters (tag.inside.upTo range.start) with
    | error fault => rfl
    | ok result =>
      simp only
      rw [exact, hadvance]
      rfl

theorem round_exact (id : TemplateId) (h : s.cursor.Sound text) :
    s.exact.round = ((s.round id).calls.map Call.exact, (s.round id).next.exactState?) := by
  have hdelimiters : s.exact.delimiters = s.delimiters := rfl
  have hcursor : s.exact.cursor = s.cursor.exact := rfl
  have hsize : s.cursor.exact.text.utf8ByteSize = s.cursor.template.size.toNat :=
    s.cursor.template.toNat_size.symm
  rw [Exact.State.round, hdelimiters, hcursor, Cursor.range_find_exact]
  cases hrange : (s.cursor.find s.delimiters.opening).range with
  | none =>
    have hopen : s.openTag? = none := by
      rw [openTag?, hrange]
      rfl
    rw [calls_of_none hopen, round, hopen, hsize]
    exact congrArg (·, none) (textUpTo_exact id s _)
  | some range =>
    have hopen : s.openTag? = some ⟨range, s.cursor.advanceTo range.stop
        (s.cursor.find s.delimiters.opening).newlines⟩ := by
      rw [openTag?, hrange]
      rfl
    obtain ⟨_, inside, -, hinside, -⟩ := exists_inside h hopen
    have htag := readTag_exact id s hinside
    have htext := textUpTo_exact id s range.start
    have hadvance := h.advanceTo_exact s.delimiters.opening_ne hrange
    rw [calls_of_some hopen, round, hopen, List.map_append, ← htext]
    simp only [Option.map_some, Span.exact, ← hadvance, htag]
    cases s.readTag id _ <;> rfl

theorem next_exact (id : TemplateId) (h : s.cursor.Sound text) :
    s.exact.round.2 = (s.round id).next.exactState? :=
  congrArg Prod.snd (round_exact id h)

end State

/-! ## All rounds -/

namespace Loop

variable {σ : Type} {id : TemplateId} {k : Consumer σ} {s : State} {acc : σ} {rounds : List State}
  {r : Outcome × σ} {text : String}

/-- The loop goes through the rounds of the exact scan. -/
theorem map_exact (h : Loop id k s acc rounds r) (hs : s.cursor.Sound text) :
    r.1.Reaches (rounds.map State.exact) s.exact.rounds := by
  induction h generalizing text with
  | stopped =>
    rw [Exact.State.rounds]
    exact .stopped (List.prefix_append [_] _)
  | finished _ hnext | failed _ hnext =>
    rw [Exact.State.rounds_of_none (by rw [State.next_exact id hs, hnext]; rfl)]
    exact .refl _ _
  | @more s next _ _ _ _ _ hnext _ ih =>
    obtain ⟨-, behind, hbehind⟩ := State.exists_of_round_more hs hnext
    have hrounds : s.exact.rounds = s.exact :: next.exact.rounds :=
      Exact.State.rounds_of_some (by rw [State.next_exact id hs, hnext]; rfl)
    rw [hrounds]
    exact (ih hbehind).append [s.exact]

/-- What the rounds tell the consumer is what the exact scan reports. -/
theorem exists_calls_exact {r : Outcome × σ × List Call} {acc : σ × List Call}
    (h : Loop id k.noting s acc rounds r) (hs : s.cursor.Sound text) :
    ∃ calls, r.2.2 = acc.2 ++ calls ∧
      r.1.Reaches (calls.map Call.exact) s.exact.reports ∧
      ∀ call ∈ calls, 1 ≤ call.line.toNat ∧
        call.line.toNat ≤ max 1 s.cursor.template.size.toNat := by
  obtain ⟨calls, hcalls, hreaches⟩ := h.exists_calls
  have hsound := h.sound hs
  have hexact : (rounds.flatMap fun s => (s.round id).calls).map Call.exact =
      (rounds.map State.exact).flatMap fun s => s.round.1 := by
    rw [List.map_flatMap, List.flatMap_map]
    refine List.flatMap_congr fun s' hs' => ?_
    obtain ⟨-, text', htext'⟩ := hsound s' hs'
    exact (congrArg Prod.fst (State.round_exact id htext')).symm
  refine ⟨calls, hcalls, ?_, ?_⟩
  · have hrounds := (h.map_exact hs).flatMap fun s => s.round.1
    rw [← hexact] at hrounds
    exact (hreaches.map Call.exact).trans hrounds
  · intro call hcall
    obtain ⟨s', hs', hcall'⟩ := List.mem_flatMap.mp (hreaches.1.subset hcall)
    obtain ⟨htemplate, text', htext'⟩ := hsound s' hs'
    rw [← htemplate]
    exact State.bounds_of_mem_calls htext' hcall'

end Loop

end Scan

/-- A scan of a template is the scan with unbounded numbers, round by round and call by call.
    No word wraps around on the way, and every line lies between 1 and the length of the
    template. -/
theorem scan_exact {σ : Type} (d : Delimiters) (t : Template) (id : TemplateId) (k : Consumer σ)
    (acc : σ) :
    let outcome := (scan d t.text id k acc).1
    (∃ rounds, Scan.Loop id k (.start t d) acc rounds (scan d t.text id k acc) ∧
        outcome.Reaches (rounds.map Scan.State.exact) (Exact.State.start t.text d).rounds ∧
        ∀ s ∈ rounds, s.cursor.Unwrapped ∧
          ∀ tag, s.openTag? = some tag → tag.inside.Unwrapped) ∧
      outcome.Reaches ((scanCalls d t.text id k acc).map Call.exact)
        (Exact.State.start t.text d).reports ∧
      ∀ call ∈ scanCalls d t.text id k acc,
        1 ≤ call.line.toNat ∧ call.line.toNat ≤ max 1 t.text.utf8ByteSize := by
  intro outcome
  have hsound : (Scan.State.start t d).cursor.Sound t.text := Cursor.sound_start t
  refine ⟨?_, ?_⟩
  · obtain ⟨rounds, hloop⟩ := Scan.exists_loop id k (.start t d) acc
    rw [← Scan.scan_text] at hloop
    refine ⟨rounds, hloop, hloop.map_exact hsound, ?_⟩
    intro s hs
    obtain ⟨-, text, hs⟩ := hloop.sound hsound s hs
    refine ⟨hs.unwrapped, ?_⟩
    intro tag hopen
    obtain ⟨_, inside, -, hinside, -⟩ := Scan.State.exists_inside hs hopen
    exact hinside.unwrapped
  · obtain ⟨rounds, hloop⟩ := Scan.exists_loop id k.noting (.start t d) (acc, [])
    rw [← Scan.scan_text, scan_noting] at hloop
    obtain ⟨calls, hcalls, hreaches, hlines⟩ := hloop.exists_calls_exact hsound
    obtain rfl : scanCalls d t.text id k acc = calls := hcalls
    have hsize : (Scan.State.start t d).cursor.template.size.toNat = t.text.utf8ByteSize :=
      t.toNat_size
    rw [hsize] at hlines
    exact ⟨hreaches, hlines⟩

end Mustache
