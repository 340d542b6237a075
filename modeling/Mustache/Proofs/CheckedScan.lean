-- SUMMARY: A scan that fails where a contract is broken is the scan itself.
import Mustache.Proofs.KeyPathMachine
import Mustache.Proofs.Rounds

/-!
# Checked scans

`Checked.scan` is the scan made of checked operations: a search has to begin within the
template, slices are cut out of the template by offsets and have to lie between its
characters, spans must not end in front of their beginning, cursors move forward and within
the template, lines fit into words, and the names of a key path are sliced out of the tag by
the key path machine. It fails with the first contract that is broken.

None is ever broken. The checked scan has a result for every template and every consumer,
and it is the result of the scan (`Checked.scan_keeps_contracts`).

A round is checked as a whole before its tokens are delivered. So the checked scan also
checks what a round would do behind a token that its consumer refuses.
-/

namespace Mustache.Checked

open Scan

/-! ## The checked scan -/

/-- Reads a lookup. The machine slices the names out of the body. -/
def readLookup (purpose : Lookup) (body : String) : Except Breach (Except Fault Token.Kind) := do
  let _ ← KeyPath.Machine.components? body
  .ok (Tag.readLookup purpose body)

/-- Reads what stands between the markers of a tag. Only key paths are sliced by offsets. -/
def read (d : Delimiters) (inner : String) :
    Except Breach (Except Fault (Token.Kind × Delimiters)) :=
  match inner.toList with
  | [] => .ok (.error .emptyTag)
  | first :: rest =>
    if Marker.occursIn d.opening inner then .ok (.error .unclosedTag)
    else
      match Sigil.ofChar? first with
      | some (.lookup purpose) => do
        let kind ← readLookup purpose (.ofList rest)
        .ok (kind.map (·, d))
      | none => do
        let kind ← readLookup .escaped inner
        .ok (kind.map (·, d))
      | some .comment | some .inclusion | some .delimiterChange => .ok (Tag.read d inner)

def textUpTo (id : TemplateId) (s : State) (stop : UInt32) : Except Breach (List Token) :=
  if s.cursor.pos < stop then do
    let content ← slice s.cursor.template.text s.cursor.pos.toNat stop.toNat
    let place ← span s.cursor.pos stop
    .ok [⟨.text content, s.cursor.line, place, id⟩]
  else
    .ok []

def readTag (id : TemplateId) (s : State) (tag : OpenTag) :
    Except Breach (Except SyntaxError (Token × State)) := do
  let found ← find tag.inside (closingMarker s.delimiters tag.inside.peek)
  match found.range with
  | none =>
    let place ← span tag.marker.start s.cursor.template.size
    .ok (.error ⟨.unclosedTag, tag.inside.line, place, id⟩)
  | some range =>
    let place ← span tag.marker.start range.stop
    let inner ← slice s.cursor.template.text tag.marker.stop.toNat range.start.toNat
    match ← read s.delimiters inner with
    | .error fault => .ok (.error ⟨fault, tag.inside.line, place, id⟩)
    | .ok (kind, delimiters) =>
      let behind ← advanceTo tag.inside range.stop found.newlines
      .ok (.ok (⟨kind, tag.inside.line, place, id⟩, ⟨behind, delimiters⟩))

def round (id : TemplateId) (s : State) : Except Breach Round := do
  let found ← find s.cursor s.delimiters.opening
  match found.range with
  | none =>
    let text ← textUpTo id s s.cursor.template.size
    .ok ⟨text, .finished⟩
  | some range =>
    let text ← textUpTo id s range.start
    let inside ← advanceTo s.cursor range.stop found.newlines
    match ← readTag id s ⟨range, inside⟩ with
    | .error e => .ok ⟨text, .failed e⟩
    | .ok (token, next) => .ok ⟨text ++ [token], .more next⟩

def run {σ : Type} (id : TemplateId) (k : Consumer σ) (s : State) (acc : σ) :
    Except Breach (Outcome × σ) := do
  let round ← round id s
  match k.feed round.tokens acc with
  | (false, acc') => .ok (.stopped, acc')
  | (true, acc') =>
    match round.next with
    | .finished => .ok (.completed, acc')
    | .failed e => .ok (.failed, k.onError e acc')
    | .more next =>
      if next.cursor.ahead.length < s.cursor.ahead.length then run id k next acc'
      else .error .standstill
termination_by s.cursor.ahead.length

def scan {σ : Type} (d : Delimiters) (text : String) (id : TemplateId) (k : Consumer σ)
    (acc : σ) : Except Breach (Outcome × σ) :=
  match Template.ofText? text with
  | none => do
    let place ← span 0 0
    .ok (.failed, k.onError ⟨.templateTooLarge, 1, place, id⟩ acc)
  | some t => run id k (.start t d) acc

/-! ## Rounds that keep all contracts -/

theorem readLookup_eq (purpose : Lookup) (body : String) :
    readLookup purpose body = .ok (Tag.readLookup purpose body) := by
  rw [readLookup, KeyPath.Machine.components?_eq, ok_bind]

theorem read_eq (d : Delimiters) (inner : String) : read d inner = .ok (Tag.read d inner) := by
  rw [read, Tag.read]
  cases inner.toList with
  | nil => rfl
  | cons first rest =>
    simp only
    split
    · rfl
    · cases hsigil : Sigil.ofChar? first with
      | none => simp only [readLookup_eq, ok_bind]
      | some sigil =>
        cases sigil with
        | lookup purpose => simp only [readLookup_eq, ok_bind]
        | comment => rfl
        | inclusion => rfl
        | delimiterChange => rfl

variable {s : State} {tag : OpenTag} {text before behind : String}

theorem textUpTo_eq (id : TemplateId) (h : s.cursor.Sound (before ++ behind)) :
    let stop := UInt32.ofNat (s.cursor.pos.toNat + before.utf8ByteSize)
    textUpTo id s stop = .ok (s.textUpTo id stop) := by
  intro stop
  rw [textUpTo, State.textUpTo]
  split
  · rename_i hlt
    have hplace : span s.cursor.pos stop = .ok ⟨s.cursor.pos, stop⟩ :=
      span_eq (Nat.le_of_lt (UInt32.lt_iff_toNat_lt.mp hlt))
    have hcontent : slice s.cursor.template.text s.cursor.pos.toNat stop.toNat = .ok before :=
      h.checked_slice_eq
    have hupTo : s.cursor.upTo stop = before := h.toAt.upTo
    rw [hcontent, ok_bind, hplace, ok_bind, hupTo]
  · rfl

/-- A tag that was opened is read within all contracts. -/
theorem readTag_eq (id : TemplateId) (h : s.cursor.Sound text) (hopen : s.openTag? = some tag) :
    readTag id s tag = .ok (s.readTag id tag) := by
  obtain ⟨before, inside, rfl, hinside, htemplate, hstart, hstop, hpos⟩ :=
    State.exists_inside h hopen
  rw [readTag, State.readTag, hinside.toAt.closingMarker_peek]
  have hne := s.delimiters.closer_ne inside
  generalize s.delimiters.closer inside = closer at hne ⊢
  rw [hinside.checked_find_eq hne, ok_bind]
  obtain ⟨-, hfind⟩ | ⟨inner, behind, rfl, -, hfind⟩ := hinside.find_cases hne
  · have hplace : tag.marker.start.toNat ≤ s.cursor.template.size.toNat := by
      have hle := hinside.pos_le
      rw [htemplate] at hle
      omega
    simp only [hfind, span_eq hplace, ok_bind]
  · have hadvance := hinside.checked_advanceTo_eq hne
    rw [String.append_assoc] at hinside
    have hinner := hinside.checked_slice_eq
    rw [← hstop, htemplate] at hinner
    have hupTo := hinside.toAt.upTo
    have hplace : tag.marker.start.toNat ≤
        (UInt32.ofNat (tag.inside.pos.toNat + inner.utf8ByteSize + closer.utf8ByteSize)).toNat := by
      rw [hinside.toAt.toNat_ofNat (by simp only [String.utf8ByteSize_append]; omega)]
      omega
    simp only [hfind, span_eq hplace, ok_bind, hstop] at hinner ⊢
    rw [hinner]
    simp only [ok_bind, read_eq, hupTo]
    cases Tag.read s.delimiters inner with
    | error fault => rfl
    | ok result => simp only [hadvance, ok_bind]

theorem round_eq (id : TemplateId) (h : s.cursor.Sound text) : round id s = .ok (s.round id) := by
  rw [round, State.round, h.checked_find_eq s.delimiters.opening_ne, ok_bind]
  obtain ⟨-, hfind⟩ | ⟨before, behind, rfl, -, hfind⟩ := h.find_cases s.delimiters.opening_ne
  · have hopen : s.openTag? = none := by rw [State.openTag?, hfind]; rfl
    have hrest : s.cursor.Sound (text ++ "") := by simpa using h
    have htext := textUpTo_eq id hrest
    rw [← h.toAt.size_eq] at htext
    simp only [hfind, hopen, htext, ok_bind]
  · have hopen := State.openTag?_of_find hfind
    have hread := readTag_eq id h hopen
    have hadvance := h.checked_advanceTo_eq s.delimiters.opening_ne
    rw [String.append_assoc] at h
    have htext := textUpTo_eq id h
    simp only [hfind, hopen, htext, hadvance, hread, ok_bind]
    cases s.readTag id _ with
    | error e => rfl
    | ok result => rfl

/-! ## All rounds -/

/-- The checked scan goes through the rounds of the scan. -/
theorem run_of_loop {σ : Type} {id : TemplateId} {k : Consumer σ} {acc : σ} {rounds : List State}
    {r : Outcome × σ} (hloop : Loop id k s acc rounds r) (h : s.cursor.Sound text) :
    run id k s acc = .ok r := by
  induction hloop generalizing text with
  | stopped hfeed => rw [run, round_eq id h, ok_bind, hfeed]
  | finished hfeed hnext | failed hfeed hnext =>
    rw [run, round_eq id h, ok_bind, hfeed]
    simp only [hnext]
  | more hfeed hnext _ ih =>
    have hlt := State.length_ahead_of_round hnext
    obtain ⟨-, behind, hbehind⟩ := State.exists_of_round_more h hnext
    rw [run, round_eq id h, ok_bind, hfeed]
    simp only [hnext, if_pos hlt]
    exact ih hbehind

/-- No contract is ever broken: the checked scan of any text, for any consumer, is the scan.
    The machine that slices the names out of a tag reads the key path that the tag has. -/
theorem scan_keeps_contracts {σ : Type} (d : Delimiters) (text : String) (id : TemplateId)
    (k : Consumer σ) (acc : σ) :
    scan d text id k acc = .ok (Mustache.scan d text id k acc) ∧
      ∀ body, KeyPath.Machine.components? body =
        .ok ((KeyPath.parse? body).map KeyPath.components) := by
  refine ⟨?_, KeyPath.Machine.components?_eq⟩
  rw [scan, Mustache.scan]
  cases Template.ofText? text with
  | none => rfl
  | some t =>
    obtain ⟨rounds, hloop⟩ := exists_loop id k (.start t d) acc
    exact run_of_loop hloop (Cursor.sound_start t)

end Mustache.Checked
