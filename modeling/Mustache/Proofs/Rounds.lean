-- SUMMARY: The rounds of a scan, one after another, and where each of them moves the cursor.
import Mathlib.Data.List.Chain
import Mustache.Proofs.Moves

/-!
# Rounds of a scan

A scan is a loop of rounds. `Scan.Loop` is the loop with the states at which its rounds
begin, for any consumer. Since the relation is inductive, a scan that it relates to its
result takes finitely many rounds (`Scan.exists_loop`).

Both moves of a round take the cursor behind a marker that was found. So the cursor is sound
at the beginning of every round (`Scan.Loop.sound`) and inside every tag
(`Scan.State.exists_inside`), and a round that is not the last passes a whole tag
(`Scan.State.exists_of_round_more`).
-/

namespace Mustache

namespace Delimiters

/-- The number of bytes of the shortest tag. -/
def leastTag (d : Delimiters) : Nat := d.opening.utf8ByteSize + 1 + d.closing.utf8ByteSize

theorem closing_le_closer (d : Delimiters) (inside : String) :
    d.closing.utf8ByteSize ≤ (d.closer inside).utf8ByteSize := by
  unfold closer
  split
  · rw [String.utf8ByteSize_append]
    exact Nat.le_add_left ..
  · exact Nat.le_refl _

theorem behind_eq_or (d : Delimiters) (kind : Token.Kind) (inner : String) :
    d.behind kind inner = d ∨ ofTagBody? inner = some (d.behind kind inner) := by
  cases kind with
  | delimiterChange =>
    unfold behind
    cases ofTagBody? inner with
    | none => exact .inl rfl
    | some new => exact .inr rfl
  | text | comment | lookup | inclusion => exact .inl rfl

end Delimiters

namespace Scan

/-- From a state, for a consumer in a state of its own, the loop of a scan goes through
    rounds that begin at the listed states, and has the result. -/
inductive Loop {σ : Type} (id : TemplateId) (k : Consumer σ) :
    State → σ → List State → Outcome × σ → Prop
  | stopped {s : State} {acc acc' : σ} :
      k.feed (s.round id).tokens acc = (false, acc') → Loop id k s acc [s] (.stopped, acc')
  | finished {s : State} {acc acc' : σ} :
      k.feed (s.round id).tokens acc = (true, acc') → (s.round id).next = .finished →
      Loop id k s acc [s] (.completed, acc')
  | failed {s : State} {acc acc' : σ} {e : SyntaxError} :
      k.feed (s.round id).tokens acc = (true, acc') → (s.round id).next = .failed e →
      Loop id k s acc [s] (.failed, k.onError e acc')
  | more {s next : State} {acc acc' : σ} {rounds : List State} {r : Outcome × σ} :
      k.feed (s.round id).tokens acc = (true, acc') → (s.round id).next = .more next →
      Loop id k next acc' rounds r → Loop id k s acc (s :: rounds) r

/-- The loop comes to an end, for every consumer. -/
theorem exists_loop {σ : Type} (id : TemplateId) (k : Consumer σ) (s : State) (acc : σ) :
    ∃ rounds, Loop id k s acc rounds (s.run id k acc) := by
  induction hn : s.cursor.ahead.length using Nat.strongRecOn generalizing s acc with
  | ind n ih =>
    rw [State.run_eq]
    cases hfeed : k.feed (s.round id).tokens acc with
    | mk goesOn acc' =>
      cases goesOn with
      | false => exact ⟨_, .stopped hfeed⟩
      | true =>
        cases hnext : (s.round id).next with
        | finished => exact ⟨_, .finished hfeed hnext⟩
        | failed e => exact ⟨_, .failed hfeed hnext⟩
        | more next =>
          have hlt := State.length_ahead_of_round hnext
          obtain ⟨rounds, hrest⟩ := ih _ (hn ▸ hlt) next acc' rfl
          exact ⟨_, .more hfeed hnext hrest⟩

/-- The scan of a template is the loop from its start. -/
theorem scan_text {σ : Type} (d : Delimiters) (t : Template) (id : TemplateId) (k : Consumer σ)
    (acc : σ) : scan d t.text id k acc = (State.start t d).run id k acc := by
  rw [scan, Template.ofText?, dif_pos t.fits]

namespace State

variable {id : TemplateId} {s next : State} {tag : OpenTag} {token : Token} {text inside : String}

/-! ## The moves of a round -/

theorem openTag?_of_find {range : Span} {newlines : UInt32}
    (h : s.cursor.find s.delimiters.opening = ⟨some range, newlines⟩) :
    s.openTag? = some ⟨range, s.cursor.advanceTo range.stop newlines⟩ := by
  rw [openTag?, h]
  rfl

/-- A tag that is open stands behind literal text and its opening marker. -/
theorem exists_inside (h : s.cursor.Sound text) (hopen : s.openTag? = some tag) :
    ∃ before inside, text = before ++ s.delimiters.opening ++ inside ∧
      tag.inside.Sound inside ∧ tag.inside.template = s.cursor.template ∧
      tag.marker.start.toNat = s.cursor.pos.toNat + before.utf8ByteSize ∧
      tag.marker.stop = tag.inside.pos ∧
      tag.inside.pos.toNat =
        s.cursor.pos.toNat + before.utf8ByteSize + s.delimiters.opening.utf8ByteSize := by
  obtain ⟨-, hfind⟩ | ⟨before, behind, rfl, -, hfind⟩ := h.find_cases s.delimiters.opening_ne
  · simp [openTag?, hfind] at hopen
  · rw [openTag?_of_find hfind] at hopen
    obtain rfl := Option.some.inj hopen
    obtain ⟨hinside, hpos, -⟩ := h.advanceTo s.delimiters.opening_ne
    have hstart := h.toAt.toNat_ofNat (n := s.cursor.pos.toNat + before.utf8ByteSize) (by
      simp only [String.utf8ByteSize_append]
      omega)
    exact ⟨before, behind, rfl, hinside, rfl, hstart, rfl, hpos⟩

theorem exists_of_readTag (hinside : tag.inside.Sound inside)
    (hread : s.readTag id tag = .ok (token, next)) :
    ∃ inner behind, inside = inner ++ s.delimiters.closer inside ++ behind ∧ inner ≠ "" ∧
      next.cursor.Sound behind ∧ next.cursor.template = tag.inside.template ∧
      next.cursor.pos.toNat =
        tag.inside.pos.toNat + inner.utf8ByteSize + (s.delimiters.closer inside).utf8ByteSize ∧
      (next.delimiters = s.delimiters ∨
        Delimiters.ofTagBody? inner = some next.delimiters) := by
  rw [readTag, hinside.toAt.closingMarker_peek] at hread
  have hne := s.delimiters.closer_ne inside
  generalize s.delimiters.closer inside = closer at hread hne ⊢
  obtain ⟨-, hfind⟩ | ⟨inner, behind, rfl, -, hfind⟩ := hinside.find_cases hne
  · simp [hfind] at hread
  · have hupTo : tag.inside.upTo (.ofNat (tag.inside.pos.toNat + inner.utf8ByteSize)) = inner := by
      have hsplit := hinside.toAt
      rw [String.append_assoc] at hsplit
      exact hsplit.upTo
    simp only [hfind, hupTo] at hread
    split at hread
    · cases hread
    · rename_i kind d' hinner
      obtain ⟨-, rfl⟩ := Prod.mk.inj (Except.ok.inj hread)
      obtain ⟨hbehind, hpos, -⟩ := hinside.advanceTo hne
      obtain ⟨-, -, rfl⟩ := Tag.read_eq_ok_iff.mp hinner
      exact ⟨inner, behind, rfl, Tag.ne_of_read hinner, hbehind, rfl, hpos,
        s.delimiters.behind_eq_or kind inner⟩

/-- A round leads to another one by a tag, behind which the cursor stands. The tag is not
    shorter than its markers and a byte between them, and it may have named new markers. -/
structure Passes (s next : State) : Prop where
  template_eq : next.cursor.template = s.cursor.template
  pos_le : s.cursor.pos.toNat + s.delimiters.leastTag ≤ next.cursor.pos.toNat
  delimiters : next.delimiters = s.delimiters ∨
    ∃ body, Delimiters.ofTagBody? body = some next.delimiters

theorem exists_of_round_more (h : s.cursor.Sound text) (hmore : (s.round id).next = .more next) :
    s.Passes next ∧ ∃ behind, next.cursor.Sound behind := by
  rw [round] at hmore
  split at hmore
  · cases hmore
  · rename_i tag hopen
    split at hmore
    · cases hmore
    · rename_i token next' hread
      obtain rfl := Next.more.inj hmore
      obtain ⟨before, inside, -, hinside, htemplate, -, -, hpos⟩ := exists_inside h hopen
      obtain ⟨inner, behind, -, hne, hbehind, htemplate', hpos', hdelimiters⟩ :=
        exists_of_readTag hinside hread
      have hinner := Text.utf8ByteSize_pos hne
      have hcloser := s.delimiters.closing_le_closer inside
      refine ⟨⟨htemplate'.trans htemplate, ?_, hdelimiters.imp_right fun h => ⟨inner, h⟩⟩,
        behind, hbehind⟩
      rw [Delimiters.leastTag]
      omega

end State

/-! ## All rounds -/

namespace Loop

variable {σ : Type} {id : TemplateId} {k : Consumer σ} {s : State} {acc : σ} {rounds : List State}
  {r : Outcome × σ} {text : String}

theorem head?_eq (h : Loop id k s acc rounds r) : rounds.head? = some s := by
  cases h <;> rfl

/-- Every round begins with a sound cursor in the same template. -/
theorem sound (h : Loop id k s acc rounds r) (hs : s.cursor.Sound text) :
    ∀ s' ∈ rounds, s'.cursor.template = s.cursor.template ∧ ∃ text', s'.cursor.Sound text' := by
  induction h generalizing text with
  | stopped | finished | failed => simpa using ⟨text, hs⟩
  | @more s next acc acc' rounds r hfeed hnext _ ih =>
    obtain ⟨hpasses, behind, hbehind⟩ := State.exists_of_round_more hs hnext
    rw [List.forall_mem_cons]
    refine ⟨⟨rfl, text, hs⟩, ?_⟩
    rw [← hpasses.template_eq]
    exact ih hbehind

theorem isChain_passes (h : Loop id k s acc rounds r) (hs : s.cursor.Sound text) :
    rounds.IsChain State.Passes := by
  induction h generalizing text with
  | stopped | finished | failed => exact .singleton _
  | more _ hnext hrest ih =>
    obtain ⟨hpasses, behind, hbehind⟩ := State.exists_of_round_more hs hnext
    rw [List.isChain_cons, hrest.head?_eq]
    exact ⟨by simpa using hpasses, ih hbehind⟩

end Loop

end Scan

end Mustache
