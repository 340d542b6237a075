-- SUMMARY: A cursor that looks for one marker after another keeps its place and its line.
import Mustache.Proofs.Moves

/-!
# Runs of searches

A cursor looks for markers, one after another, and moves behind each that it finds. Where it
does not find one it stays. Whatever the markers are, the cursor never moves back, and after
every search it stands between two characters, sees the rest of the template, and is on the line
that the line feeds behind it tell, less those inside the markers that it has found
(`Cursor.skipEach_kept`).

Each of these follows from what a single search does to a sound cursor (`Cursor.Behind.skipPast`).
-/

namespace Mustache.Cursor

/-- Looks for each marker in turn, and moves behind those that are found. -/
def skipEach (c : Cursor) (needles : List String) : Cursor :=
  needles.foldl (fun c needle => (c.skipPast needle).2) c

/-- Those of the markers that are found in their turn. -/
def foundAmong (c : Cursor) : List String → List String
  | [] => []
  | needle :: needles =>
    let (found, next) := c.skipPast needle
    if found.range.isSome then needle :: next.foundAmong needles else next.foundAmong needles

/-- The number of line feeds inside markers. -/
def newlinesInside (needles : List String) : Nat := Text.newlines (needles.flatMap Text.bytes)

theorem newlinesInside_append_singleton (needles : List String) (needle : String) :
    newlinesInside (needles ++ [needle]) =
      newlinesInside needles + Text.newlines (Text.bytes needle) := by
  rw [newlinesInside, List.flatMap_append, Text.newlines_append, List.flatMap_singleton]
  rfl

/-- What holds of a cursor that has found the given markers in a template. -/
structure Kept (c : Cursor) (t : Template) (found : List String) : Prop where
  /-- It stands between two characters. -/
  isValid : String.Pos.Raw.IsValid t.text ⟨c.pos.toNat⟩
  pos_le : c.pos.toNat ≤ t.text.utf8ByteSize
  /-- It sees the template from its position on. -/
  bytes_rest : Text.bytes c.rest = (Text.bytes t.text).drop c.pos.toNat
  atEnd_iff : c.atEnd = true ↔ c.rest = ""
  /-- Its line counts the line feeds behind it, less those inside the markers. -/
  line_add : c.line.toNat + newlinesInside found =
    1 + Text.newlines ((Text.bytes t.text).take c.pos.toNat)

/-- The cursor has found the markers in the front of the template, and the text is ahead. -/
structure Behind (c : Cursor) (t : Template) (found : List String) (front text : String) : Prop where
  template_eq : c.template = t
  split : t.text = front ++ text
  sound : c.Sound text
  toNat_pos : c.pos.toNat = front.utf8ByteSize
  line_add : c.line.toNat + newlinesInside found = 1 + Text.newlines (Text.bytes front)

theorem behind_start (t : Template) : (start t).Behind t [] "" t.text where
  template_eq := rfl
  split := String.empty_append.symm
  sound := sound_start t
  toNat_pos := rfl
  line_add := rfl

namespace Behind

variable {c : Cursor} {t : Template} {found needles : List String} {front text needle : String}

theorem rest_eq (h : c.Behind t found front text) : c.rest = text := by
  rw [rest, h.sound.ahead_eq, Text.ofBytes_bytes]

theorem atEnd_iff (h : c.Behind t found front text) : c.atEnd = true ↔ c.rest = "" := by
  have hsize := h.sound.toNat_size
  rw [h.rest_eq, atEnd, decide_eq_true_iff, UInt32.le_iff_toNat_le,
    ← String.utf8ByteSize_eq_zero_iff]
  omega

theorem kept (h : c.Behind t found front text) : c.Kept t found where
  isValid := by
    rw [h.toNat_pos]
    exact String.Pos.Raw.isValid_iff_exists_append.mpr ⟨front, text, h.split, rfl⟩
  pos_le := by
    rw [h.toNat_pos, h.split, String.utf8ByteSize_append]
    exact Nat.le_add_right _ _
  bytes_rest := by rw [h.rest_eq, h.toNat_pos, h.split, Text.drop_bytes_append]
  atEnd_iff := h.atEnd_iff
  line_add := by rw [h.line_add, h.toNat_pos, h.split, Text.take_bytes_append]

/-! ## Searches, one and all -/

/-- A search leaves the cursor where it is, or moves it behind the marker. The line feeds in
    front of the marker are credited, and those inside it are not. -/
theorem skipPast (h : c.Behind t found front text) (hne : needle ≠ "") :
    (c.skipPast needle).1.range = none ∧ (c.skipPast needle).2 = c ∨
      (c.skipPast needle).1.range.isSome = true ∧
        ∃ passed behind,
          (c.skipPast needle).2.Behind t (found ++ [needle]) (front ++ passed) behind := by
  obtain ⟨-, hfind⟩ | ⟨before, behind, rfl, -, hfind⟩ := h.sound.find_cases hne
  · left
    rw [Cursor.skipPast, hfind]
    exact ⟨rfl, rfl⟩
  · right
    obtain ⟨hsound, hpos, hline⟩ := h.sound.advanceTo hne
    rw [Cursor.skipPast, hfind]
    refine ⟨rfl, before ++ needle, behind, h.template_eq, ?_, hsound, ?_, ?_⟩
    · rw [h.split]
      simp only [String.append_assoc]
    · rw [hpos, h.toNat_pos]
      simp only [String.utf8ByteSize_append, Nat.add_assoc]
    · -- What is credited and what is inside the marker make up the line feeds passed.
      have hadd := h.line_add
      rw [hline, newlinesInside_append_singleton]
      simp only [Text.bytes_append, Text.newlines_append]
      omega

/-- By induction on the markers that are still to be looked for. -/
theorem skipEach (h : c.Behind t found front text) (hne : ∀ needle ∈ needles, needle ≠ "") :
    ∃ passed behind,
      (c.skipEach needles).Behind t (found ++ c.foundAmong needles) (front ++ passed) behind := by
  induction needles generalizing c found front text with
  | nil => exact ⟨"", text, by simpa [Cursor.skipEach, foundAmong] using h⟩
  | cons needle needles ih =>
    rw [List.forall_mem_cons] at hne
    obtain ⟨hnone, hstay⟩ | ⟨hsome, passed, behind, hnext⟩ := h.skipPast hne.1
    · obtain ⟨passed, behind, hlast⟩ := ih h hne.2
      refine ⟨passed, behind, ?_⟩
      simpa [Cursor.skipEach, foundAmong, hnone, hstay] using hlast
    · obtain ⟨passed', behind', hlast⟩ := ih hnext hne.2
      refine ⟨passed ++ passed', behind', ?_⟩
      simpa [Cursor.skipEach, foundAmong, hsome, String.append_assoc] using hlast

end Behind

theorem skipEach_append (c : Cursor) (needles later : List String) :
    c.skipEach (needles ++ later) = (c.skipEach needles).skipEach later :=
  List.foldl_append

/-- A cursor looks for markers from the beginning of a template on. After every search it stands
    where it should and counts what it should, and its position never decreases. -/
theorem skipEach_kept (t : Template) {needles : List String} (hne : ∀ needle ∈ needles, needle ≠ "")
    {steps : List String} (hsteps : steps <+: needles) :
    ((start t).skipEach steps).Kept t ((start t).foundAmong steps) ∧
      ((start t).skipEach steps).pos ≤ ((start t).skipEach needles).pos := by
  obtain ⟨later, rfl⟩ := hsteps
  rw [List.forall_mem_append] at hne
  obtain ⟨passed, behind, hfirst⟩ := (behind_start t).skipEach hne.1
  obtain ⟨passed', behind', hlast⟩ := hfirst.skipEach hne.2
  refine ⟨by simpa using hfirst.kept, ?_⟩
  rw [skipEach_append, UInt32.le_iff_toNat_le, hfirst.toNat_pos, hlast.toNat_pos,
    String.utf8ByteSize_append (s := "" ++ passed)]
  exact Nat.le_add_right _ _

/-- A line feed, a marker that is not there, and one that begins with a line feed. The marker
    after them stands only behind the cursor. -/
theorem skipEach_kept_misses :
    let t : Template := ⟨"é\nb<\n<\n>c", by decide⟩
    let steps := ["\n", "zz", "\n>"]
    let needles := steps ++ ["é"]
    (∀ needle ∈ needles, needle ≠ "") ∧ steps <+: needles ∧
      (start t).foundAmong steps = ["\n", "\n>"] ∧
      ((start t).skipEach steps).Kept t ["\n", "\n>"] ∧
      ((start t).skipEach steps).pos = 9 ∧ ((start t).skipEach steps).line = 2 ∧
      ((start t).skipEach steps).pos ≤ ((start t).skipEach needles).pos := by
  intro t steps needles
  have hne : ∀ needle ∈ needles, needle ≠ "" := by decide +kernel
  have hsteps : steps <+: needles := List.prefix_append steps ["é"]
  have hfound : (start t).foundAmong steps = ["\n", "\n>"] := by decide +kernel
  obtain ⟨hkept, hpos⟩ := skipEach_kept t hne hsteps
  rw [hfound] at hkept
  exact ⟨hne, hsteps, hfound, hkept, by decide +kernel, by decide +kernel, hpos⟩

end Mustache.Cursor
