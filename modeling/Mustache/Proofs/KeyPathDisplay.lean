-- SUMMARY: Showing a key path and reading what is shown are inverse to each other.
import Mustache.Proofs.KeyPathGrammar

/-!
# Key paths as they are shown

A key path can be shown part by part, by a printer that remembers whether the next part needs
a dot in front of it. It does not at the beginning, nor behind the part `.`, which ends in a
dot itself. A dot too many or too few would show another key path: `.a` begins at the current
context, `a` does not, and `..a` is none. The printer puts the dots where the grammar wants
them (`Written.eq_printed`), so that what is shown is the text that was read, without the blanks
around it, and is read as the same key path (`parse?_display`).
-/

namespace Mustache.KeyPath

/-! ## The printer -/

/-- Writes the parts one behind the other, from a part on that may need a dot in front. -/
def printFrom (needsDot : Bool) : List String → String
  | [] => ""
  | part :: parts => (if needsDot then "." else "") ++ part ++ printFrom (part != ".") parts

/-- The text in which the parts of a key path are shown. -/
def printed (parts : List String) : String := printFrom false parts

/-- The parts of some key path: `.` in front of names, or one of both alone. -/
def AreParts (parts : List String) : Prop :=
  parts ≠ [] ∧ ∃ names, (parts = names ∨ parts = "." :: names) ∧ ∀ name ∈ names, IsName name

theorem IsName.ne_dot {name : String} (h : IsName name) : name ≠ "." := by
  rintro rfl
  exact (h.2 '.' (by decide)).1 rfl

/-- Behind names there is always a dot missing. -/
theorem printFrom_names {names : List String} (hne : names ≠ [])
    (hnames : ∀ name ∈ names, IsName name) (needsDot : Bool) :
    printFrom needsDot names = (if needsDot then "." else "") ++ ".".intercalate names := by
  induction names generalizing needsDot with
  | nil => exact absurd rfl hne
  | cons name names ih =>
    rw [List.forall_mem_cons] at hnames
    have hdot : (name != ".") = true := bne_iff_ne.mpr hnames.1.ne_dot
    rw [printFrom, hdot]
    cases names with
    | nil => simp [printFrom]
    | cons next names =>
      rw [ih (List.cons_ne_nil _ _) hnames.2, String.intercalate_cons_cons, if_pos rfl]
      simp only [String.append_assoc]

/-- The printer puts the dots where the grammar wants them. -/
theorem Written.eq_printed {s : String} {parts : List String} (h : Written s parts) :
    s = printed parts := by
  cases h with
  | current => decide
  | names hne hnames =>
    rw [printed, printFrom_names hne hnames false]
    simp
  | fromCurrent hne hnames =>
    rw [printed, printFrom, bne_self_eq_false, printFrom_names hne hnames false]
    simp

theorem AreParts.written {parts : List String} (h : AreParts parts) :
    Written (printed parts) parts := by
  have hwritten : ∃ s, Written s parts := by
    obtain ⟨hne, names, rfl | rfl, hnames⟩ := h
    · exact ⟨_, .names hne hnames⟩
    · cases names with
      | nil => exact ⟨_, .current⟩
      | cons name names => exact ⟨_, .fromCurrent (List.cons_ne_nil _ _) hnames⟩
  obtain ⟨s, hs⟩ := hwritten
  rwa [hs.eq_printed] at hs

theorem Written.areParts {s : String} {parts : List String} (h : Written s parts) :
    AreParts parts := by
  cases h with
  | current => exact ⟨List.cons_ne_nil _ _, [], .inr rfl, by simp⟩
  | names hne hnames => exact ⟨hne, _, .inl rfl, hnames⟩
  | fromCurrent _ hnames => exact ⟨List.cons_ne_nil _ _, _, .inr rfl, hnames⟩

/-! ## The key path of given parts -/

theorem isName_of_mem_texts {p : KeyPath} {text : String} (h : text ∈ p.texts) : IsName text := by
  cases p with
  | current => cases h
  | names fromCurrent first others =>
    obtain ⟨name, -, rfl⟩ := List.mem_map.mp h
    exact isName_toList_iff.mp name.valid

theorem written_display (p : KeyPath) : Written p.display p.components := by
  cases p with
  | current => exact .current
  | names fromCurrent first others =>
    have hnames : ∀ text ∈ (names fromCurrent first others).texts, IsName text := fun _ =>
      isName_of_mem_texts
    cases fromCurrent with
    | true => exact .fromCurrent (List.cons_ne_nil _ _) hnames
    | false =>
      have hwritten : Written _ _ := .names (List.cons_ne_nil _ _) hnames
      rwa [← String.empty_append (s := ".".intercalate _)] at hwritten

theorem texts_inj {p q : KeyPath} (hexplicit : p.isExplicit = q.isExplicit)
    (htexts : p.texts = q.texts) : p = q := by
  have htext : Function.Injective Name.text := by
    rintro ⟨text, _⟩ ⟨text', _⟩ rfl
    rfl
  cases p with
  | current =>
    cases q with
    | current => rfl
    | names => cases htexts
  | names fromCurrent first others =>
    cases q with
    | current => cases htexts
    | names fromCurrent' first' others' =>
      obtain rfl : fromCurrent = fromCurrent' := hexplicit
      have hnames : first :: others = first' :: others' := List.map_injective_iff.mpr htext htexts
      obtain ⟨rfl, rfl⟩ := List.cons_eq_cons.mp hnames
      rfl

/-- No name is a dot, so the part `.` tells where the path begins. -/
theorem dot_mem_components_iff {p : KeyPath} : "." ∈ p.components ↔ p.isExplicit = true := by
  have hdot : "." ∉ p.texts := fun hmem => (isName_of_mem_texts hmem).ne_dot rfl
  simp [components, hdot]

theorem components_inj {p q : KeyPath} (h : p.components = q.components) : p = q := by
  have hexplicit : p.isExplicit = q.isExplicit := by
    rw [Bool.eq_iff_iff, ← dot_mem_components_iff, ← dot_mem_components_iff, h]
  refine texts_inj hexplicit ?_
  rw [components, components, hexplicit] at h
  exact List.append_cancel_left h

/-! ## Reading what is shown -/

theorem Written.spells {s : String} {parts : List String} (h : Written s parts) :
    Spells s parts :=
  ⟨"", s, "", by simp, by simp [IsPadding], by simp [IsPadding], h⟩

theorem Written.exists_parse? {s : String} {parts : List String} (h : Written s parts) :
    ∃ p, parse? s = some p ∧ p.components = parts :=
  Option.map_eq_some_iff.mp (map_components_parse?_eq_some_iff.mpr h.spells)

theorem parse?_display (p : KeyPath) : parse? p.display = some p := by
  obtain ⟨q, hq, hparts⟩ := p.written_display.exists_parse?
  rw [hq, components_inj hparts]

theorem display_inj {p q : KeyPath} (h : p.display = q.display) : p = q := by
  have hread := p.parse?_display
  rw [h, q.parse?_display] at hread
  exact (Option.some.inj hread).symm

/-- What is shown of a key path is what was read, without the blanks around it. It is read as
    the same key path, and parts as they are shown are read as these parts. -/
theorem display_parse?_inverse :
    (∀ (s : String) (p : KeyPath), parse? s = some p →
      AreParts p.components ∧ p.display = printed p.components ∧
        p.display = .ofList (Text.trim Text.isBlank s.toList) ∧ parse? p.display = some p) ∧
    (∀ parts : List String, AreParts parts →
      ∃ p, p.components = parts ∧ p.display = printed parts ∧
        parse? (printed parts) = some p) ∧
    ∀ (s t : String) (p q : KeyPath), parse? s = some p → parse? t = some q →
      p.display = q.display → p = q := by
  refine ⟨?_, ?_, ?_⟩
  · intro s p h
    have hspells : Spells s p.components := by
      rw [← map_components_parse?_eq_some_iff, h, Option.map_some]
    obtain ⟨body, hbody, htrim⟩ := hspells.trim_eq
    refine ⟨hbody.areParts, p.written_display.eq_printed, ?_, p.parse?_display⟩
    rw [htrim, String.ofList_toList, hbody.eq_printed, p.written_display.eq_printed]
  · intro parts h
    obtain ⟨p, hp, rfl⟩ := h.written.exists_parse?
    exact ⟨p, rfl, p.written_display.eq_printed, hp⟩
  · intro s t p q _ _ h
    exact display_inj h

/-- A key path from the current context, with a no-break space in a name and blanks around. -/
theorem display_parse?_inverse_explicit :
    let s := "\t.a.b\u00a0 \n"
    let p : KeyPath := .names true ⟨"a", by decide⟩ [⟨"b\u00a0", by decide⟩]
    let parts := [".", "a", "b\u00a0"]
    parse? s = some p ∧ AreParts parts ∧ p.display = ".a.b\u00a0" ∧ parse? p.display = some p ∧
      ∃ q, q.components = parts ∧ parse? (printed parts) = some q ∧ p = q := by
  intro s p parts
  obtain ⟨hshown, hread, hinj⟩ := display_parse?_inverse
  have hp : parse? s = some p := by decide
  have hparts : AreParts parts := ⟨List.cons_ne_nil _ _, ["a", "b\u00a0"], .inr rfl, by decide⟩
  obtain ⟨-, hprinted, htrimmed, hself⟩ := hshown s p hp
  obtain ⟨q, hq, hqprinted, hqread⟩ := hread parts hparts
  have hsame : p.display = q.display := hprinted.trans hqprinted.symm
  exact ⟨hp, hparts, htrimmed.trans (by decide), hself, q, hq, hqread,
    hinj s (printed parts) p q hp hqread hsame⟩

end Mustache.KeyPath
