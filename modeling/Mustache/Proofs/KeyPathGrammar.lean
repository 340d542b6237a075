-- SUMMARY: The grammar of key paths, and that exactly what it generates is read.
import Mathlib.Data.List.TakeWhile
import Mustache.Proofs.KeyPathMachine

/-!
# The grammar of key paths

A key path is written in one of three forms: a dot alone, names with dots between them, and
such names with a further dot in front. Blanks may surround it. The grammar `Spells` says so
of texts, by their characters, and says what the parts of the key path are. It knows nothing
of states, bytes or offsets. The machine of `Mustache.Proofs.KeyPathMachine` reads a text if
and only if the grammar generates it, and finds the parts that the grammar says
(`components?_iff_spells`).
-/

namespace Mustache

/-! ## Trimming -/

namespace Text

variable {p : Char → Bool} {cs pad : List Char}

theorem trim_append_right (h : ∀ c ∈ pad, p c) : trim p (cs ++ pad) = trim p cs := by
  rw [trim, List.dropWhile_append]
  split
  · rename_i hempty
    have hnone : pad.dropWhile p = [] := List.dropWhile_eq_nil_iff.mpr h
    rw [hnone, trim, List.isEmpty_iff.mp hempty]
  · have hreverse : ∀ c ∈ pad.reverse, p c := by simpa using h
    rw [List.reverse_append, List.dropWhile_append_of_pos hreverse, trim]

/-- Nothing is dropped of a run that has no characters of the class. -/
theorem trim_of_none (h : ∀ c ∈ cs, p c = false) : trim p cs = cs := by
  have hkept : ∀ ds : List Char, (∀ c ∈ ds, p c = false) → ds.dropWhile p = ds := by
    intro ds hds
    cases ds with
    | nil => rfl
    | cons c ds => exact List.dropWhile_cons_of_neg (by simpa using hds c List.mem_cons_self)
  rw [trim, hkept cs h, hkept cs.reverse (by simpa using h), List.reverse_reverse]

/-- What is dropped at both ends are characters of the class. -/
theorem exists_append_trim (p : Char → Bool) (cs : List Char) :
    ∃ front back, cs = front ++ trim p cs ++ back ∧ (∀ c ∈ front, p c) ∧ ∀ c ∈ back, p c := by
  refine ⟨cs.takeWhile p, ((cs.dropWhile p).reverse.takeWhile p).reverse, ?_, ?_, ?_⟩
  · rw [trim, List.append_assoc, ← List.reverse_append, List.takeWhile_append_dropWhile,
      List.reverse_reverse, List.takeWhile_append_dropWhile]
  · exact fun c hc => List.mem_takeWhile_imp hc
  · exact fun c hc => List.mem_takeWhile_imp (List.mem_reverse.mp hc)

/-! ## Joined texts -/

theorem mem_toList_intercalate {c : Char} {separator : String} {texts : List String}
    (h : c ∈ (separator.intercalate texts).toList) :
    c ∈ separator.toList ∨ ∃ text ∈ texts, c ∈ text.toList := by
  induction texts with
  | nil => simp at h
  | cons text rest ih =>
    cases rest with
    | nil => exact .inr ⟨text, List.mem_cons_self, by simpa using h⟩
    | cons next others =>
      rw [String.intercalate_cons_cons, String.toList_append, String.toList_append,
        List.mem_append, List.mem_append] at h
      obtain (htext | hseparator) | hrest := h
      · exact .inr ⟨text, List.mem_cons_self, htext⟩
      · exact .inl hseparator
      · obtain hseparator | ⟨text', hmem, htext'⟩ := ih hrest
        · exact .inl hseparator
        · exact .inr ⟨text', List.mem_cons_of_mem _ hmem, htext'⟩

end Text

namespace KeyPath

/-! ## The grammar -/

def blanks : List Char := [' ', '\t', '\n', '\r']

/-- A run of blanks, possibly empty. -/
def IsPadding (s : String) : Prop := ∀ c ∈ s.toList, c ∈ blanks

/-- At least one character, and no dot or blank. All other characters may stand in a name. -/
def IsName (s : String) : Prop := s ≠ "" ∧ ∀ c ∈ s.toList, c ≠ '.' ∧ c ∉ blanks

/-- The text is a key path without blanks around it, and the key path has the parts. -/
inductive Written : String → List String → Prop
  | current : Written "." ["."]
  | names {names : List String} :
      names ≠ [] → (∀ name ∈ names, IsName name) → Written (".".intercalate names) names
  | fromCurrent {names : List String} :
      names ≠ [] → (∀ name ∈ names, IsName name) →
      Written ("." ++ ".".intercalate names) ("." :: names)

/-- The text is a key path with blanks around it, and the key path has the parts. -/
def Spells (s : String) (parts : List String) : Prop :=
  ∃ front body back, s = front ++ body ++ back ∧ IsPadding front ∧ IsPadding back ∧
    Written body parts

theorem isBlank_iff {c : Char} : Text.isBlank c = true ↔ c ∈ blanks := by
  simp [Text.isBlank, blanks, or_assoc]

theorem isPadding_iff {s : String} : IsPadding s ↔ ∀ c ∈ s.toList, Text.isBlank c = true := by
  simp only [IsPadding, isBlank_iff]

theorem isName_toList_iff {s : String} : isName s.toList = true ↔ IsName s := by
  have hletter : ∀ c, (!Text.isBlank c && c != '.') = true ↔ c ≠ '.' ∧ c ∉ blanks := by
    intro c
    rw [Bool.and_eq_true, Bool.not_eq_true', ← Bool.not_eq_true, isBlank_iff, bne_iff_ne, and_comm]
  simp only [isName, Bool.and_eq_true, List.all_eq_true, hletter, IsName]
  simp

instance {s : String} : Decidable (IsName s) :=
  decidable_of_iff (isName s.toList = true) isName_toList_iff

/-! ## Names between dots -/

variable {cs dotted : List Char} {parts names : List (List Char)}

/-- What stands between the dots are names if and only if the text is names joined by dots. -/
theorem names?_eq_some_iff :
    names? dotted = some names ↔
      names ≠ [] ∧ (∀ name ∈ names, isName name = true) ∧ dotted = ['.'].intercalate names := by
  constructor
  · intro h
    rw [names?] at h
    split at h
    · rename_i hall
      obtain rfl := Option.some.inj h
      exact ⟨List.splitOn_ne_nil _ _, List.all_eq_true.mp hall,
        (List.intercalate_splitOn '.').symm⟩
    · cases h
  · rintro ⟨hne, hnames, rfl⟩
    have hdots : ∀ name ∈ names, '.' ∉ name := fun name hname =>
      dot_not_mem_of_isName (hnames name hname)
    rw [names?, List.splitOn_intercalate '.' hdots hne, if_pos (List.all_eq_true.mpr hnames)]

theorem parts?_of_names? (h : names? cs = some names) : parts? cs = some names := by
  unfold parts?
  split
  · rw [names?_dot] at h
    cases h
  · rw [names?_dot] at h
    cases h
  · exact h

theorem parts?_dot_of_names? (h : names? dotted = some names) :
    parts? ('.' :: dotted) = some (['.'] :: names) := by
  cases dotted with
  | nil =>
    rw [names?_nil] at h
    cases h
  | cons c dotted => rw [parts?, h, Option.map_some]; simp

/-! ## Key paths -/

theorem toList_intercalate_dot (names : List String) :
    (".".intercalate names).toList = ['.'].intercalate (names.map String.toList) := by
  rw [String.toList_intercalate]
  rfl

theorem names?_toList_intercalate {names : List String} (hne : names ≠ [])
    (hnames : ∀ name ∈ names, IsName name) :
    names? (".".intercalate names).toList = some (names.map String.toList) := by
  refine names?_eq_some_iff.mpr ⟨by simpa using hne, ?_, toList_intercalate_dot names⟩
  intro name hname
  obtain ⟨s, hs, rfl⟩ := List.mem_map.mp hname
  exact isName_toList_iff.mpr (hnames s hs)

theorem exists_of_names? {names : List (List Char)} (h : names? dotted = some names) :
    ∃ texts : List String, texts ≠ [] ∧ (∀ text ∈ texts, IsName text) ∧
      names = texts.map String.toList ∧ dotted = (".".intercalate texts).toList := by
  obtain ⟨hne, hnames, hdotted⟩ := names?_eq_some_iff.mp h
  have htexts : (names.map String.ofList).map String.toList = names := by
    simp [Function.comp_def]
  refine ⟨names.map String.ofList, by simpa using hne, ?_, htexts.symm, ?_⟩
  · intro text htext
    obtain ⟨name, hname, rfl⟩ := List.mem_map.mp htext
    rw [← isName_toList_iff, String.toList_ofList]
    exact hnames name hname
  · rw [toList_intercalate_dot, htexts, hdotted]

theorem Written.parts?_eq {s : String} {parts : List String} (h : Written s parts) :
    parts? s.toList = some (parts.map String.toList) := by
  cases h with
  | current => decide
  | names hne hnames => exact parts?_of_names? (names?_toList_intercalate hne hnames)
  | fromCurrent hne hnames =>
    rw [String.toList_append]
    exact parts?_dot_of_names? (names?_toList_intercalate hne hnames)

theorem written_of_parts? {s : String} {parts : List (List Char)}
    (h : parts? s.toList = some parts) : Written s (parts.map String.ofList) := by
  have hmap : ∀ texts : List String, (texts.map String.toList).map String.ofList = texts := by
    simp [Function.comp_def]
  generalize hcs : s.toList = cs at h
  unfold parts? at h
  split at h
  · obtain rfl := Option.some.inj h
    obtain rfl : s = "." := String.toList_inj.mp hcs
    exact .current
  · obtain ⟨words, hwords, rfl⟩ := Option.map_eq_some_iff.mp h
    obtain ⟨texts, hne, hnames, rfl, rfl⟩ := exists_of_names? hwords
    obtain rfl : s = "." ++ ".".intercalate texts := by
      apply String.toList_inj.mp
      rw [hcs, String.toList_append]
      rfl
    rw [List.map_cons, hmap]
    exact .fromCurrent hne hnames
  · obtain ⟨texts, hne, hnames, rfl, rfl⟩ := exists_of_names? h
    obtain rfl : s = ".".intercalate texts := String.toList_inj.mp hcs
    rw [hmap]
    exact .names hne hnames

/-- No blank stands inside a key path. -/
theorem Written.isBlank_eq_false {s : String} {parts : List String} (h : Written s parts) {c : Char}
    (hc : c ∈ s.toList) : Text.isBlank c = false := by
  have hdot : ∀ c ∈ ".".toList, Text.isBlank c = false := by simp [Text.isBlank]
  have hjoined : ∀ names : List String, (∀ name ∈ names, IsName name) →
      ∀ c ∈ (".".intercalate names).toList, Text.isBlank c = false := by
    intro names hnames c hc
    obtain hc | ⟨name, hname, hc⟩ := Text.mem_toList_intercalate hc
    · exact hdot c hc
    · rw [Bool.eq_false_iff, Ne, isBlank_iff]
      exact ((hnames name hname).2 c hc).2
  cases h with
  | current => exact hdot c hc
  | names _ hnames => exact hjoined _ hnames c hc
  | fromCurrent _ hnames =>
    rw [String.toList_append, List.mem_append] at hc
    exact hc.elim (hdot c) (hjoined _ hnames c)

theorem Spells.trim_eq {s : String} {parts : List String} (h : Spells s parts) :
    ∃ body, Written body parts ∧ Text.trim Text.isBlank s.toList = body.toList := by
  obtain ⟨front, body, back, rfl, hfront, hback, hbody⟩ := h
  refine ⟨body, hbody, ?_⟩
  rw [String.toList_append, String.toList_append, Text.trim_append_right (isPadding_iff.mp hback),
    Text.trim_append_left (isPadding_iff.mp hfront),
    Text.trim_of_none fun c hc => hbody.isBlank_eq_false hc]

theorem spells_of_written {s body : String} {parts : List String} (h : Written body parts)
    (htrim : Text.trim Text.isBlank s.toList = body.toList) : Spells s parts := by
  obtain ⟨front, back, hs, hfront, hback⟩ := Text.exists_append_trim Text.isBlank s.toList
  rw [htrim] at hs
  refine ⟨.ofList front, body, .ofList back, ?_, ?_, ?_, h⟩
  · apply String.toList_inj.mp
    simpa using hs
  · simpa [isPadding_iff] using hfront
  · simpa [isPadding_iff] using hback

/-- Reading a key path gives the parts that the grammar says. -/
theorem map_components_parse?_eq_some_iff {s : String} {parts : List String} :
    (parse? s).map components = some parts ↔ Spells s parts := by
  rw [parse?_eq, Option.map_eq_some_iff]
  change (∃ words, parts? (Text.trim Text.isBlank s.toList) = some words ∧ _) ↔ _
  constructor
  · rintro ⟨words, hwords, rfl⟩
    rw [← String.toList_ofList (l := Text.trim _ _)] at hwords
    exact spells_of_written (written_of_parts? hwords) String.toList_ofList.symm
  · intro h
    obtain ⟨body, hbody, htrim⟩ := h.trim_eq
    refine ⟨parts.map String.toList, ?_, by simp [Function.comp_def]⟩
    rw [htrim, hbody.parts?_eq]

/-- A text is read if and only if the grammar generates it, with the parts that the grammar
    says. The machine on the bytes and the reader of the characters agree in this, and all
    other texts are turned down by both. -/
theorem components?_iff_spells (s : String) :
    (∀ parts, Machine.components? s = .ok (some parts) ↔ Spells s parts) ∧
      (Machine.components? s = .ok none ↔ ∀ parts, ¬ Spells s parts) ∧
      (∀ parts, (parse? s).map components = some parts ↔ Spells s parts) ∧
      (parse? s = none ↔ ∀ parts, ¬ Spells s parts) := by
  have hread := @map_components_parse?_eq_some_iff s
  have hnone : parse? s = none ↔ ∀ parts, ¬ Spells s parts := by
    simp only [← hread]
    cases parse? s <;> simp
  rw [Machine.components?_eq]
  refine ⟨fun parts => ?_, ?_, fun parts => hread, hnone⟩
  · rw [Except.ok.injEq, hread]
  · rw [Except.ok.injEq, Option.map_eq_none_iff, hnone]

end KeyPath

end Mustache
