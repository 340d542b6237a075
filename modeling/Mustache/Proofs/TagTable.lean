-- SUMMARY: The table of sigils as a relation, and when a tag is read.
import Mustache.Proofs.Occurrence
import Mustache.Proofs.TagDelimiters
import Mustache.Tag

/-!
# The table of tags

`Tag.Means` is the table that says what a tag is: which sigils there are, and what has
to stand behind each of them. A tag is read as the table says, unless its inner text
contains an opening marker (`Tag.read_eq_ok_iff`).
-/

namespace Mustache

/-- The delimiters in force behind a tag. -/
def Delimiters.behind (d : Delimiters) (kind : Token.Kind) (inner : String) : Delimiters :=
  match kind with
  | .delimiterChange => (Delimiters.ofTagBody? inner).getD d
  | _ => d

theorem Delimiters.behind_of_ne (d : Delimiters) {kind : Token.Kind}
    (h : kind ≠ .delimiterChange) (inner : String) : d.behind kind inner = d := by
  cases kind with
  | delimiterChange => exact absurd rfl h
  | text | comment | lookup | inclusion => rfl

/-- The body of a tag that changes the delimiters begins with its sigil. -/
theorem Delimiters.exists_of_ofTagBody? {body : String} {new : Delimiters}
    (h : ofTagBody? body = some new) : ∃ rest, body = .singleton '=' ++ rest := by
  obtain ⟨before, between, behind, rfl, -⟩ := ofTagBody?_eq_some_iff.mp h
  exact ⟨before ++ new.opening ++ between ++ new.closing ++ behind ++ "=", by
    simp [String.append_assoc]⟩

namespace Tag

/-- The sigils in front of a key path. -/
def lookupSigils : List (Char × Lookup) :=
  [('#', .opening), ('^', .inverted), ('/', .closing), ('&', .unescaped), ('\x7b', .unescaped)]

def sigils : List Char := ['!', '>', '='] ++ lookupSigils.map Prod.fst

/-- What a tag with the given inner text is. -/
inductive Means : String → Token.Kind → Prop
  | comment (content : String) : Means (.singleton '!' ++ content) (.comment content)
  | lookup {sigil : Char} {purpose : Lookup} {source : String} {path : KeyPath} :
      (sigil, purpose) ∈ lookupSigils → KeyPath.parse? source = some path →
      Means (.singleton sigil ++ source) (.lookup purpose path)
  /-- Without a sigil the whole inner text is a key path. -/
  | escaped {inner : String} {path : KeyPath} :
      (∀ c ∈ inner.toList.head?, c ∉ sigils) → KeyPath.parse? inner = some path →
      Means inner (.lookup .escaped path)
  | inclusion {source name : String} :
      PartialName.parse? source = some name →
      Means (.singleton '>' ++ source) (.inclusion name)
  | delimiterChange {body : String} {new : Delimiters} :
      Delimiters.ofTagBody? (.singleton '=' ++ body) = some new →
      Means (.singleton '=' ++ body) .delimiterChange

theorem Means.isText_eq {inner : String} {kind : Token.Kind} (h : Means inner kind) :
    kind.isText = false := by
  cases h <;> rfl

theorem ofChar?_eq_lookup_iff {c : Char} {purpose : Lookup} :
    Sigil.ofChar? c = some (.lookup purpose) ↔ (c, purpose) ∈ lookupSigils := by
  unfold Sigil.ofChar?
  split <;> simp_all [lookupSigils, eq_comm]

theorem ofChar?_eq_comment_iff {c : Char} : Sigil.ofChar? c = some .comment ↔ c = '!' := by
  unfold Sigil.ofChar?
  split <;> simp_all

theorem ofChar?_eq_inclusion_iff {c : Char} : Sigil.ofChar? c = some .inclusion ↔ c = '>' := by
  unfold Sigil.ofChar?
  split <;> simp_all

theorem ofChar?_eq_delimiterChange_iff {c : Char} :
    Sigil.ofChar? c = some .delimiterChange ↔ c = '=' := by
  unfold Sigil.ofChar?
  split <;> simp_all

theorem ofChar?_eq_none_iff {c : Char} : Sigil.ofChar? c = none ↔ c ∉ sigils := by
  unfold Sigil.ofChar?
  split <;> simp_all [sigils, lookupSigils]

theorem singleton_append_inj {c c' : Char} {s s' : String} :
    String.singleton c ++ s = String.singleton c' ++ s' ↔ c = c' ∧ s = s' := by
  rw [← String.toList_inj]
  simp [String.toList_inj]

/-- The table, by the first character. -/
theorem means_singleton_append_iff {c : Char} {rest : String} {kind : Token.Kind} :
    Means (.singleton c ++ rest) kind ↔
      match Sigil.ofChar? c with
      | some .comment => kind = .comment rest
      | some (.lookup purpose) => ∃ path, KeyPath.parse? rest = some path ∧
          kind = .lookup purpose path
      | some .inclusion => ∃ name, PartialName.parse? rest = some name ∧ kind = .inclusion name
      | some .delimiterChange => (∃ new, Delimiters.ofTagBody? (.singleton c ++ rest) = some new) ∧
          kind = .delimiterChange
      | none => ∃ path, KeyPath.parse? (.singleton c ++ rest) = some path ∧
          kind = .lookup .escaped path := by
  constructor
  · intro h
    generalize hinner : String.singleton c ++ rest = inner at h
    cases h with
    | comment content =>
      obtain ⟨rfl, rfl⟩ := singleton_append_inj.mp hinner
      rfl
    | lookup hsigil hpath =>
      obtain ⟨rfl, rfl⟩ := singleton_append_inj.mp hinner
      rw [ofChar?_eq_lookup_iff.mpr hsigil]
      exact ⟨_, hpath, rfl⟩
    | escaped hsigil hpath =>
      have hnone : Sigil.ofChar? c = none := by
        apply ofChar?_eq_none_iff.mpr
        apply hsigil
        simp [← hinner]
      rw [hnone]
      exact ⟨_, hpath, rfl⟩
    | inclusion hname =>
      obtain ⟨rfl, rfl⟩ := singleton_append_inj.mp hinner
      exact ⟨_, hname, rfl⟩
    | delimiterChange hnew =>
      obtain ⟨rfl, rfl⟩ := singleton_append_inj.mp hinner
      exact ⟨⟨_, hnew⟩, rfl⟩
  · intro h
    cases hsigil : Sigil.ofChar? c with
    | none =>
      rw [hsigil] at h
      obtain ⟨path, hpath, rfl⟩ := h
      exact .escaped (by simpa using ofChar?_eq_none_iff.mp hsigil) hpath
    | some sigil =>
      rw [hsigil] at h
      cases sigil with
      | comment =>
        obtain rfl := h
        obtain rfl := ofChar?_eq_comment_iff.mp hsigil
        exact .comment rest
      | lookup purpose =>
        obtain ⟨path, hpath, rfl⟩ := h
        exact .lookup (ofChar?_eq_lookup_iff.mp hsigil) hpath
      | inclusion =>
        obtain ⟨name, hname, rfl⟩ := h
        obtain rfl := ofChar?_eq_inclusion_iff.mp hsigil
        exact .inclusion hname
      | delimiterChange =>
        obtain ⟨⟨new, hnew⟩, rfl⟩ := h
        obtain rfl := ofChar?_eq_delimiterChange_iff.mp hsigil
        exact .delimiterChange hnew

theorem not_means_empty (kind : Token.Kind) : ¬ Means "" kind := by
  intro h
  generalize hinner : "" = inner at h
  cases h with
  | escaped _ hpath =>
    subst hinner
    have hnone : KeyPath.parse? "" = none := by decide
    simp [hnone] at hpath
  | comment | lookup | inclusion | delimiterChange =>
    have := congrArg String.toList hinner
    simp at this

theorem exists_singleton_append {s : String} (hne : s ≠ "") :
    ∃ c rest, s = String.singleton c ++ rest := by
  obtain ⟨cs, rfl⟩ := s.exists_eq_ofList
  cases cs with
  | nil => exact absurd rfl hne
  | cons c cs => exact ⟨c, .ofList cs, by simp⟩

theorem readLookup_eq_ok_iff {purpose : Lookup} {source : String} {kind : Token.Kind} :
    readLookup purpose source = .ok kind ↔
      ∃ path, KeyPath.parse? source = some path ∧ kind = .lookup purpose path := by
  unfold readLookup
  cases KeyPath.parse? source <;> simp [eq_comm]

theorem readInclusion_eq_ok_iff {source : String} {kind : Token.Kind} :
    readInclusion source = .ok kind ↔
      ∃ name, PartialName.parse? source = some name ∧ kind = .inclusion name := by
  unfold readInclusion
  cases PartialName.parse? source <;> simp [eq_comm]

theorem readLookup_ne {purpose : Lookup} {source : String} :
    readLookup purpose source ≠ .ok .delimiterChange := by
  intro h
  obtain ⟨_, -, hkind⟩ := readLookup_eq_ok_iff.mp h
  cases hkind

theorem readInclusion_ne {source : String} : readInclusion source ≠ .ok .delimiterChange := by
  intro h
  obtain ⟨_, -, hkind⟩ := readInclusion_eq_ok_iff.mp h
  cases hkind

/-- A tag that leaves the delimiters as they are. -/
theorem map_eq_ok_iff {d d' : Delimiters} {kind : Token.Kind} {inner : String}
    {result : Except Fault Token.Kind} (h : result ≠ .ok .delimiterChange) :
    result.map (·, d) = .ok (kind, d') ↔ result = .ok kind ∧ d' = d.behind kind inner := by
  cases result with
  | error fault => simp [Except.map]
  | ok kind' =>
    have hbehind : d.behind kind' inner = d := d.behind_of_ne (by simpa using h) inner
    simp only [Except.map, Except.ok.injEq, Prod.mk.injEq]
    refine ⟨?_, ?_⟩
    · rintro ⟨rfl, rfl⟩
      exact ⟨rfl, hbehind.symm⟩
    · rintro ⟨rfl, rfl⟩
      exact ⟨rfl, hbehind.symm⟩

/-- A tag is read as the table says, unless an opening marker stands in it. -/
theorem read_eq_ok_iff {d d' : Delimiters} {inner : String} {kind : Token.Kind} :
    read d inner = .ok (kind, d') ↔
      ¬ Marker.Occurs d.opening inner ∧ Means inner kind ∧ d' = d.behind kind inner := by
  by_cases hne : inner = ""
  · subst hne
    simp [read, not_means_empty]
  · -- The reader and the table both go by the first character.
    obtain ⟨c, rest, rfl⟩ := exists_singleton_append hne
    rw [means_singleton_append_iff, ← Marker.occursIn_iff, read]
    simp only [String.toList_append, String.toList_singleton, List.singleton_append,
      String.ofList_toList]
    split
    · simp_all
    · rename_i hfree
      simp only [hfree, Bool.false_eq_true, not_false_eq_true, true_and]
      cases Sigil.ofChar? c with
      | none =>
        rw [map_eq_ok_iff readLookup_ne, readLookup_eq_ok_iff]
      | some sigil =>
        cases sigil with
        | comment =>
          have hkept : (.ok (.comment rest) : Except Fault Token.Kind) ≠ .ok .delimiterChange := by
            simp
          refine (map_eq_ok_iff hkept).trans (and_congr_left fun _ => ?_)
          rw [Except.ok.injEq, eq_comm]
        | lookup purpose =>
          rw [map_eq_ok_iff readLookup_ne, readLookup_eq_ok_iff]
        | inclusion =>
          rw [map_eq_ok_iff readInclusion_ne, readInclusion_eq_ok_iff]
        | delimiterChange =>
          cases hnew : Delimiters.ofTagBody? (.singleton c ++ rest) with
          | none => simp
          | some new =>
            simp only [Except.ok.injEq, Prod.mk.injEq]
            refine ⟨?_, ?_⟩
            · rintro ⟨rfl, rfl⟩
              exact ⟨⟨⟨_, rfl⟩, rfl⟩, by simp [Delimiters.behind, hnew]⟩
            · rintro ⟨⟨-, rfl⟩, rfl⟩
              exact ⟨rfl, by simp [Delimiters.behind, hnew]⟩

theorem ne_of_read {d : Delimiters} {inner : String} {result : Token.Kind × Delimiters}
    (h : read d inner = .ok result) : inner ≠ "" := by
  rintro rfl
  simp [read] at h

end Tag

end Mustache
