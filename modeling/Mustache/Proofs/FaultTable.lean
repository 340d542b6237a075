-- SUMMARY: The faults of tags as a relation, and when a tag is not read.
import Mustache.Proofs.TagTable

/-!
# The table of faults

`Tag.Malformed` is the counterpart of `Tag.Means`: it says for each sigil what may stand
behind it that is not what the sigil asks for. A tag is not read if it is malformed. Two
other faults come first, whatever the sigil: there is nothing in the tag, or there is an
opening marker in it (`Tag.read_eq_error_iff`).
-/

namespace Mustache

theorem Text.trim_eq_nil_iff {p : Char → Bool} {cs : List Char} :
    trim p cs = [] ↔ ∀ c ∈ cs, p c := by
  induction cs with
  | nil => simp [trim]
  | cons c cs ih =>
    by_cases hc : p c
    · have htrim : trim p (c :: cs) = trim p cs := by rw [trim, List.dropWhile_cons_of_pos hc, trim]
      rw [htrim, ih, List.forall_mem_cons]
      exact (and_iff_right hc).symm
    · -- A character of another class is kept on both ends.
      have hkept : trim p (c :: cs) ≠ [] := by
        rw [trim, List.dropWhile_cons_of_neg hc, List.reverse_cons, List.dropWhile_append]
        split <;> simp [hc]
      simp [hkept, hc]

/-- Blanks alone do not name a partial. -/
theorem PartialName.parse?_eq_none_iff {source : String} :
    parse? source = none ↔ ∀ c ∈ source.toList, Text.isBlank c := by
  rw [← Text.trim_eq_nil_iff, parse?]
  cases Text.trim Text.isBlank source.toList <;> simp

namespace Tag

/-- What is wrong with a tag that has not what its sigil asks for. -/
inductive Malformed : String → Fault → Prop
  | lookup {sigil : Char} {purpose : Lookup} {source : String} :
      (sigil, purpose) ∈ lookupSigils → KeyPath.parse? source = none →
      Malformed (.singleton sigil ++ source) .invalidKeyPath
  /-- Without a sigil the whole inner text has to be a key path. -/
  | escaped {inner : String} :
      (∀ c ∈ inner.toList.head?, c ∉ sigils) → KeyPath.parse? inner = none →
      Malformed inner .invalidKeyPath
  | inclusion {source : String} :
      (∀ c ∈ source.toList, Text.isBlank c) →
      Malformed (.singleton '>' ++ source) .invalidPartialName
  | delimiterChange {body : String} :
      Delimiters.ofTagBody? (.singleton '=' ++ body) = none →
      Malformed (.singleton '=' ++ body) .invalidDelimiters

/-- What is wrong with a tag with the given inner text. -/
inductive Faulty (d : Delimiters) : String → Fault → Prop
  | empty : Faulty d "" .emptyTag
  | nested {inner : String} :
      Marker.Occurs d.opening inner → Faulty d inner .unclosedTag
  | malformed {inner : String} {fault : Fault} :
      inner ≠ "" → ¬ Marker.Occurs d.opening inner → Malformed inner fault →
      Faulty d inner fault

/-- The table, by the first character. -/
theorem malformed_singleton_append_iff {c : Char} {rest : String} {fault : Fault} :
    Malformed (.singleton c ++ rest) fault ↔
      match Sigil.ofChar? c with
      | some .comment => False
      | some (.lookup _) => KeyPath.parse? rest = none ∧ fault = .invalidKeyPath
      | some .inclusion => (∀ c ∈ rest.toList, Text.isBlank c) ∧ fault = .invalidPartialName
      | some .delimiterChange =>
          Delimiters.ofTagBody? (.singleton c ++ rest) = none ∧ fault = .invalidDelimiters
      | none => KeyPath.parse? (.singleton c ++ rest) = none ∧ fault = .invalidKeyPath := by
  constructor
  · intro h
    generalize hinner : String.singleton c ++ rest = inner at h
    cases h with
    | lookup hsigil hpath =>
      obtain ⟨rfl, rfl⟩ := singleton_append_inj.mp hinner
      rw [ofChar?_eq_lookup_iff.mpr hsigil]
      exact ⟨hpath, rfl⟩
    | escaped hsigil hpath =>
      have hnone : Sigil.ofChar? c = none := by
        apply ofChar?_eq_none_iff.mpr
        apply hsigil
        simp [← hinner]
      rw [hnone]
      exact ⟨hpath, rfl⟩
    | inclusion hblank =>
      obtain ⟨rfl, rfl⟩ := singleton_append_inj.mp hinner
      exact ⟨hblank, rfl⟩
    | delimiterChange hnew =>
      obtain ⟨rfl, rfl⟩ := singleton_append_inj.mp hinner
      exact ⟨hnew, rfl⟩
  · intro h
    cases hsigil : Sigil.ofChar? c with
    | none =>
      rw [hsigil] at h
      obtain ⟨hpath, rfl⟩ := h
      exact .escaped (by simpa using ofChar?_eq_none_iff.mp hsigil) hpath
    | some sigil =>
      rw [hsigil] at h
      cases sigil with
      | comment => exact h.elim
      | lookup purpose =>
        obtain ⟨hpath, rfl⟩ := h
        exact .lookup (ofChar?_eq_lookup_iff.mp hsigil) hpath
      | inclusion =>
        obtain ⟨hblank, rfl⟩ := h
        obtain rfl := ofChar?_eq_inclusion_iff.mp hsigil
        exact .inclusion hblank
      | delimiterChange =>
        obtain ⟨hnew, rfl⟩ := h
        obtain rfl := ofChar?_eq_delimiterChange_iff.mp hsigil
        exact .delimiterChange hnew

theorem readLookup_eq_error_iff {purpose : Lookup} {source : String} {fault : Fault} :
    readLookup purpose source = .error fault ↔
      KeyPath.parse? source = none ∧ fault = .invalidKeyPath := by
  unfold readLookup
  cases KeyPath.parse? source <;> simp [eq_comm]

theorem readInclusion_eq_error_iff {source : String} {fault : Fault} :
    readInclusion source = .error fault ↔
      (∀ c ∈ source.toList, Text.isBlank c) ∧ fault = .invalidPartialName := by
  rw [← PartialName.parse?_eq_none_iff]
  unfold readInclusion
  cases PartialName.parse? source <;> simp [eq_comm]

theorem map_eq_error_iff {α β : Type} {f : α → β} {result : Except Fault α} {fault : Fault} :
    result.map f = .error fault ↔ result = .error fault := by
  cases result <;> simp [Except.map]

theorem faulty_empty_iff {d : Delimiters} {fault : Fault} :
    Faulty d "" fault ↔ fault = .emptyTag := by
  constructor
  · intro h
    generalize hinner : "" = inner at h
    cases h with
    | empty => rfl
    | nested hnested =>
      subst hinner
      rw [Marker.Occurs, Text.bytes_empty, List.infix_nil, Text.bytes_eq_nil_iff] at hnested
      exact absurd hnested d.opening_ne
    | malformed hne => exact absurd hinner.symm hne
  · rintro rfl
    exact .empty

theorem faulty_iff {d : Delimiters} {inner : String} {fault : Fault} (hne : inner ≠ "") :
    Faulty d inner fault ↔
      if Marker.Occurs d.opening inner then fault = .unclosedTag else Malformed inner fault := by
  constructor
  · intro h
    cases h with
    | empty => exact absurd rfl hne
    | nested hnested => rw [if_pos hnested]
    | malformed _ hfree hmalformed => rwa [if_neg hfree]
  · intro h
    split at h
    · rename_i hnested
      subst h
      exact .nested hnested
    · rename_i hfree
      exact .malformed hne hfree h

/-- A tag is not read if it is faulty, and the fault is the one of the table. -/
theorem read_eq_error_iff {d : Delimiters} {inner : String} {fault : Fault} :
    read d inner = .error fault ↔ Faulty d inner fault := by
  by_cases hne : inner = ""
  · subst hne
    rw [faulty_empty_iff]
    simp [read, eq_comm]
  · rw [faulty_iff hne]
    obtain ⟨c, rest, rfl⟩ := exists_singleton_append hne
    rw [malformed_singleton_append_iff, read]
    simp only [String.toList_append, String.toList_singleton, List.singleton_append,
      String.ofList_toList, Marker.occursIn_iff]
    split
    · simp [eq_comm]
    · cases Sigil.ofChar? c with
      | none => rw [map_eq_error_iff, readLookup_eq_error_iff]
      | some sigil =>
        cases sigil with
        | comment => simp
        | lookup purpose => rw [map_eq_error_iff, readLookup_eq_error_iff]
        | inclusion => rw [map_eq_error_iff, readInclusion_eq_error_iff]
        | delimiterChange =>
          cases Delimiters.ofTagBody? (.singleton c ++ rest) <;> simp [eq_comm]

end Tag

end Mustache
