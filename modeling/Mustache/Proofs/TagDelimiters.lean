-- SUMMARY: Which tag bodies name delimiters, and that no body names two pairs.
import Mustache.Delimiters

/-!
# Delimiters that a tag names

The body of a tag that sets the delimiters stands between two equals signs. Two markers stand
in it, with white space between them and perhaps around them. Both are words: they are not
empty and have no white space inside. They may have equals signs, also next to the signs that
enclose the body, since only one sign at each end is not part of a marker.

`Delimiters.Names` says this of the body as a whole. It is read by taking off the signs and
dividing the rest into words, which gives the pair that the body names
(`Delimiters.ofTagBody?_eq_some_iff`).
-/

namespace Mustache

/-! ## Words -/

namespace Text

/-- A run of white space, possibly empty. -/
def IsSpace (cs : List Char) : Prop := ∀ c ∈ cs, isWhiteSpace c = true

/-- At least one character, and no white space. -/
def IsWord (cs : List Char) : Prop := cs ≠ [] ∧ ∀ c ∈ cs, isWhiteSpace c = false

instance {cs : List Char} : Decidable (IsSpace cs) :=
  decidable_of_iff (cs.all isWhiteSpace = true) List.all_eq_true

instance {cs : List Char} : Decidable (IsWord cs) :=
  decidable_of_iff (cs ≠ [] ∧ cs.all (!isWhiteSpace ·) = true) (by simp [IsWord])

variable {cs word front behind : List Char}

theorem words_append_cons {c : Char} (hc : isWhiteSpace c = true) (cs ds : List Char) :
    words (cs ++ c :: ds) = words cs ++ words ds := by
  rw [words, List.splitOnP_append_cons cs ds hc, List.filter_append]
  rfl

theorem words_of_isWord (h : IsWord word) : words word = [word] := by
  rw [words, List.splitOnP_eq_singleton h.2]
  simp [h.1]

theorem words_append_left (h : IsSpace front) (cs : List Char) :
    words (front ++ cs) = words cs := by
  induction front with
  | nil => rfl
  | cons c front ih =>
    rw [IsSpace, List.forall_mem_cons] at h
    have hcons := words_append_cons h.1 [] (front ++ cs)
    rw [List.nil_append] at hcons
    rw [List.cons_append, hcons, ih h.2]
    rfl

/-- A word ends with the text or in front of white space. -/
theorem words_append (hword : IsWord word) (hbehind : ∀ c ∈ behind.head?, isWhiteSpace c = true) :
    words (word ++ behind) = word :: words behind := by
  cases behind with
  | nil => rw [List.append_nil, words_of_isWord hword]; rfl
  | cons c behind =>
    have hc : isWhiteSpace c = true := hbehind c rfl
    have hdrop := words_append_cons hc [] behind
    rw [List.nil_append] at hdrop
    rw [words_append_cons hc, words_of_isWord hword, hdrop]
    rfl

/-- A text is white space, or it has a first word. -/
theorem isSpace_or_exists_word (cs : List Char) :
    IsSpace cs ∨ ∃ front word behind, cs = front ++ word ++ behind ∧ IsSpace front ∧ IsWord word ∧
      ∀ c ∈ behind.head?, isWhiteSpace c = true := by
  induction cs with
  | nil => exact .inl (by simp [IsSpace])
  | cons c cs ih =>
    cases hc : isWhiteSpace c with
    | true =>
      obtain hspace | ⟨front, word, behind, rfl, hfront, hword, hbehind⟩ := ih
      · exact .inl (List.forall_mem_cons.mpr ⟨hc, hspace⟩)
      · exact .inr ⟨c :: front, word, behind, rfl, List.forall_mem_cons.mpr ⟨hc, hfront⟩, hword,
          hbehind⟩
    | false =>
      -- The character begins the word. The word goes on only if a word follows at once.
      have halone : IsWord [c] := ⟨List.cons_ne_nil _ _, by simpa using hc⟩
      obtain hspace | ⟨front, word, behind, rfl, hfront, hword, hbehind⟩ := ih
      · exact .inr ⟨[], [c], cs, rfl, by simp [IsSpace], halone, fun a ha =>
          hspace a (List.mem_of_head? ha)⟩
      · cases front with
        | nil =>
          have hlonger : IsWord (c :: word) :=
            ⟨List.cons_ne_nil _ _, List.forall_mem_cons.mpr ⟨hc, hword.2⟩⟩
          exact .inr ⟨[], c :: word, behind, rfl, by simp [IsSpace], hlonger, hbehind⟩
        | cons a front =>
          have ha : isWhiteSpace a = true := hfront a List.mem_cons_self
          exact .inr ⟨[], [c], _, rfl, by simp [IsSpace], halone, by simpa using ha⟩

theorem words_of_isSpace (h : IsSpace cs) : words cs = [] := by
  have hwords := words_append_left h []
  rwa [List.append_nil] at hwords

theorem words_eq_nil_iff : words cs = [] ↔ IsSpace cs := by
  constructor
  · intro h
    obtain hspace | ⟨front, word, behind, rfl, hfront, hword, hbehind⟩ := isSpace_or_exists_word cs
    · exact hspace
    · rw [List.append_assoc, words_append_left hfront, words_append hword hbehind] at h
      cases h
  · exact words_of_isSpace

theorem words_eq_cons_iff {rest : List (List Char)} :
    words cs = word :: rest ↔
      ∃ front behind, cs = front ++ word ++ behind ∧ IsSpace front ∧ IsWord word ∧
        (∀ c ∈ behind.head?, isWhiteSpace c = true) ∧ words behind = rest := by
  constructor
  · intro h
    obtain hspace | ⟨front, first, behind, rfl, hfront, hfirst, hbehind⟩ :=
      isSpace_or_exists_word cs
    · rw [words_of_isSpace hspace] at h
      cases h
    · rw [List.append_assoc, words_append_left hfront, words_append hfirst hbehind] at h
      obtain ⟨rfl, hrest⟩ := List.cons_eq_cons.mp h
      exact ⟨front, behind, rfl, hfront, hfirst, hbehind, hrest⟩
  · rintro ⟨front, behind, rfl, hfront, hword, hbehind, rfl⟩
    rw [List.append_assoc, words_append_left hfront, words_append hword hbehind]

/-- Two words are divided by at least one character of white space. -/
theorem words_eq_pair_iff {first second : List Char} :
    words cs = [first, second] ↔
      ∃ before between behind, cs = before ++ first ++ between ++ second ++ behind ∧
        IsSpace before ∧ (IsSpace between ∧ between ≠ []) ∧ IsSpace behind ∧
        IsWord first ∧ IsWord second := by
  constructor
  · intro h
    obtain ⟨before, rest, rfl, hbefore, hfirst, hhead, hrest⟩ := words_eq_cons_iff.mp h
    obtain ⟨between, behind, rfl, hbetween, hsecond, -, hbehind⟩ := words_eq_cons_iff.mp hrest
    refine ⟨before, between, behind, by simp, hbefore, ⟨hbetween, ?_⟩, words_eq_nil_iff.mp hbehind,
      hfirst, hsecond⟩
    rintro rfl
    -- Otherwise the second word would begin with the white space that ends the first.
    obtain ⟨c, second, rfl⟩ := List.exists_cons_of_ne_nil hsecond.1
    have hspace : isWhiteSpace c = true := hhead c rfl
    rw [hsecond.2 c List.mem_cons_self] at hspace
    cases hspace
  · rintro ⟨before, between, behind, rfl, hbefore, ⟨hbetween, hne⟩, hbehind, hfirst, hsecond⟩
    have hhead : ∀ c ∈ (between ++ (second ++ behind)).head?, isWhiteSpace c = true := by
      obtain ⟨c, between, rfl⟩ := List.exists_cons_of_ne_nil hne
      simpa using hbetween c List.mem_cons_self
    have hend : ∀ c ∈ behind.head?, isWhiteSpace c = true := fun c hc =>
      hbehind c (List.mem_of_head? hc)
    simp only [List.append_assoc]
    rw [words_append_left hbefore, words_append hfirst hhead, words_append_left hbetween,
      words_append hsecond hend, words_of_isSpace hbehind]

end Text

namespace Delimiters

/-! ## Tag bodies -/

/-- The body of a tag names the two markers. -/
def Names (body opening closing : String) : Prop :=
  ∃ before between behind : String,
    body = "=" ++ before ++ opening ++ between ++ closing ++ behind ++ "=" ∧
      Text.IsSpace before.toList ∧ (Text.IsSpace between.toList ∧ between ≠ "") ∧
      Text.IsSpace behind.toList ∧ Text.IsWord opening.toList ∧ Text.IsWord closing.toList

theorem unwrap?_eq_some_iff {cs inner : List Char} :
    unwrap? cs = some inner ↔ cs = '=' :: (inner ++ ['=']) := by
  constructor
  · intro h
    unfold unwrap? at h
    split at h
    · rename_i rest
      split at h
      · rename_i reversed hrest
        obtain rfl := Option.some.inj h
        rw [← List.reverse_eq_iff.mpr hrest.symm]
        simp
      · cases h
    · cases h
  · rintro rfl
    simp [unwrap?]

theorem ofMarkers?_self (d : Delimiters) : ofMarkers? d.opening d.closing = some d :=
  dif_pos ⟨d.opening_ne, d.closing_ne⟩

/-- Words are not empty, so two of them are a pair of markers. -/
theorem exists_of_isWord {opening closing : String} (hopening : Text.IsWord opening.toList)
    (hclosing : Text.IsWord closing.toList) :
    ∃ d : Delimiters, d.opening = opening ∧ d.closing = closing :=
  ⟨⟨opening, closing, by simpa using hopening.1, by simpa using hclosing.1⟩, rfl, rfl⟩

theorem opening_ofMarkers? {opening closing : String} {d : Delimiters}
    (h : ofMarkers? opening closing = some d) : d.opening = opening ∧ d.closing = closing := by
  unfold ofMarkers? at h
  split at h
  · obtain rfl := Option.some.inj h
    exact ⟨rfl, rfl⟩
  · cases h

theorem ofTagBody?_eq_some_iff_words {body : String} {d : Delimiters} :
    ofTagBody? body = some d ↔
      ∃ inner, unwrap? body.toList = some inner ∧
        Text.words inner = [d.opening.toList, d.closing.toList] := by
  rw [ofTagBody?, Option.bind_eq_bind, Option.bind_eq_some_iff]
  refine exists_congr fun inner => and_congr_right fun _ => ?_
  constructor
  · intro h
    split at h
    · rename_i opening closing hwords
      obtain ⟨hopening, hclosing⟩ := opening_ofMarkers? h
      rw [hwords, hopening, hclosing, String.toList_ofList, String.toList_ofList]
    · cases h
  · intro h
    simp only [h, String.ofList_toList, ofMarkers?_self]

theorem names_iff_words {body opening closing : String} :
    Names body opening closing ↔
      ∃ inner, unwrap? body.toList = some inner ∧
        Text.words inner = [opening.toList, closing.toList] := by
  simp only [unwrap?_eq_some_iff, Text.words_eq_pair_iff]
  constructor
  · rintro ⟨before, between, behind, rfl, hbefore, ⟨hbetween, hne⟩, hbehind, hmarkers⟩
    exact ⟨_, by simp, before.toList, between.toList, behind.toList, rfl, hbefore,
      ⟨hbetween, by simpa using hne⟩, hbehind, hmarkers⟩
  · rintro ⟨_, hbody, before, between, behind, rfl, hbefore, ⟨hbetween, hne⟩, hbehind, hmarkers⟩
    refine ⟨.ofList before, .ofList between, .ofList behind, ?_, ?_⟩
    · apply String.toList_inj.mp
      rw [hbody]
      simp
    · simpa only [String.toList_ofList] using
        ⟨hbefore, ⟨hbetween, by simpa using hne⟩, hbehind, hmarkers⟩

/-- A pair is read if and only if the body names it. -/
theorem ofTagBody?_eq_some_iff {body : String} {d : Delimiters} :
    ofTagBody? body = some d ↔ Names body d.opening d.closing :=
  ofTagBody?_eq_some_iff_words.trans names_iff_words.symm

/-- Markers that a body names are a pair. -/
theorem Names.exists_delimiters {body opening closing : String}
    (h : Names body opening closing) :
    ∃ d : Delimiters, d.opening = opening ∧ d.closing = closing ∧ ofTagBody? body = some d := by
  obtain ⟨d, rfl, rfl⟩ : ∃ d : Delimiters, d.opening = opening ∧ d.closing = closing := by
    obtain ⟨-, -, -, -, -, -, -, hopening, hclosing⟩ := h
    exact exists_of_isWord hopening hclosing
  exact ⟨d, rfl, rfl, ofTagBody?_eq_some_iff.mpr h⟩

theorem names_display {d : Delimiters}
    (hopening : ∀ c ∈ d.opening.toList, Text.isWhiteSpace c = false)
    (hclosing : ∀ c ∈ d.closing.toList, Text.isWhiteSpace c = false) :
    Names ("=" ++ d.display ++ "=") d.opening d.closing := by
  have hne : d.opening.toList ≠ [] ∧ d.closing.toList ≠ [] :=
    ⟨by simpa using d.opening_ne, by simpa using d.closing_ne⟩
  refine ⟨"", " ", "", ?_, by decide, by decide, by decide, ⟨hne.1, hopening⟩, ⟨hne.2, hclosing⟩⟩
  simp [display, String.append_assoc]

/-- A body is read as the pair that it names. It names one pair at most, and each pair of
    markers without white space is named by its form between two equals signs. -/
theorem ofTagBody?_iff_names :
    (∀ body opening closing : String,
      (ofTagBody? body).map (fun d => (d.opening, d.closing)) = some (opening, closing) ↔
        Names body opening closing) ∧
    (∀ body : String, ofTagBody? body = none ↔
      ∀ opening closing, ¬ Names body opening closing) ∧
    (∀ body opening closing opening' closing' : String, Names body opening closing →
      Names body opening' closing' → opening = opening' ∧ closing = closing') ∧
    ∀ d : Delimiters, (∀ c ∈ d.opening.toList, Text.isWhiteSpace c = false) →
      (∀ c ∈ d.closing.toList, Text.isWhiteSpace c = false) →
      ofTagBody? ("=" ++ d.display ++ "=") = some d := by
  refine ⟨?_, ?_, ?_, ?_⟩
  · intro body opening closing
    rw [Option.map_eq_some_iff]
    constructor
    · rintro ⟨d, hd, hmarkers⟩
      obtain ⟨rfl, rfl⟩ := Prod.mk.injEq _ _ _ _ ▸ hmarkers
      exact ofTagBody?_eq_some_iff.mp hd
    · intro h
      obtain ⟨d, rfl, rfl, hd⟩ := h.exists_delimiters
      exact ⟨d, hd, rfl⟩
  · intro body
    constructor
    · intro hnone opening closing h
      obtain ⟨d, -, -, hd⟩ := h.exists_delimiters
      rw [hnone] at hd
      cases hd
    · intro h
      rw [Option.eq_none_iff_forall_ne_some]
      intro d hd
      exact h _ _ (ofTagBody?_eq_some_iff.mp hd)
  · intro body opening closing opening' closing' h h'
    obtain ⟨d, rfl, rfl, hd⟩ := h.exists_delimiters
    obtain ⟨d', rfl, rfl, hd'⟩ := h'.exists_delimiters
    obtain rfl : d = d' := Option.some.inj (hd.symm.trans hd')
    exact ⟨rfl, rfl⟩
  · intro d hopening hclosing
    exact ofTagBody?_eq_some_iff.mpr (names_display hopening hclosing)

/-- Markers that begin and end with equals signs, with white space of several kinds. -/
theorem ofTagBody?_iff_names_signs :
    let d : Delimiters := ⟨"==", "=»=", by decide, by decide⟩
    let body := "=\u3000== \u2028=»=\n="
    Names body d.opening d.closing ∧
      (ofTagBody? body).map (fun d => (d.opening, d.closing)) = some (d.opening, d.closing) ∧
      (d.opening = "==" ∧ d.closing = "=»=") ∧
      ((∀ c ∈ d.opening.toList, Text.isWhiteSpace c = false) ∧
        (∀ c ∈ d.closing.toList, Text.isWhiteSpace c = false) ∧
        ofTagBody? "=== =»==" = some d) := by
  intro d body
  obtain ⟨hread, -, hunique, hshown⟩ := ofTagBody?_iff_names
  have hnames : Names body "==" "=»=" :=
    ⟨"\u3000", " \u2028", "\n", by decide, by decide, by decide, by decide, by decide, by decide⟩
  have hopening : Text.IsWord d.opening.toList := by decide
  have hclosing : Text.IsWord d.closing.toList := by decide
  exact ⟨hnames, (hread _ _ _).mpr hnames, hunique body _ _ _ _ hnames hnames, hopening.2,
    hclosing.2, hshown d hopening.2 hclosing.2⟩

end Delimiters

end Mustache
