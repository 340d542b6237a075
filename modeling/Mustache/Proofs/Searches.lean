-- SUMMARY: A search finds the leftmost occurrence, between characters, and counts the line feeds in front of it.
import Mathlib.Data.List.Nodup
import Mustache.Proofs.Occurrence

/-!
# Searches

A search for a marker begins at a byte of the text and reports the first occurrence from there
on, with the number of line feeds that lie between (`Marker.find_leftmost`). Line feeds of the
marker itself are not among them.

It does not matter how the search is carried out. It may look for the marker first and then
count in what lies in front, by any means that find the leftmost occurrence and every line feed
(`Marker.Finder`). Or it may go through the text once and do both at each byte
(`Marker.walk`).

The search compares bytes, and it may even begin inside a character. What it finds lies between
characters all the same, and is the marker (`Marker.find_isValid`). This needs a text whose
offsets fit into words, as those of a template do. In a longer text offsets are cut to words, and
a range may have nothing to do with the marker (`Marker.find_isValid_beyond_words`).
-/

namespace Mustache.Marker

/-! ## The first occurrence from an offset on -/

/-- The needle stands in the text at the offset. -/
def StandsAt (needle text : String) (k : Nat) : Prop :=
  k ≤ text.utf8ByteSize ∧ Text.bytes needle <+: (Text.bytes text).drop k

instance {needle text : String} {k : Nat} : Decidable (StandsAt needle text k) :=
  inferInstanceAs (Decidable (_ ∧ _))

/-- Of all offsets from `start` on at which the needle stands, this is the least. -/
structure FirstFrom (needle text : String) (start k : Nat) : Prop where
  start_le : start ≤ k
  standsAt : StandsAt needle text k
  least : ∀ j, start ≤ j → StandsAt needle text j → k ≤ j

/-- The line feeds of a text from one offset up to another. -/
def newlinesBetween (text : String) (start stop : Nat) : Nat :=
  Text.newlines (((Text.bytes text).take stop).drop start)

section

variable {needle text : String} {start k : Nat}

theorem standsAt_add_iff (hstart : start ≤ text.utf8ByteSize) :
    StandsAt needle text (start + k) ↔
      k ≤ ((Text.bytes text).drop start).length ∧
        Text.bytes needle <+: ((Text.bytes text).drop start).drop k := by
  rw [StandsAt, List.drop_drop, List.length_drop, Text.length_bytes]
  refine and_congr_left fun _ => ?_
  omega

theorem firstFrom_of_offset? (hstart : start ≤ text.utf8ByteSize)
    (h : offset? (Text.bytes needle) ((Text.bytes text).drop start) = some k) :
    FirstFrom needle text start (start + k) := by
  obtain ⟨hk, hat, hleast⟩ := offset?_eq_some_iff.mp h
  refine ⟨Nat.le_add_right start k, (standsAt_add_iff hstart).mpr ⟨hk, hat⟩, ?_⟩
  intro j hj hstands
  obtain ⟨i, rfl⟩ := Nat.exists_eq_add_of_le hj
  apply Nat.add_le_add_left
  apply Nat.le_of_not_lt
  intro hi
  exact hleast i hi ((standsAt_add_iff hstart).mp hstands).2

theorem not_standsAt_of_offset? (hstart : start ≤ text.utf8ByteSize)
    (h : offset? (Text.bytes needle) ((Text.bytes text).drop start) = none) :
    ¬ ∃ k, start ≤ k ∧ StandsAt needle text k := by
  rintro ⟨k, hk, hstands⟩
  obtain ⟨i, rfl⟩ := Nat.exists_eq_add_of_le hk
  obtain ⟨-, hat⟩ := (standsAt_add_iff hstart).mp hstands
  exact offset?_eq_none_iff.mp h (hat.isInfix.trans (List.drop_suffix i _).isInfix)

theorem add_length_le (hstart : start ≤ text.utf8ByteSize)
    (h : offset? (Text.bytes needle) ((Text.bytes text).drop start) = some k) :
    start + k + needle.utf8ByteSize ≤ text.utf8ByteSize := by
  have hle := offset?_add_length_le h
  rw [List.length_drop, Text.length_bytes, Text.length_bytes] at hle
  omega

theorem newlines_take_drop :
    Text.newlines (((Text.bytes text).drop start).take k) =
      newlinesBetween text start (start + k) := by
  rw [newlinesBetween, List.take_drop]

theorem newlines_drop :
    Text.newlines ((Text.bytes text).drop start) =
      newlinesBetween text start text.utf8ByteSize := by
  rw [newlinesBetween, ← Text.length_bytes, List.take_length]

theorem newlinesBetween_le (text : String) (start stop : Nat) :
    newlinesBetween text start stop ≤ text.utf8ByteSize := by
  have hcount : newlinesBetween text start stop ≤ _ := List.count_le_length
  rw [List.length_drop, List.length_take, Text.length_bytes] at hcount
  omega

/-- Offsets and counts of a text that is short enough are words. -/
theorem toNat_ofNat (fits : text.utf8ByteSize < UInt32.size) (h : k ≤ text.utf8ByteSize) :
    (UInt32.ofNat k).toNat = k :=
  UInt32.toNat_ofNat_of_lt' (Nat.lt_of_le_of_lt h fits)

end

section

variable {needle haystack : String} {start : UInt32} {k : Nat}

theorem find_of_offset?
    (h : offset? (Text.bytes needle) ((Text.bytes haystack).drop start.toNat) = some k) :
    find needle haystack start =
      { range := some
          ⟨.ofNat (start.toNat + k), .ofNat (start.toNat + k + needle.utf8ByteSize)⟩
        newlines := .ofNat (newlinesBetween haystack start.toNat (start.toNat + k)) } := by
  rw [find, search, h]
  simp only [newlines_take_drop, UInt32.ofNat_add, UInt32.ofNat_toNat, Text.length_bytes,
    UInt32.add_assoc]

theorem find_of_offset?_eq_none
    (h : offset? (Text.bytes needle) ((Text.bytes haystack).drop start.toNat) = none) :
    find needle haystack start =
      { range := none
        newlines := .ofNat (newlinesBetween haystack start.toNat haystack.utf8ByteSize) } := by
  rw [find, search, h]
  simp only [newlines_drop]

end

/-! ## Searches in two passes -/

/-- Means to search bytes, which may be carried out in any way: one to look for a needle and
    one to list line feeds. -/
structure Finder where
  offset? : (needle window : List UInt8) → Option Nat
  lineFeeds : List UInt8 → List Nat
  /-- Offsets are those of leftmost occurrences. -/
  offset?_eq_some_iff : ∀ needle window k, offset? needle window = some k ↔
    k ≤ window.length ∧ needle <+: window.drop k ∧ ∀ j < k, ¬ needle <+: window.drop j
  /-- Every line feed is listed, by its offset. -/
  mem_lineFeeds_iff : ∀ bs k, k ∈ lineFeeds bs ↔ bs[k]? = some Text.newline
  /-- No line feed is listed twice. -/
  nodup_lineFeeds : ∀ bs, (lineFeeds bs).Nodup

namespace Finder

/-- Looks for the needle, and then lists the line feeds up to it. -/
def find (f : Finder) (needle haystack : String) (start : UInt32) : Match :=
  let window := (Text.bytes haystack).drop start.toNat
  match f.offset? (Text.bytes needle) window with
  | some k =>
    let first := start.toNat + k
    { range := some ⟨.ofNat first, .ofNat (first + needle.utf8ByteSize)⟩
      newlines := .ofNat (f.lineFeeds (window.take k)).length }
  | none => { range := none, newlines := .ofNat (f.lineFeeds window).length }

/-- The search and the list that take one byte after the other. -/
def bytewise : Finder where
  offset? := Marker.offset?
  lineFeeds bs := bs.idxsOf Text.newline
  offset?_eq_some_iff _ _ _ := Marker.offset?_eq_some_iff
  mem_lineFeeds_iff bs k := by
    rw [List.mem_idxsOf_iff_exists_getElem_pos, List.getElem?_eq_some_iff]
    simp
  nodup_lineFeeds _ := List.nodup_idxsOf

theorem offset?_eq (f : Finder) (needle window : List UInt8) :
    f.offset? needle window = Marker.offset? needle window := by
  apply Option.ext
  intro k
  rw [f.offset?_eq_some_iff, Marker.offset?_eq_some_iff]

theorem length_lineFeeds (f : Finder) (bs : List UInt8) :
    (f.lineFeeds bs).length = Text.newlines bs := by
  have hperm : (f.lineFeeds bs).Perm (bytewise.lineFeeds bs) := by
    rw [List.perm_ext_iff_of_nodup (f.nodup_lineFeeds bs) (bytewise.nodup_lineFeeds bs)]
    intro k
    rw [f.mem_lineFeeds_iff, bytewise.mem_lineFeeds_iff]
  rw [hperm.length_eq]
  exact List.length_idxsOf

/-- Whatever the means, they find the same. -/
theorem find_eq (f : Finder) (needle haystack : String) (start : UInt32) :
    f.find needle haystack start = Marker.find needle haystack start := by
  rw [find, f.offset?_eq]
  cases hk : Marker.offset? (Text.bytes needle) ((Text.bytes haystack).drop start.toNat) with
  | none =>
    rw [find_of_offset?_eq_none hk]
    simp only [f.length_lineFeeds, newlines_drop]
  | some k =>
    rw [find_of_offset? hk]
    simp only [f.length_lineFeeds, newlines_take_drop]

end Finder

/-! ## Searches in one pass -/

/-- Compares at each byte and counts it before going on, given the offset of the window and the
    line feeds in front of it. -/
def walkFrom (needle : List UInt8) : (window : List UInt8) → (offset : Nat) →
    (newlines : UInt32) → Match
  | [], _, newlines => ⟨none, newlines⟩
  | b :: rest, offset, newlines =>
    if needle.isPrefixOf (b :: rest) then
      ⟨some ⟨.ofNatClamp offset, .ofNatClamp (offset + needle.length)⟩, newlines⟩
    else
      walkFrom needle rest (offset + 1) (if b = Text.newline then newlines + 1 else newlines)

/-- Searches a text from a byte offset on in one pass. -/
def walk (needle haystack : String) (start : UInt32) : Match :=
  walkFrom (Text.bytes needle) ((Text.bytes haystack).drop start.toNat) start.toNat 0

/-- Line feeds can be counted as they are passed. -/
theorem add_newlines_cons (newlines : UInt32) (b : UInt8) (bs : List UInt8) :
    newlines + .ofNat (Text.newlines (b :: bs)) =
      (if b = Text.newline then newlines + 1 else newlines) + .ofNat (Text.newlines bs) := by
  by_cases hb : b = Text.newline
  · rw [if_pos hb, hb, Text.newlines, List.count_cons_self, UInt32.ofNat_add,
      UInt32.add_comm (.ofNat _), ← UInt32.add_assoc]
    rfl
  · rw [if_neg hb, Text.newlines, List.count_cons_of_ne hb]
    rfl

theorem walkFrom_eq {needle : List UInt8} (hne : needle ≠ []) (window : List UInt8)
    (offset : Nat) (newlines : UInt32) :
    walkFrom needle window offset newlines =
      match offset? needle window with
      | some k =>
        ⟨some ⟨.ofNatClamp (offset + k), .ofNatClamp (offset + k + needle.length)⟩,
          newlines + .ofNat (Text.newlines (window.take k))⟩
      | none => ⟨none, newlines + .ofNat (Text.newlines window)⟩ := by
  induction window generalizing offset newlines with
  | nil => simp [walkFrom, offset?_nil, hne, Text.newlines]
  | cons b rest ih =>
    rw [walkFrom, offset?_cons]
    by_cases hat : needle <+: b :: rest
    · simp [hat, Text.newlines]
    · rw [if_neg (by simpa using hat), if_neg hat, ih]
      cases offset? needle rest with
      | none => simp only [Option.map_none, add_newlines_cons]
      | some k =>
        simp only [Option.map_some, List.take_succ_cons, add_newlines_cons, Nat.add_assoc, Nat.add_comm 1]

/-! ## What a search reports -/

section

variable {needle haystack : String} {start : UInt32}

/-- In one pass the same is found, if all offsets fit into words. -/
theorem walk_eq (fits : haystack.utf8ByteSize < UInt32.size)
    (hstart : start.toNat ≤ haystack.utf8ByteSize) (hne : needle ≠ "") :
    walk needle haystack start = find needle haystack start := by
  rw [walk, walkFrom_eq (mt Text.bytes_eq_nil_iff.mp hne)]
  cases hk : offset? (Text.bytes needle) ((Text.bytes haystack).drop start.toNat) with
  | none =>
    rw [find_of_offset?_eq_none hk]
    simp only [newlines_drop, UInt32.zero_add]
  | some k =>
    have hle := add_length_le hstart hk
    have hfirst : UInt32.ofNatClamp (start.toNat + k) = .ofNat (start.toNat + k) :=
      UInt32.ofNatClamp_eq_ofNat _ (by omega)
    have hlast : UInt32.ofNatClamp (start.toNat + k + needle.utf8ByteSize) =
        .ofNat (start.toNat + k + needle.utf8ByteSize) :=
      UInt32.ofNatClamp_eq_ofNat _ (by omega)
    rw [find_of_offset? hk]
    simp only [newlines_take_drop, UInt32.zero_add, Text.length_bytes, hfirst, hlast]

theorem find_of_standsAt (fits : haystack.utf8ByteSize < UInt32.size)
    (hstart : start.toNat ≤ haystack.utf8ByteSize)
    (h : ∃ k, start.toNat ≤ k ∧ StandsAt needle haystack k) :
    ∃ range, (find needle haystack start).range = some range ∧
      FirstFrom needle haystack start.toNat range.start.toNat ∧
      range.stop.toNat = range.start.toNat + needle.utf8ByteSize ∧
      (find needle haystack start).newlines.toNat =
        newlinesBetween haystack start.toNat range.start.toNat := by
  cases hk : offset? (Text.bytes needle) ((Text.bytes haystack).drop start.toNat) with
  | none => exact absurd h (not_standsAt_of_offset? hstart hk)
  | some k =>
    have hle := add_length_le hstart hk
    have hfirst : (UInt32.ofNat (start.toNat + k)).toNat = start.toNat + k :=
      toNat_ofNat fits (by omega)
    rw [find_of_offset? hk]
    refine ⟨_, rfl, ?_, ?_, ?_⟩
    · rw [hfirst]
      exact firstFrom_of_offset? hstart hk
    · rw [hfirst]
      exact toNat_ofNat fits hle
    · rw [hfirst]
      exact toNat_ofNat fits (newlinesBetween_le _ _ _)

theorem find_of_not_standsAt (fits : haystack.utf8ByteSize < UInt32.size)
    (hstart : start.toNat ≤ haystack.utf8ByteSize)
    (h : ¬ ∃ k, start.toNat ≤ k ∧ StandsAt needle haystack k) :
    (find needle haystack start).range = none ∧
      (find needle haystack start).newlines.toNat =
        newlinesBetween haystack start.toNat haystack.utf8ByteSize := by
  cases hk : offset? (Text.bytes needle) ((Text.bytes haystack).drop start.toNat) with
  | none =>
    rw [find_of_offset?_eq_none hk]
    exact ⟨rfl, toNat_ofNat fits (newlinesBetween_le _ _ _)⟩
  | some k =>
    have hfirst := firstFrom_of_offset? hstart hk
    exact absurd ⟨_, hfirst.start_le, hfirst.standsAt⟩ h

/-- A search reports the first occurrence from its start on with the line feeds in between, or
    all line feeds from its start on if there is none. This is so by whatever means it is carried
    out, and for a needle that is not empty, also in one pass. -/
theorem find_leftmost (f : Finder) (needle : String)
    (fits : haystack.utf8ByteSize < UInt32.size)
    (hstart : start.toNat ≤ haystack.utf8ByteSize) :
    ((∃ k, start.toNat ≤ k ∧ StandsAt needle haystack k) →
      ∃ range, (find needle haystack start).range = some range ∧
        FirstFrom needle haystack start.toNat range.start.toNat ∧
        range.stop.toNat = range.start.toNat + needle.utf8ByteSize ∧
        (find needle haystack start).newlines.toNat =
          newlinesBetween haystack start.toNat range.start.toNat) ∧
    ((¬ ∃ k, start.toNat ≤ k ∧ StandsAt needle haystack k) →
      (find needle haystack start).range = none ∧
        (find needle haystack start).newlines.toNat =
          newlinesBetween haystack start.toNat haystack.utf8ByteSize) ∧
    f.find needle haystack start = find needle haystack start ∧
    (needle ≠ "" → walk needle haystack start = find needle haystack start) :=
  ⟨find_of_standsAt fits hstart, find_of_not_standsAt fits hstart, f.find_eq needle haystack start,
    walk_eq fits hstart⟩

/-- A needle that overlaps itself and has a line feed, and one that stands nowhere. The search
    begins inside a character. -/
theorem find_leftmost_overlapping :
    let needle := "a\na"
    let absent := "\n\n"
    let haystack := "é\na\na\na"
    let start : UInt32 := 1
    haystack.utf8ByteSize < UInt32.size ∧ start.toNat ≤ haystack.utf8ByteSize ∧
      StandsAt needle haystack 5 ∧
      (∃ range, (find needle haystack start).range = some range ∧
        FirstFrom needle haystack start.toNat range.start.toNat ∧
        range.stop.toNat = range.start.toNat + needle.utf8ByteSize ∧
        (find needle haystack start).newlines.toNat =
          newlinesBetween haystack start.toNat range.start.toNat) ∧
      find needle haystack start = ⟨some ⟨3, 6⟩, 1⟩ ∧
      Finder.bytewise.find needle haystack start = find needle haystack start ∧
      needle ≠ "" ∧ walk needle haystack start = find needle haystack start ∧
      (¬ ∃ k, start.toNat ≤ k ∧ StandsAt absent haystack k) ∧
      (find absent haystack start).range = none ∧
      (find absent haystack start).newlines.toNat =
        newlinesBetween haystack start.toNat haystack.utf8ByteSize := by
  intro needle absent haystack start
  have fits : haystack.utf8ByteSize < UInt32.size := by decide +kernel
  have hstart : start.toNat ≤ haystack.utf8ByteSize := by decide +kernel
  have hstands : StandsAt needle haystack 5 := by decide +kernel
  have hne : needle ≠ "" := by decide +kernel
  have hfound : find needle haystack start = ⟨some ⟨3, 6⟩, 1⟩ := by decide +kernel
  have hnone : ¬ ∃ k, start.toNat ≤ k ∧ StandsAt absent haystack k :=
    not_standsAt_of_offset? hstart (by decide +kernel)
  obtain ⟨hfirst, -, hfinder, hwalk⟩ := find_leftmost .bytewise needle fits hstart
  obtain ⟨-, hmissed, -⟩ := find_leftmost .bytewise absent fits hstart
  exact ⟨fits, hstart, hstands, hfirst ⟨5, by decide, hstands⟩, hfound, hfinder, hne, hwalk hne,
    hnone, hmissed hnone⟩

end

/-! ## Texts of letters -/

/-- A text of letters, which may have any length. -/
def letters (n : Nat) : String := String.join (List.replicate n "x")

theorem letters_succ (n : Nat) : letters (n + 1) = "x" ++ letters n := by
  rw [letters, List.replicate_succ, String.join_cons, letters]

theorem bytes_letters (n : Nat) : Text.bytes (letters n) = List.replicate n 120 := by
  induction n with
  | zero => rfl
  | succ n ih =>
    rw [letters_succ, Text.bytes_append, ih, List.replicate_succ]
    rfl

theorem utf8ByteSize_letters (n : Nat) : (letters n).utf8ByteSize = n := by
  rw [← Text.length_bytes, bytes_letters, List.length_replicate]

/-- Two braces behind letters stand nowhere in front. -/
theorem firstBehind_letters (n : Nat) : FirstBehind "\x7b\x7b" (letters n) := by
  intro k hk hstands
  rw [utf8ByteSize_letters] at hk
  obtain ⟨m, hm⟩ := Nat.exists_eq_add_one_of_ne_zero (Nat.sub_ne_zero_of_lt hk)
  have hle : k ≤ (List.replicate n (120 : UInt8)).length := by
    rw [List.length_replicate]
    exact Nat.le_of_lt hk
  rw [Text.bytes_append, bytes_letters, List.drop_append_of_le_length hle, List.drop_replicate,
    hm, List.replicate_succ, List.cons_append] at hstands
  have hbrace : (123 : UInt8) = 120 := (List.cons_prefix_cons.mp hstands).1
  exact absurd hbrace (by decide)

/-- Two braces behind letters are found, and their offsets are cut to words. -/
theorem range_find_letters (n : Nat) :
    (find "\x7b\x7b" (letters n ++ "\x7b\x7b") 0).range = some ⟨.ofNat n, .ofNat (n + 2)⟩ := by
  have hoffset := (firstBehind_letters n).offset?_append ""
  rw [String.append_empty, utf8ByteSize_letters] at hoffset
  have hfound : find "\x7b\x7b" (letters n ++ "\x7b\x7b") 0 = _ := find_of_offset? hoffset
  rw [hfound, UInt32.toNat_zero, Nat.zero_add]
  rfl

theorem slice_letters (n : Nat) (behind : String) :
    Span.slice ⟨0, 2⟩ (letters (n + 2) ++ behind) = "xx" := by
  have htext : letters (n + 2) ++ behind = "" ++ ("xx" ++ (letters n ++ behind)) := by
    rw [letters_succ, letters_succ, String.append_assoc, String.append_assoc, String.empty_append,
      ← String.append_assoc]
    rfl
  rw [htext]
  exact Text.cut_append "" "xx" _

/-! ## Searches and characters -/

section

variable {needle haystack : String} {start : UInt32}

theorem exists_of_range_find {range : Span} (h : (find needle haystack start).range = some range) :
    ∃ k, offset? (Text.bytes needle) ((Text.bytes haystack).drop start.toNat) = some k ∧
      range = ⟨.ofNat (start.toNat + k), .ofNat (start.toNat + k + needle.utf8ByteSize)⟩ := by
  cases hk : offset? (Text.bytes needle) ((Text.bytes haystack).drop start.toNat) with
  | none =>
    rw [find_of_offset?_eq_none hk] at h
    cases h
  | some k =>
    rw [find_of_offset? hk] at h
    exact ⟨k, rfl, (Option.some.inj h).symm⟩

/-- What a search finds begins and ends between characters, and it is the needle. The range has
    the offsets of such an occurrence, each cut to a word. -/
theorem exists_isValid_of_range_find (hne : needle ≠ "") {range : Span}
    (h : (find needle haystack start).range = some range) :
    ∃ k, range = ⟨.ofNat k, .ofNat (k + needle.utf8ByteSize)⟩ ∧
      k + needle.utf8ByteSize ≤ haystack.utf8ByteSize ∧
      String.Pos.Raw.IsValid haystack ⟨k⟩ ∧
      String.Pos.Raw.IsValid haystack ⟨k + needle.utf8ByteSize⟩ ∧
      Text.cut haystack k (k + needle.utf8ByteSize) = needle := by
  obtain ⟨k, hk, rfl⟩ := exists_of_range_find h
  obtain ⟨-, hat, -⟩ := offset?_eq_some_iff.mp hk
  rw [List.drop_drop] at hat
  obtain ⟨hstart, hstop⟩ := Text.isValid_of_prefix_drop hne hat
  refine ⟨start.toNat + k, rfl, Text.add_le_of_prefix_drop hne hat, hstart, hstop, ?_⟩
  obtain ⟨before, after, rfl, hbefore⟩ := Text.exists_append_of_prefix_drop hne hat
  rw [← hbefore, String.append_assoc, Text.cut_append]

/-- If the offsets of the text fit into words, what a search finds begins and ends between
    characters, and it is the needle. -/
theorem find_isValid (fits : haystack.utf8ByteSize < UInt32.size) (hne : needle ≠ "")
    {range : Span} (h : (find needle haystack start).range = some range) :
    String.Pos.Raw.IsValid haystack ⟨range.start.toNat⟩ ∧
      String.Pos.Raw.IsValid haystack ⟨range.stop.toNat⟩ ∧ range.slice haystack = needle := by
  obtain ⟨k, rfl, hle, hstart, hstop, hcut⟩ := exists_isValid_of_range_find hne h
  have hfirst : (UInt32.ofNat k).toNat = k := toNat_ofNat fits (by omega)
  have hlast : (UInt32.ofNat (k + needle.utf8ByteSize)).toNat = k + needle.utf8ByteSize :=
    toNat_ofNat fits hle
  rw [Span.slice, hfirst, hlast]
  exact ⟨hstart, hstop, hcut⟩

/-- The search begins on the last byte of a character. -/
theorem find_isValid_inside :
    let needle := "«é"
    let haystack := "語é«é語"
    let range : Span := ⟨5, 9⟩
    haystack.utf8ByteSize < UInt32.size ∧ needle ≠ "" ∧
      ¬ String.Pos.Raw.IsValid haystack ⟨2⟩ ∧ (find needle haystack 2).range = some range ∧
      String.Pos.Raw.IsValid haystack ⟨range.start.toNat⟩ ∧
      String.Pos.Raw.IsValid haystack ⟨range.stop.toNat⟩ ∧ range.slice haystack = needle := by
  intro needle haystack range
  have fits : haystack.utf8ByteSize < UInt32.size := by decide +kernel
  have hne : needle ≠ "" := by decide +kernel
  have hinside : ¬ String.Pos.Raw.IsValid haystack ⟨2⟩ := by decide +kernel
  have hrange : (find needle haystack 2).range = some range := by decide +kernel
  exact ⟨fits, hne, hinside, hrange, find_isValid fits hne hrange⟩

end

/-- A marker stands behind as many letters as there are words, and the range found is that of
    the first two letters. -/
theorem find_isValid_beyond_words :
    let needle := "\x7b\x7b"
    let haystack := letters UInt32.size ++ needle
    let range : Span := ⟨0, 2⟩
    needle ≠ "" ∧ (0 : UInt32).toNat ≤ haystack.utf8ByteSize ∧
      (find needle haystack 0).range = some range ∧ range.slice haystack = "xx" ∧
      ¬ (String.Pos.Raw.IsValid haystack ⟨range.start.toNat⟩ ∧
        String.Pos.Raw.IsValid haystack ⟨range.stop.toNat⟩ ∧ range.slice haystack = needle) := by
  intro needle haystack range
  have hwords : (⟨.ofNat UInt32.size, .ofNat (UInt32.size + 2)⟩ : Span) = range := by decide
  have hslice : range.slice haystack = "xx" := slice_letters (UInt32.size - 2) needle
  refine ⟨by decide, Nat.zero_le _, ?_, hslice, ?_⟩
  · rw [← hwords]
    exact range_find_letters UInt32.size
  · rintro ⟨-, -, hneedle⟩
    exact absurd (hslice.symm.trans hneedle) (by decide)

end Mustache.Marker
