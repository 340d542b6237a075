-- SUMMARY: Quoted text stands on one line and tells the text.
import Mustache.Text.Quoted

/-!
# Quoting

A character between double quotes is written in one of three ways: as a backslash and a
letter, as its code point in braces, or as itself (`Escapes`). How a character is written
shows which one it is and where the next one begins (`escape_append_inj`). A backslash begins
one of the first two, since alone it is never written, and a closing brace ends the digits of
a code point. So a quoted text tells the text (`quoted_inj`), also when the text looks like an
escape itself. Which characters are written as code points does not matter for this.
-/

namespace Mustache.Text

/-! ## Fields -/

/-- A field without a separator ends where the text ends or where the separator stands. -/
theorem append_inj_of_head? {separator : Char} {field field' rest rest' : List Char}
    (hfield : separator ∉ field) (hfield' : separator ∉ field')
    (hrest : ∀ c ∈ rest.head?, c = separator) (hrest' : ∀ c ∈ rest'.head?, c = separator)
    (h : field ++ rest = field' ++ rest') : field = field' ∧ rest = rest' := by
  have hfront : ∀ field rest : List Char, separator ∉ field →
      (∀ c ∈ rest.head?, c = separator) → (field ++ rest).takeWhile (· != separator) = field := by
    intro field rest hfield hrest
    have hother : ∀ c ∈ field, (c != separator) = true := by
      intro c hc
      rw [bne_iff_ne]
      rintro rfl
      exact hfield hc
    rw [List.takeWhile_append_of_pos hother]
    cases rest with
    | nil => rw [List.takeWhile_nil, List.append_nil]
    | cons c rest =>
      obtain rfl : c = separator := hrest c rfl
      rw [List.takeWhile_cons_of_neg (by simp), List.append_nil]
  obtain rfl : field = field' := by
    rw [← hfront field rest hfield hrest, h, hfront field' rest' hfield' hrest']
  exact ⟨rfl, List.append_cancel_left h⟩

/-! ## Digits -/

/-- Digits are what `Nat.digitChar` writes, in every base. -/
theorem not_mem_toDigits {base : Nat} (hbase : 1 < base) {c : Char}
    (hc : ∀ k, Nat.digitChar k ≠ c) (n : Nat) : c ∉ Nat.toDigits base n := by
  intro h
  induction n using Nat.strongRecOn with
  | ind n ih =>
    rw [Nat.toDigits_eq_if hbase] at h
    split at h
    · exact hc n (List.mem_singleton.mp h).symm
    · rcases List.mem_append.mp h with h | h
      · exact ih _ (Nat.div_lt_self (by omega) hbase) h
      · exact hc _ (List.mem_singleton.mp h).symm

/-- The number that a hexadecimal digit stands for. -/
def hexValue (c : Char) : Nat :=
  if c.isDigit then c.toNat - '0'.toNat else c.toNat - 'a'.toNat + 10

/-- The number that hexadecimal digits write. -/
def ofHexDigits (digits : List Char) : Nat := digits.foldl (fun n c => 16 * n + hexValue c) 0

theorem hexValue_digitChar : ∀ n < 16, hexValue (Nat.digitChar n) = n := by decide

theorem ofHexDigits_toDigits (n : Nat) : ofHexDigits (Nat.toDigits 16 n) = n := by
  induction n using Nat.strongRecOn with
  | ind n ih =>
    have hbase : 1 < 16 := by decide
    rw [Nat.toDigits_eq_if hbase]
    split
    · rename_i hn
      rw [ofHexDigits, List.foldl_cons, List.foldl_nil, hexValue_digitChar n hn, Nat.mul_zero,
        Nat.zero_add]
    · have hdigits : ofHexDigits (Nat.toDigits 16 (n / 16)) = n / 16 :=
        ih _ (Nat.div_lt_self (by omega) hbase)
      have hlast := hexValue_digitChar (n % 16) (Nat.mod_lt n (by decide))
      rw [ofHexDigits] at hdigits
      rw [ofHexDigits, List.foldl_append, List.foldl_cons, List.foldl_nil, hdigits, hlast,
        Nat.div_add_mod]

/-! ## Escapes -/

/-- The characters that are written as a backslash and a letter, with the letter. -/
def letterEscapes : List (Char × Char) :=
  [('\x00', '0'), ('\t', 't'), ('\r', 'r'), ('\n', 'n'), ('"', '"'), ('\\', '\\')]

/-- The ways in which a character is written between double quotes. -/
inductive Escapes (c : Char) : List Char → Prop
  | letter {l : Char} : (c, l) ∈ letterEscapes → Escapes c ['\\', l]
  | codePoint : Escapes c (codePointEscape c)
  | itself : (∀ l, (c, l) ∉ letterEscapes) → Escapes c [c]

theorem escapes_escape (c : Char) : Escapes c (escape c) := by
  unfold escape
  split
  · exact .letter (by decide)
  · exact .letter (by decide)
  · exact .letter (by decide)
  · exact .letter (by decide)
  · exact .letter (by decide)
  · exact .letter (by decide)
  · split
    · exact .codePoint
    · refine .itself fun l hl => ?_
      simp only [letterEscapes, List.mem_cons, Prod.mk.injEq, List.not_mem_nil, or_false] at hl
      grind

variable {c d : Char} {cs ds : List Char}

theorem Escapes.ne_nil {written : List Char} (h : Escapes c written) : written ≠ [] := by
  cases h with
  | letter | codePoint | itself => exact List.cons_ne_nil _ _

theorem codePointEscape_append_inj (h : codePointEscape c ++ cs = codePointEscape d ++ ds) :
    c = d ∧ cs = ds := by
  have hbrace : ∀ n, '\x7d' ∉ Nat.toDigits 16 n :=
    not_mem_toDigits (by decide) fun _ => Nat.digitChar_ne '\x7d' (by decide)
  simp only [codePointEscape, List.cons_append, List.nil_append, List.append_assoc,
    List.cons_inj_right] at h
  obtain ⟨hdigits, hrest⟩ := append_inj_of_head? (hbrace _) (hbrace _) (by simp) (by simp) h
  have hcode := congrArg ofHexDigits hdigits
  rw [ofHexDigits_toDigits, ofHexDigits_toDigits] at hcode
  exact ⟨Char.toNat_inj.mp hcode, List.tail_eq_of_cons_eq hrest⟩

/-- No two letters stand for one character, and none begins a code point. -/
theorem letterEscapes_inj : ∀ a ∈ letterEscapes, a.2 ≠ 'u' ∧
    ∀ b ∈ letterEscapes, a.2 = b.2 → a.1 = b.1 := by decide

theorem backslash_mem_letterEscapes : ('\\', '\\') ∈ letterEscapes := by decide

/-- What is written shows the character and where it ends. -/
theorem Escapes.append_inj {written written' : List Char} (h : Escapes c written)
    (h' : Escapes d written') (happend : written ++ cs = written' ++ ds) : c = d ∧ cs = ds := by
  cases h with
  | letter hl =>
    cases h' with
    | letter hl' =>
      simp only [List.cons_append, List.nil_append, List.cons.injEq, true_and] at happend
      exact ⟨(letterEscapes_inj _ hl).2 _ hl' happend.1, happend.2⟩
    | codePoint =>
      simp only [codePointEscape, List.cons_append, List.cons.injEq, true_and] at happend
      exact absurd happend.1 (letterEscapes_inj _ hl).1
    | itself hd =>
      obtain rfl := List.head_eq_of_cons_eq happend
      exact absurd backslash_mem_letterEscapes (hd _)
  | codePoint =>
    cases h' with
    | letter hl' =>
      simp only [codePointEscape, List.cons_append, List.cons.injEq, true_and] at happend
      exact absurd happend.1.symm (letterEscapes_inj _ hl').1
    | codePoint => exact codePointEscape_append_inj happend
    | itself hd =>
      obtain rfl := List.head_eq_of_cons_eq happend
      exact absurd backslash_mem_letterEscapes (hd _)
  | itself hc =>
    cases h' with
    | letter | codePoint =>
      obtain rfl := List.head_eq_of_cons_eq happend
      exact absurd backslash_mem_letterEscapes (hc _)
    | itself => exact List.cons_eq_cons.mp happend

theorem escape_append_inj (h : escape c ++ cs = escape d ++ ds) : c = d ∧ cs = ds :=
  (escapes_escape c).append_inj (escapes_escape d) h

/-! ## Quoted text -/

theorem flatMap_escape_inj (h : cs.flatMap escape = ds.flatMap escape) : cs = ds := by
  have hne : ∀ (c : Char) (rest : List Char), escape c ++ rest ≠ [] := fun c _ =>
    List.append_ne_nil_of_left_ne_nil (escapes_escape c).ne_nil _
  induction cs generalizing ds with
  | nil =>
    cases ds with
    | nil => rfl
    | cons d ds => exact absurd h.symm (hne d _)
  | cons c cs ih =>
    cases ds with
    | nil => exact absurd h (hne c _)
    | cons d ds =>
      rw [List.flatMap_cons, List.flatMap_cons] at h
      obtain ⟨rfl, hrest⟩ := escape_append_inj h
      rw [ih hrest]

theorem quoted_inj {s t : String} (h : quoted s = quoted t) : s = t := by
  have hquoted := String.ofList_inj.mp h
  rw [List.cons_append, List.cons_append, List.cons_inj_right] at hquoted
  exact String.toList_inj.mp (flatMap_escape_inj (List.append_cancel_right hquoted))

theorem newline_not_mem_quoted (s : String) : '\n' ∉ (quoted s).toList := by
  have hletter : ∀ a ∈ letterEscapes, '\n' ≠ a.2 := by decide
  have hdigits : ∀ n, '\n' ∉ Nat.toDigits 16 n :=
    not_mem_toDigits (by decide) fun _ => Nat.digitChar_ne '\n' (by decide)
  have hescape : ∀ (c : Char) (written : List Char), Escapes c written → '\n' ∉ written := by
    intro c written h
    cases h with
    | letter hl => simp [hletter _ hl]
    | codePoint => simp [codePointEscape, hdigits]
    | itself hc =>
      rw [List.mem_singleton]
      rintro rfl
      exact hc 'n' (by decide)
  have hall : ∀ c, '\n' ∉ escape c := fun c => hescape c _ (escapes_escape c)
  simp [quoted, hall]

end Mustache.Text
