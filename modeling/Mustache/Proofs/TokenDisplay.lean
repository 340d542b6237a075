-- SUMMARY: The form of a token tells everything about it but its template.
import Mustache.Proofs.KeyPathDisplay
import Mustache.Proofs.Quoting
import Mustache.Token

/-!
# Tokens as they are shown

A token is shown as its line, its span, the name of its kind and what belongs to the kind. No
sign that divides these parts can stand in the part in front of it: numbers are made of
digits and names of letters. What comes last goes on to the end, so it may be any text, such
as the name of a partial, which is shown as it is. So the form of a token can be taken apart
again, and all that it does not tell is the template (`Token.display_eq_iff`).
-/

namespace Mustache

namespace Token.Kind

/-! ## Kinds -/

/-- The names of the kinds that have no key path. -/
def pathlessNames : List String := ["Text", "Comment", "Partial", "SetDelimiter"]

theorem name_mem_pathlessNames {kind : Kind} (h : kind.path? = none) :
    kind.name ∈ pathlessNames := by
  cases kind with
  | lookup => cases h
  | text | comment | inclusion | delimiterChange => simp [name, pathlessNames]

theorem name_ne_name_lookup {kind : Kind} (h : kind.path? = none) (purpose : Lookup) :
    kind.name ≠ purpose.name := by
  have hpurpose : purpose.name ∉ pathlessNames := by cases purpose <;> decide
  intro hname
  exact hpurpose (hname ▸ name_mem_pathlessNames h)

theorem name_lookup_inj {purpose purpose' : Lookup} (h : purpose.name = purpose'.name) :
    purpose = purpose' := by
  have hinj : ∀ purpose purpose' : Lookup, purpose.name = purpose'.name → purpose = purpose' := by
    intro purpose purpose'
    cases purpose <;> cases purpose' <;> decide
  exact hinj _ _ h

theorem isAlpha_of_mem_name {kind : Kind} {c : Char} (h : c ∈ kind.name.toList) :
    c.isAlpha = true := by
  have hpathless : ∀ name ∈ pathlessNames, name.toList.all Char.isAlpha = true := by decide
  have hlookup : ∀ purpose : Lookup, purpose.name.toList.all Char.isAlpha = true := by
    intro purpose
    cases purpose <;> decide
  cases kind with
  | text | comment | inclusion | delimiterChange =>
    exact List.all_eq_true.mp (hpathless _ (name_mem_pathlessNames rfl)) c h
  | lookup purpose path => exact List.all_eq_true.mp (hlookup purpose) c h

/-- What belongs to the kind is set off from its name by a space. -/
theorem head?_detail (kind : Kind) : ∀ c ∈ kind.detail.toList.head?, c = ' ' := by
  cases kind with
  | text | comment | lookup | inclusion | delimiterChange => simp [detail]

/-- The name tells how to read what belongs to the kind. -/
theorem eq_of_name_of_detail {k l : Kind} (hname : k.name = l.name)
    (hdetail : k.detail = l.detail) : k = l := by
  have hspace : ∀ {s t : String}, " " ++ s = " " ++ t → s = t := (String.append_right_inj " ").mp
  cases k with
  | text content =>
    cases l with
    | text content' => rw [Text.quoted_inj (hspace hdetail)]
    | lookup purpose => exact absurd hname (name_ne_name_lookup rfl purpose)
    | comment | inclusion | delimiterChange => simp [name] at hname
  | comment content =>
    cases l with
    | comment content' => rw [Text.quoted_inj (hspace hdetail)]
    | lookup purpose => exact absurd hname (name_ne_name_lookup rfl purpose)
    | text | inclusion | delimiterChange => simp [name] at hname
  | lookup purpose path =>
    cases l with
    | lookup purpose' path' =>
      rw [name_lookup_inj hname, KeyPath.display_inj (hspace hdetail)]
    | text | comment | inclusion | delimiterChange =>
      exact absurd hname.symm (name_ne_name_lookup rfl purpose)
  | inclusion source =>
    cases l with
    | inclusion source' => rw [hspace hdetail]
    | lookup purpose => exact absurd hname (name_ne_name_lookup rfl purpose)
    | text | comment | delimiterChange => simp [name] at hname
  | delimiterChange =>
    cases l with
    | delimiterChange => rfl
    | lookup purpose => exact absurd hname (name_ne_name_lookup rfl purpose)
    | text | comment | inclusion => simp [name] at hname

end Token.Kind

namespace Token

/-! ## Tokens -/

/-- A number ends at the sign behind it. -/
theorem toDigits_append_inj {sign : Char} (hsign : ∀ k, Nat.digitChar k ≠ sign) {m n : UInt32}
    {rest rest' : List Char}
    (h : Nat.toDigits 10 m.toNat ++ sign :: rest = Nat.toDigits 10 n.toNat ++ sign :: rest') :
    m = n ∧ rest = rest' := by
  have hdigits : ∀ n, sign ∉ Nat.toDigits 10 n := Text.not_mem_toDigits (by decide) hsign
  obtain ⟨hnumber, hrest⟩ :=
    Text.append_inj_of_head? (hdigits _) (hdigits _) (by simp) (by simp) h
  have hvalue := congrArg (Nat.ofDigitChars 10 · 0) hnumber
  simp only [Nat.ofDigitChars_ten_toDigits] at hvalue
  exact ⟨UInt32.toNat_inj.mp hvalue, List.tail_eq_of_cons_eq hrest⟩

theorem toList_display (t : Token) :
    t.display.toList = Nat.toDigits 10 t.line.toNat ++ ':' ::
      (Nat.toDigits 10 t.span.start.toNat ++ '.' :: '.' ::
        (Nat.toDigits 10 t.span.stop.toNat ++ ' ' ::
          (t.kind.name.toList ++ t.kind.detail.toList))) := by
  simp [display, Span.display]

/-- Two tokens are shown in the same form if and only if they are the same token, up to the
    template that they are from. -/
theorem display_eq_iff {t u : Token} :
    t.display = u.display ↔ t.kind = u.kind ∧ t.line = u.line ∧ t.span = u.span := by
  constructor
  · intro h
    rw [← String.toList_inj, toList_display, toList_display] at h
    obtain ⟨hline, hspan⟩ := toDigits_append_inj (fun _ => Nat.digitChar_ne ':' (by decide)) h
    obtain ⟨hstart, hstop⟩ := toDigits_append_inj (fun _ => Nat.digitChar_ne '.' (by decide)) hspan
    obtain ⟨hstop, hkind⟩ := toDigits_append_inj
      (fun _ => Nat.digitChar_ne ' ' (by decide)) (List.tail_eq_of_cons_eq hstop)
    have hspace : ∀ kind : Kind, ' ' ∉ kind.name.toList := fun kind hmem =>
      absurd (Kind.isAlpha_of_mem_name hmem) (by decide)
    obtain ⟨hname, hdetail⟩ := Text.append_inj_of_head? (hspace _) (hspace _)
      t.kind.head?_detail u.kind.head?_detail hkind
    refine ⟨?_, hline, ?_⟩
    · exact Kind.eq_of_name_of_detail (String.toList_inj.mp hname) (String.toList_inj.mp hdetail)
    · exact congrArg₂ Span.mk hstart hstop
  · rintro ⟨hkind, hline, hspan⟩
    rw [display, display, hkind, hline, hspan]

end Token

end Mustache
