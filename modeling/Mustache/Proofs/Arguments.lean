-- SUMMARY: What a list of arguments says: its first argument that does not fit, or the path and the last of each flag.
import Mathlib.Data.List.Induction
import Mathlib.Data.List.Infix
import Mathlib.Data.List.TakeWhile
import Mustache.Command.Options
import Mustache.Proofs.TagDelimiters

/-!
# Lists of arguments

An argument is told by its text to be a flag with a value, the path, or neither. Whether it
fits depends on this text and, for a path, on the arguments in front of it, since there is one
path only. The first argument that does not fit is the error, whatever stands behind it. If all
fit, each flag counts as it is given last.

`Options.Reads` says this of the list as a whole, and the options are read as it says
(`Options.parse_eq_iff`). Where a flag stands among the other arguments does not matter, only
where it stands among the flags of its kind.
-/

namespace Mustache

/-! ## Single arguments -/

namespace Argument

/-- The argument is the flag with a value, possibly the empty one. -/
def HasFlag (flag arg : String) : Prop := ∃ value, arg = flag ++ value

/-- The argument does not begin with a dash, or it is a single dash. -/
def IsPath (arg : String) : Prop := arg.toList.head? ≠ some '-' ∨ arg = "-"

instance {arg : String} : Decidable (IsPath arg) := inferInstanceAs (Decidable (_ ∨ _))

theorem hasFlag_iff {flag arg : String} :
    HasFlag flag arg ↔ flag.toList <+: arg.toList := by
  constructor
  · rintro ⟨value, rfl⟩
    exact ⟨value.toList, String.toList_append.symm⟩
  · rintro ⟨value, hvalue⟩
    refine ⟨.ofList value, String.toList_inj.mp ?_⟩
    rw [← hvalue, String.toList_append, String.toList_ofList]

instance {flag arg : String} : Decidable (HasFlag flag arg) :=
  decidable_of_iff _ hasFlag_iff.symm

theorem isPrefixOf?_eq_some_iff {flag arg : String} {value : List Char} :
    flag.toList.isPrefixOf? arg.toList = some value ↔ arg = flag ++ .ofList value := by
  rw [List.isPrefixOf?_eq_some_iff_append_eq, ← String.toList_inj, String.toList_append,
    String.toList_ofList, eq_comm]

theorem isPrefixOf?_eq_none_iff {flag arg : String} :
    flag.toList.isPrefixOf? arg.toList = none ↔ ¬ HasFlag flag arg := by
  rw [Option.eq_none_iff_forall_ne_some]
  constructor
  · rintro h ⟨value, rfl⟩
    exact h value.toList (isPrefixOf?_eq_some_iff.mpr (by rw [String.ofList_toList]))
  · intro h value hvalue
    exact h ⟨_, isPrefixOf?_eq_some_iff.mp hvalue⟩

/-- A path is no flag. -/
theorem not_hasFlag_of_isPath {flag arg : String} (hdash : flag.toList.head? = some '-')
    (hlong : 1 < flag.toList.length) (h : IsPath arg) : ¬ HasFlag flag arg := by
  rintro ⟨value, rfl⟩
  rw [IsPath, String.toList_append, List.head?_append, hdash] at h
  obtain hhead | hsingle := h
  · exact hhead rfl
  · have hlength := congrArg (List.length ∘ String.toList) hsingle
    simp only [Function.comp, String.toList_append, List.length_append] at hlength
    have hone : "-".toList.length = 1 := rfl
    omega

theorem not_isPath_append {flag : String} (hdash : flag.toList.head? = some '-')
    (hlong : 1 < flag.toList.length) (value : String) : ¬ IsPath (flag ++ value) :=
  fun h => not_hasFlag_of_isPath hdash hlong h ⟨value, rfl⟩

/-- An argument has one of two flags at most, if neither begins with the other. -/
theorem not_hasFlag_append {flag other : String} (h : ¬ flag.toList <+: other.toList)
    (h' : ¬ other.toList <+: flag.toList) (value : String) : ¬ HasFlag flag (other ++ value) := by
  rw [hasFlag_iff, String.toList_append]
  intro hflag
  exact (List.prefix_or_prefix_of_prefix hflag (List.prefix_append _ _)).elim h h'

/-! ### The form of an argument -/

theorem ofString_delimiters (value : String) :
    ofString ("--delimiters=" ++ value) = .delimiters value := by
  have hvalue : delimitersFlag.isPrefixOf? ("--delimiters=" ++ value).toList = some value.toList :=
    isPrefixOf?_eq_some_iff.mpr (by rw [String.ofList_toList])
  rw [ofString, hvalue]
  simp

theorem ofString_name (value : String) : ofString ("--name=" ++ value) = .name value := by
  have hdelimiters : delimitersFlag.isPrefixOf? ("--name=" ++ value).toList = none := by
    rw [String.toList_append]
    rfl
  have hvalue : nameFlag.isPrefixOf? ("--name=" ++ value).toList = some value.toList :=
    isPrefixOf?_eq_some_iff.mpr (by rw [String.ofList_toList])
  rw [ofString, hdelimiters, hvalue]
  simp

theorem ofString_of_not_hasFlag {arg : String} (hdelimiters : ¬ HasFlag "--delimiters=" arg)
    (hname : ¬ HasFlag "--name=" arg) :
    ofString arg = if IsPath arg then .path arg else .unknown arg := by
  have hnone : delimitersFlag.isPrefixOf? arg.toList = none :=
    isPrefixOf?_eq_none_iff.mpr hdelimiters
  have hnone' : nameFlag.isPrefixOf? arg.toList = none := isPrefixOf?_eq_none_iff.mpr hname
  rw [ofString, hnone, hnone']
  by_cases h : arg.toList.head? = some '-' ∧ arg ≠ "-"
  · have hpath : ¬ IsPath arg := by simpa [IsPath] using h
    simp [h, hpath]
  · have hpath : IsPath arg := by
      rw [IsPath]
      by_cases hhead : arg.toList.head? = some '-'
      · exact .inr (by simpa [hhead] using h)
      · exact .inl hhead
    simp [h, hpath]

theorem ofString_path {arg : String} (h : IsPath arg) : ofString arg = .path arg := by
  rw [ofString_of_not_hasFlag (not_hasFlag_of_isPath rfl (by decide) h)
    (not_hasFlag_of_isPath rfl (by decide) h), if_pos h]

theorem ofString_unknown {arg : String} (hdelimiters : ¬ HasFlag "--delimiters=" arg)
    (hname : ¬ HasFlag "--name=" arg) (hpath : ¬ IsPath arg) : ofString arg = .unknown arg := by
  rw [ofString_of_not_hasFlag hdelimiters hname, if_neg hpath]

end Argument

namespace Options

open Argument

/-! ## The values of flags -/

/-- The value is two markers, divided by the first comma in it. -/
def Divides (value opening closing : String) : Prop :=
  value = opening ++ "," ++ closing ∧ ',' ∉ opening.toList ∧
    Text.IsWord opening.toList ∧ Text.IsWord closing.toList

instance {value opening closing : String} : Decidable (Divides value opening closing) :=
  inferInstanceAs (Decidable (_ ∧ _))

theorem markers?_of_divides {value : String} {d : Delimiters}
    (h : Divides value d.opening d.closing) : markers? value = some d := by
  obtain ⟨rfl, hcomma, hopening, hclosing⟩ := h
  have hvalue : (d.opening ++ "," ++ d.closing).toList =
      d.opening.toList ++ ',' :: d.closing.toList := by simp
  have hother : ∀ c ∈ d.opening.toList, (c != ',') = true := by
    intro c hc
    rw [bne_iff_ne]
    rintro rfl
    exact hcomma hc
  have hbehind : (d.opening.toList ++ ',' :: d.closing.toList).dropWhile (· != ',') =
      ',' :: d.closing.toList := by
    rw [List.dropWhile_append_of_pos hother]
    simp
  have hfront : (d.opening.toList ++ ',' :: d.closing.toList).takeWhile (· != ',') =
      d.opening.toList := by
    rw [List.takeWhile_append_of_pos hother]
    simp
  have hunspaced : d.opening.toList.any Text.isWhiteSpace = false ∧
      d.closing.toList.any Text.isWhiteSpace = false := by
    simpa using ⟨hopening.2, hclosing.2⟩
  simp only [markers?, hvalue, hbehind, hfront, hunspaced]
  simp [Delimiters.ofMarkers?_self]

theorem divides_of_markers? {value : String} {d : Delimiters} (h : markers? value = some d) :
    Divides value d.opening d.closing := by
  simp only [markers?] at h
  split at h
  · rename_i closing hbehind
    split at h
    · cases h
    · rename_i hunspaced
      obtain ⟨hopening, hclosing⟩ := Delimiters.opening_ofMarkers? h
      have hwords : (∀ c ∈ d.opening.toList, Text.isWhiteSpace c = false) ∧
          ∀ c ∈ d.closing.toList, Text.isWhiteSpace c = false := by
        simpa [hopening, hclosing] using hunspaced
      refine ⟨?_, ?_, ⟨by simpa using d.opening_ne, hwords.1⟩, by simpa using d.closing_ne, hwords.2⟩
      · apply String.toList_inj.mp
        rw [← List.takeWhile_append_dropWhile (p := (· != ',')) (l := value.toList), hbehind]
        simp [hopening, hclosing]
      · intro hcomma
        rw [hopening, String.toList_ofList] at hcomma
        exact absurd (List.mem_takeWhile_imp hcomma) (by simp)
  · cases h

theorem markers?_eq_none_iff {value : String} :
    markers? value = none ↔ ∀ opening closing, ¬ Divides value opening closing := by
  rw [Option.eq_none_iff_forall_ne_some]
  constructor
  · intro hnone opening closing h
    obtain ⟨d, rfl, rfl⟩ := Delimiters.exists_of_isWord h.2.2.1 h.2.2.2
    exact hnone d (markers?_of_divides h)
  · intro h d hd
    exact h d.opening d.closing (divides_of_markers? hd)

/-- The last argument with the flag gives the value. There is no value without such an
    argument. -/
def LastValue (flag : String) (args : List String) (value? : Option String) : Prop :=
  (args.filter (HasFlag flag)).getLast? = value?.map (flag ++ ·)

instance {flag : String} {args : List String} {value? : Option String} :
    Decidable (LastValue flag args value?) :=
  inferInstanceAs (Decidable (_ = _))

theorem LastValue.unique {flag : String} {args : List String} {value? value?' : Option String}
    (h : LastValue flag args value?) (h' : LastValue flag args value?') : value? = value?' :=
  (Option.map_inj_right fun _ _ => (String.append_right_inj flag).mp).mp (h.symm.trans h')

theorem LastValue.append_flag {flag : String} (args : List String) (value : String) :
    LastValue flag (args ++ [flag ++ value]) (some value) := by
  simp [LastValue, HasFlag]

theorem LastValue.append {flag arg : String} {args : List String} {value? : Option String}
    (h : LastValue flag args value?) (harg : ¬ HasFlag flag arg) :
    LastValue flag (args ++ [arg]) value? := by
  simpa [LastValue, harg] using h

/-- The delimiters that the value of a flag stands for. Without the flag they are the standard
    ones. -/
def Gives : Option String → Delimiters → Prop
  | none, d => d = .standard
  | some value, d => Divides value d.opening d.closing

theorem Gives.unique {value? : Option String} {d d' : Delimiters} (h : Gives value? d)
    (h' : Gives value? d') : d = d' := by
  cases value? with
  | none => exact Eq.trans h (Eq.symm h')
  | some value =>
    exact Option.some.inj ((markers?_of_divides h).symm.trans (markers?_of_divides h'))

/-! ## Arguments that do not fit -/

/-- Behind the arguments in front of it, the argument does not fit. -/
inductive Unfit (front : List String) : (arg : String) → OptionError → Prop where
  | delimiters {value : String} (h : ∀ opening closing, ¬ Divides value opening closing) :
    Unfit front ("--delimiters=" ++ value) (.invalidDelimiters value)
  | name : Unfit front "--name=" .emptyName
  | unknown {arg : String} (hdelimiters : ¬ HasFlag "--delimiters=" arg)
      (hname : ¬ HasFlag "--name=" arg) (hpath : ¬ IsPath arg) :
    Unfit front arg (.unknownOption arg)
  /-- A second path. -/
  | path {arg : String} (h : IsPath arg) (hfront : ∃ first ∈ front, IsPath first) :
    Unfit front arg (.unexpectedArgument arg)

/-- Every argument fits behind those in front of it. -/
def AllFit (args : List String) : Prop :=
  ∀ front arg behind e, args = front ++ arg :: behind → ¬ Unfit front arg e

/-- What a list of arguments means. -/
inductive Reads (args : List String) : Except OptionError Options → Prop where
  /-- The first argument that does not fit is the error. -/
  | unfit {front behind : List String} {arg : String} {e : OptionError}
      (hsplit : args = front ++ arg :: behind) (hfront : AllFit front) (h : Unfit front arg e) :
    Reads args (.error e)
  | pathless (hfit : AllFit args) (h : ∀ arg ∈ args, ¬ IsPath arg) : Reads args (.error .missingPath)
  | options {o : Options} {value? : Option String} (hfit : AllFit args)
      (hmem : o.path ∈ args) (hpath : IsPath o.path)
      (hname : LastValue "--name=" args o.name)
      (hvalue : LastValue "--delimiters=" args value?) (hgives : Gives value? o.delimiters) :
    Reads args (.ok o)

theorem allFit_nil : AllFit [] := by
  intro front arg behind e hsplit
  simp at hsplit

theorem allFit_append_iff {args : List String} {arg : String} :
    AllFit (args ++ [arg]) ↔ AllFit args ∧ ∀ e, ¬ Unfit args arg e := by
  constructor
  · intro h
    refine ⟨?_, fun e => h args arg [] e rfl⟩
    intro front arg' behind e hsplit
    exact h front arg' (behind ++ [arg]) e (by simp [hsplit])
  · rintro ⟨hargs, harg⟩ front arg' behind e hsplit hunfit
    obtain rfl | ⟨behind, last, rfl⟩ := behind.eq_nil_or_concat
    · obtain ⟨rfl, hlast⟩ := List.append_inj' hsplit rfl
      obtain rfl : arg = arg' := by simpa using hlast
      exact harg e hunfit
    · have hsplit' : args ++ [arg] = (front ++ arg' :: behind) ++ [last] := by simp [hsplit]
      obtain ⟨rfl, -⟩ := List.append_inj' hsplit' rfl
      exact hargs front arg' behind e rfl hunfit

/-! ## What a draft holds -/

/-- The draft holds what the arguments say. -/
structure Draft.Holds (d : Draft) (args : List String) : Prop where
  path : ∀ arg, d.path = some arg ↔ arg ∈ args ∧ IsPath arg
  name : LastValue "--name=" args d.name
  delimiters : ∃ value?, LastValue "--delimiters=" args value? ∧ Gives value? d.delimiters

theorem holds_empty : Draft.empty.Holds [] where
  path := by simp [Draft.empty]
  name := rfl
  delimiters := ⟨none, rfl, rfl⟩

namespace Draft.Holds

variable {d d' : Draft} {front : List String} {arg : String} {e : OptionError}

theorem path_eq_none_iff (h : d.Holds front) : d.path = none ↔ ∀ arg ∈ front, ¬ IsPath arg := by
  simp only [Option.eq_none_iff_forall_ne_some, ne_eq, h.path, not_and]

/-- An argument that does not fit is refused with its error. -/
theorem add_of_unfit (h : d.Holds front) (hunfit : Unfit front arg e) :
    d.add (ofString arg) = .error e := by
  cases hunfit with
  | delimiters hnone => rw [ofString_delimiters, Draft.add, markers?_eq_none_iff.mpr hnone]
  | name =>
    have hname : ofString "--name=" = .name "" := ofString_name ""
    rw [hname, Draft.add, if_pos rfl]
  | unknown hdelimiters hname hpath => rw [ofString_unknown hdelimiters hname hpath, Draft.add]
  | path hpath hfront =>
    obtain ⟨first, hmem, hfirst⟩ := hfront
    have hsome : d.path = some first := (h.path first).mpr ⟨hmem, hfirst⟩
    rw [ofString_path hpath, Draft.add, hsome]

theorem path_append (h : d.Holds front) (harg : ¬ IsPath arg) (path : String) :
    d.path = some path ↔ path ∈ front ++ [arg] ∧ IsPath path := by
  rw [h.path, List.mem_append, List.mem_singleton]
  constructor
  · rintro ⟨hmem, hpath⟩
    exact ⟨.inl hmem, hpath⟩
  · rintro ⟨hmem | rfl, hpath⟩
    · exact ⟨hmem, hpath⟩
    · exact absurd hpath harg

theorem addDelimiters (h : d.Holds front) {value : String} {pair : Delimiters}
    (hdivides : Divides value pair.opening pair.closing) :
    { d with delimiters := pair }.Holds (front ++ ["--delimiters=" ++ value]) where
  path := h.path_append (not_isPath_append rfl (by decide) value)
  name := h.name.append (not_hasFlag_append (by decide) (by decide) value)
  delimiters := ⟨some value, .append_flag front value, hdivides⟩

theorem addName (h : d.Holds front) (value : String) :
    { d with name := some value }.Holds (front ++ ["--name=" ++ value]) where
  path := h.path_append (not_isPath_append rfl (by decide) value)
  name := .append_flag front value
  delimiters := by
    obtain ⟨value?, hlast, hgives⟩ := h.delimiters
    exact ⟨value?, hlast.append (not_hasFlag_append (by decide) (by decide) value), hgives⟩

theorem addPath (h : d.Holds front) (hnone : d.path = none) (hpath : IsPath arg) :
    { d with path := some arg }.Holds (front ++ [arg]) where
  path := by
    have hfront := h.path_eq_none_iff.mp hnone
    intro path
    rw [Option.some_inj, List.mem_append, List.mem_singleton]
    constructor
    · rintro rfl
      exact ⟨.inr rfl, hpath⟩
    · rintro ⟨hmem | rfl, hpath'⟩
      · exact absurd hpath' (hfront path hmem)
      · rfl
  name := h.name.append (not_hasFlag_of_isPath rfl (by decide) hpath)
  delimiters := by
    obtain ⟨value?, hlast, hgives⟩ := h.delimiters
    exact ⟨value?, hlast.append (not_hasFlag_of_isPath rfl (by decide) hpath), hgives⟩

/-- An argument that fits is added to what the draft holds. -/
theorem unfit_or_add (h : d.Holds front) (arg : String) :
    (∃ e, Unfit front arg e) ∨
      ∃ d', d.add (ofString arg) = .ok d' ∧ d'.Holds (front ++ [arg]) := by
  by_cases hdelimiters : HasFlag "--delimiters=" arg
  · obtain ⟨value, rfl⟩ := hdelimiters
    cases hmarkers : markers? value with
    | none => exact .inl ⟨_, .delimiters (markers?_eq_none_iff.mp hmarkers)⟩
    | some pair =>
      refine .inr ⟨{ d with delimiters := pair }, ?_, h.addDelimiters (divides_of_markers? hmarkers)⟩
      rw [ofString_delimiters, Draft.add, hmarkers]
  by_cases hname : HasFlag "--name=" arg
  · obtain ⟨value, rfl⟩ := hname
    by_cases hempty : value = ""
    · subst hempty
      exact .inl ⟨_, .name⟩
    · refine .inr ⟨{ d with name := some value }, ?_, h.addName value⟩
      rw [ofString_name, Draft.add, if_neg hempty]
  by_cases hpath : IsPath arg
  · cases hfirst : d.path with
    | none =>
      refine .inr ⟨{ d with path := some arg }, ?_, h.addPath hfirst hpath⟩
      rw [ofString_path hpath, Draft.add, hfirst]
    | some first => exact .inl ⟨_, .path hpath ⟨first, (h.path first).mp hfirst⟩⟩
  · exact .inl ⟨_, .unknown hdelimiters hname hpath⟩

end Draft.Holds

/-! ## Reading all arguments -/

/-- What is drafted from the arguments. -/
def draft (args : List String) : Except OptionError Draft :=
  (args.map ofString).foldlM Draft.add Draft.empty

theorem parse_eq (args : List String) : parse args = (draft args).bind Draft.finish := rfl

theorem draft_append_cons {front : List String} {d : Draft} (h : draft front = .ok d)
    (arg : String) (behind : List String) :
    draft (front ++ arg :: behind) =
      (d.add (ofString arg)).bind fun d' => (behind.map ofString).foldlM Draft.add d' := by
  rw [draft] at h
  rw [draft, List.map_append, List.foldlM_append, h]
  rfl

/-- Arguments that all fit are drafted as they say. -/
theorem exists_draft {args : List String} (h : AllFit args) :
    ∃ d, draft args = .ok d ∧ d.Holds args := by
  -- Whether an argument fits is decided by those in front of it, so the last is taken off.
  induction args using List.reverseRecOn with
  | nil => exact ⟨.empty, rfl, holds_empty⟩
  | append_singleton args arg ih =>
    obtain ⟨hargs, harg⟩ := allFit_append_iff.mp h
    obtain ⟨d, hdraft, hd⟩ := ih hargs
    obtain ⟨e, hunfit⟩ | ⟨d', hadd, hd'⟩ := hd.unfit_or_add arg
    · exact absurd hunfit (harg e)
    · refine ⟨d', ?_, hd'⟩
      rw [draft_append_cons hdraft, hadd]
      rfl

/-- The first argument that does not fit ends the draft. -/
theorem draft_of_unfit {front : List String} {arg : String} {e : OptionError}
    (hfront : AllFit front) (h : Unfit front arg e) (behind : List String) :
    draft (front ++ arg :: behind) = .error e := by
  obtain ⟨d, hdraft, hd⟩ := exists_draft hfront
  rw [draft_append_cons hdraft, hd.add_of_unfit h]
  rfl

theorem allFit_or_exists_unfit (args : List String) :
    AllFit args ∨ ∃ front arg behind e, args = front ++ arg :: behind ∧ AllFit front ∧
      Unfit front arg e := by
  induction args using List.reverseRecOn with
  | nil => exact .inl allFit_nil
  | append_singleton args arg ih =>
    obtain hargs | ⟨front, first, behind, e, rfl, hfront, hunfit⟩ := ih
    · by_cases harg : ∃ e, Unfit args arg e
      · obtain ⟨e, hunfit⟩ := harg
        exact .inr ⟨args, arg, [], e, rfl, hargs, hunfit⟩
      · exact .inl (allFit_append_iff.mpr ⟨hargs, not_exists.mp harg⟩)
    · exact .inr ⟨front, first, behind ++ [arg], e, by simp, hfront, hunfit⟩

theorem parse_of_reads {args : List String} {result : Except OptionError Options}
    (h : Reads args result) : parse args = result := by
  rw [parse_eq]
  cases h with
  | unfit hsplit hfront hunfit =>
    rw [hsplit, draft_of_unfit hfront hunfit]
    rfl
  | pathless hfit hnone =>
    obtain ⟨d, hdraft, hd⟩ := exists_draft hfit
    have hpath : d.path = none := hd.path_eq_none_iff.mpr hnone
    rw [hdraft]
    simp [Except.bind, Draft.finish, hpath]
  | @options o value? hfit hmem hpath hname hvalue hgives =>
    obtain ⟨d, hdraft, hd⟩ := exists_draft hfit
    have hpath' : d.path = some o.path := (hd.path o.path).mpr ⟨hmem, hpath⟩
    have hname' : d.name = o.name := hd.name.unique hname
    have hdelimiters : d.delimiters = o.delimiters := by
      obtain ⟨value?', hvalue', hgives'⟩ := hd.delimiters
      obtain rfl := hvalue.unique hvalue'
      exact hgives'.unique hgives
    rw [hdraft]
    simp [Except.bind, Draft.finish, hpath', hname', hdelimiters]

theorem reads_parse (args : List String) : Reads args (parse args) := by
  obtain hfit | ⟨front, arg, behind, e, hsplit, hfront, hunfit⟩ := allFit_or_exists_unfit args
  · obtain ⟨d, -, hd⟩ := exists_draft hfit
    cases hpath : d.path with
    | none =>
      have hreads : Reads args (.error .missingPath) :=
        .pathless hfit (hd.path_eq_none_iff.mp hpath)
      rwa [parse_of_reads hreads]
    | some path =>
      obtain ⟨hmem, hisPath⟩ := (hd.path path).mp hpath
      obtain ⟨value?, hvalue, hgives⟩ := hd.delimiters
      have hreads : Reads args (.ok ⟨path, d.delimiters, d.name⟩) :=
        .options hfit hmem hisPath hd.name hvalue hgives
      rwa [parse_of_reads hreads]
  · have hreads : Reads args (.error e) := .unfit hsplit hfront hunfit
    rwa [parse_of_reads hreads]

theorem parse_eq_iff {args : List String} {result : Except OptionError Options} :
    parse args = result ↔ Reads args result := by
  constructor
  · rintro rfl
    exact reads_parse args
  · exact parse_of_reads

/-! ## The order of the arguments -/

/-- An argument does not fit by its own text, or it is a second path. -/
theorem unfit_iff {front : List String} {arg : String} :
    (∃ e, Unfit front arg e) ↔
      (∃ e, Unfit [] arg e) ∨ IsPath arg ∧ ∃ first ∈ front, IsPath first := by
  constructor
  · rintro ⟨e, h⟩
    cases h with
    | delimiters hnone => exact .inl ⟨_, .delimiters hnone⟩
    | name => exact .inl ⟨_, .name⟩
    | unknown hdelimiters hname hpath => exact .inl ⟨_, .unknown hdelimiters hname hpath⟩
    | path hpath hfront => exact .inr ⟨hpath, hfront⟩
  · rintro (⟨e, h⟩ | ⟨hpath, hfront⟩)
    · cases h with
      | delimiters hnone => exact ⟨_, .delimiters hnone⟩
      | name => exact ⟨_, .name⟩
      | unknown hdelimiters hname hpath => exact ⟨_, .unknown hdelimiters hname hpath⟩
      | path _ hfirst =>
        obtain ⟨first, hmem, -⟩ := hfirst
        cases hmem
    · exact ⟨_, .path hpath hfront⟩

/-- Arguments fit if each of them fits alone and there is one path at most. This does not
    depend on their order. -/
theorem allFit_iff {args : List String} :
    AllFit args ↔
      (∀ arg ∈ args, ¬ ∃ e, Unfit [] arg e) ∧ (args.filter IsPath).length ≤ 1 := by
  induction args using List.reverseRecOn with
  | nil => simp [allFit_nil]
  | append_singleton args arg ih =>
    have hpaths : (∃ first ∈ args, IsPath first) ↔ 0 < (args.filter IsPath).length := by
      simp [List.length_pos_iff_exists_mem]
    have hone : ((args ++ [arg]).filter IsPath).length ≤ 1 ↔
        (args.filter IsPath).length ≤ 1 ∧ ¬ (IsPath arg ∧ ∃ first ∈ args, IsPath first) := by
      rw [hpaths, List.filter_append, List.length_append]
      by_cases hpath : IsPath arg
      · have hlast : [arg].filter IsPath = [arg] := by simp [hpath]
        simp only [hlast, List.length_singleton, hpath, true_and]
        omega
      · simp [hpath]
    rw [allFit_append_iff, ih, ← not_exists, unfit_iff, hone, List.forall_mem_append,
      List.forall_mem_singleton, not_or, and_and_and_comm]

theorem AllFit.perm {args args' : List String} (h : AllFit args) (hperm : args.Perm args') :
    AllFit args' := by
  obtain ⟨halone, hpaths⟩ := allFit_iff.mp h
  refine allFit_iff.mpr ⟨fun arg hmem => halone arg (hperm.mem_iff.mpr hmem), ?_⟩
  rwa [← (hperm.filter _).length_eq]

/-- The last flag of a kind is the same in arguments that have the same flags of this kind. -/
theorem LastValue.congr {flag : String} {args args' : List String} {value? : Option String}
    (h : LastValue flag args value?)
    (hflags : args.filter (HasFlag flag) = args'.filter (HasFlag flag)) :
    LastValue flag args' value? := by
  rwa [LastValue, ← hflags]

theorem Reads.perm {args args' : List String} {o : Options} (h : Reads args (.ok o))
    (hperm : args.Perm args')
    (hdelimiters : args.filter (HasFlag "--delimiters=") = args'.filter (HasFlag "--delimiters="))
    (hnames : args.filter (HasFlag "--name=") = args'.filter (HasFlag "--name=")) :
    Reads args' (.ok o) := by
  cases h with
  | options hfit hmem hpath hname hvalue hgives =>
    exact .options (hfit.perm hperm) (hperm.mem_iff.mp hmem) hpath (hname.congr hnames)
      (hvalue.congr hdelimiters) hgives

/-- The arguments are read as they are meant: the first that does not fit is the error, and else
    there are the path and what each flag says last. The path identifies the template, unless
    there is a name. Arguments that are read as options are so in any order that keeps the order
    among the flags of each kind. -/
theorem parse_iff_reads :
    (∀ args result, parse args = result ↔ Reads args result) ∧
    (∀ args o, parse args = .ok o → ∀ name?, LastValue "--name=" args name? →
      o.templateId = .named (name?.getD o.path)) ∧
    ∀ args args' o, parse args = .ok o → args.Perm args' →
      args.filter (HasFlag "--delimiters=") = args'.filter (HasFlag "--delimiters=") →
      args.filter (HasFlag "--name=") = args'.filter (HasFlag "--name=") → parse args' = .ok o := by
  refine ⟨fun args result => parse_eq_iff, ?_, ?_⟩
  · intro args o hparse name? hlast
    cases parse_eq_iff.mp hparse with
    | options _ _ _ hname _ _ => rw [templateId, hname.unique hlast]
  · intro args args' o hparse hperm hdelimiters hnames
    exact parse_eq_iff.mpr ((parse_eq_iff.mp hparse).perm hperm hdelimiters hnames)

/-- The path moves to the front, and the name that counts stays the last one. -/
theorem parse_iff_reads_moved :
    let o : Options := ⟨"-", ⟨"<%", ",>", by decide, by decide⟩, some "b=c"⟩
    let args := ["--name=a", "--delimiters=<%,,>", "--name=b=c", "-"]
    let args' := ["-", "--name=a", "--name=b=c", "--delimiters=<%,,>"]
    parse args = .ok o ∧ Reads args (.ok o) ∧ o.templateId = .named "b=c" ∧
      LastValue "--name=" args (some "b=c") ∧
      args.Perm args' ∧
      args.filter (HasFlag "--delimiters=") = args'.filter (HasFlag "--delimiters=") ∧
      args.filter (HasFlag "--name=") = args'.filter (HasFlag "--name=") ∧
      parse args' = .ok o := by
  intro o args args'
  obtain ⟨hreads, hid, hmoved⟩ := parse_iff_reads
  have hparse : parse args = .ok o := by cbv
  have hlast : LastValue "--name=" args (some "b=c") := by decide +kernel
  have hperm : args.Perm args' := by decide +kernel
  have hdelimiters : args.filter (HasFlag "--delimiters=") =
      args'.filter (HasFlag "--delimiters=") := by decide +kernel
  have hnames : args.filter (HasFlag "--name=") = args'.filter (HasFlag "--name=") := by
    decide +kernel
  exact ⟨hparse, (hreads _ _).mp hparse, hid _ _ hparse _ hlast, hlast, hperm, hdelimiters,
    hnames, hmoved _ _ _ hparse hperm hdelimiters hnames⟩

end Options

end Mustache
