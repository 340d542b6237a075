-- SUMMARY: Key paths read byte by byte, by a machine that slices out their parts.
import Mathlib.Data.List.DropRight
import Mustache.Proofs.Contracts
import Mustache.Proofs.Encoding

/-!
# The key path machine

A key path can be read in one pass over the bytes of a tag, by a machine that remembers where
a name began and slices the name out of the text when it ends. The machine goes by bytes and
slices by offsets, so its slices might break characters apart. They do not, since blanks and
dots are single bytes, and no byte of a longer character is one of them. The machine reads
what `KeyPath.parse?` reads, and it keeps the contract of every slice
(`KeyPath.Machine.components?_eq`).

What the machine has still to read in each of its states is said by `Mode.outcome`, in terms
of the characters that are left, trimmed and split at dots.
-/

namespace Mustache.KeyPath

/-! ## The machine -/

namespace Machine

/-- What a byte means to the machine. -/
inductive Class where
  | blank
  | dot
  | letter
  deriving DecidableEq

def dot : UInt8 := 46

def classOfByte (b : UInt8) : Class :=
  if Text.isBlankByte b then .blank else if b = dot then .dot else .letter

inductive State where
  /-- Nothing but blanks was read. -/
  | initial
  /-- The last byte is a dot in front of the first name. -/
  | leadingDot
  /-- The last byte belongs to a name, which begins at the offset. -/
  | name (start : Nat)
  /-- The last byte is a dot behind a name. -/
  | waiting
  /-- The last byte is a blank behind the key path. -/
  | suffix

/-- Reads a byte at an offset, unless it does not fit. The result is the next state, with the
    part that ends here, if there is one. -/
def step (text : String) (pos : Nat) :
    State → Class → Except Breach (Option (State × List String))
  | .initial, .blank => .ok (some (.initial, []))
  | .initial, .dot => do
    let part ← Checked.slice text pos (pos + 1)
    .ok (some (.leadingDot, [part]))
  | .initial, .letter => .ok (some (.name pos, []))
  | .leadingDot, .blank => .ok (some (.suffix, []))
  | .leadingDot, .dot => .ok none
  | .leadingDot, .letter => .ok (some (.name pos, []))
  | .name start, .blank => do
    let part ← Checked.slice text start pos
    .ok (some (.suffix, [part]))
  | .name start, .dot => do
    let part ← Checked.slice text start pos
    .ok (some (.waiting, [part]))
  | .name start, .letter => .ok (some (.name start, []))
  | .waiting, .blank => .ok none
  | .waiting, .dot => .ok none
  | .waiting, .letter => .ok (some (.name pos, []))
  | .suffix, .blank => .ok (some (.suffix, []))
  | .suffix, .dot => .ok none
  | .suffix, .letter => .ok none

/-- The part that ends with the text, unless the key path is not complete. -/
def finish (text : String) (pos : Nat) : State → Except Breach (Option (List String))
  | .initial | .waiting => .ok none
  | .leadingDot | .suffix => .ok (some [])
  | .name start => do
    let part ← Checked.slice text start pos
    .ok (some [part])

/-- Puts the parts that end with a step in front of those that the next state leads to. -/
def proceed (rest : State → Except Breach (Option (List String))) :
    Option (State × List String) → Except Breach (Option (List String))
  | none => .ok none
  | some (next, parts) => do
    let later ← rest next
    .ok (later.map (parts ++ ·))

/-- Reads bytes from an offset of the text on. -/
def run (text : String) : List UInt8 → (pos : Nat) → State → Except Breach (Option (List String))
  | [], pos, state => finish text pos state
  | b :: bs, pos, state => do
    let found ← step text pos state (classOfByte b)
    proceed (fun next => run text bs (pos + 1) next) found

/-- The parts of the key path in a text. -/
def components? (text : String) : Except Breach (Option (List String)) :=
  run text (Text.bytes text) 0 .initial

end Machine

/-! ## Names between dots -/

/-- The names that are written between dots, if they are names. -/
def names? (dotted : List Char) : Option (List (List Char)) :=
  if (dotted.splitOn '.').all isName then some (dotted.splitOn '.') else none

def classOf (c : Char) : Machine.Class :=
  if Text.isBlank c then .blank else if c = '.' then .dot else .letter

theorem classOf_eq_blank_iff {c : Char} : classOf c = .blank ↔ Text.isBlank c = true := by
  unfold classOf
  split
  · simp_all
  · split <;> simp_all

theorem classOf_eq_dot_iff {c : Char} : classOf c = .dot ↔ c = '.' := by
  unfold classOf
  split
  · rename_i hblank
    simp only [reduceCtorEq, false_iff]
    rintro rfl
    exact absurd hblank (by decide)
  · split <;> simp_all

theorem isName_iff {cs : List Char} :
    isName cs = true ↔ cs ≠ [] ∧ ∀ c ∈ cs, classOf c = .letter := by
  have hletter : ∀ c, classOf c = .letter ↔ (!Text.isBlank c && c != '.') = true := by
    intro c
    unfold classOf
    split
    · simp_all
    · split <;> simp_all
  simp only [isName, Bool.and_eq_true, Bool.not_eq_true', List.isEmpty_eq_false_iff,
    List.all_eq_true, hletter]

section

variable {name dotted cs : List Char} {c : Char}

theorem splitOn_append (hdot : '.' ∉ name) (dotted : List Char) :
    (name ++ dotted).splitOn '.' = (dotted.splitOn '.').modifyHead (name ++ ·) := by
  induction name with
  | nil =>
    cases hsplit : dotted.splitOn '.' <;> simp [hsplit]
  | cons c name ih =>
    rw [List.mem_cons, not_or] at hdot
    have hc : (c == '.') = false := by simpa using Ne.symm hdot.1
    rw [List.cons_append, List.splitOn_eq_splitOnP, List.splitOnP_cons_eq_if_modifyHead, hc,
      if_neg Bool.false_ne_true, ← List.splitOn_eq_splitOnP, ih hdot.2, List.modifyHead_modifyHead]
    rfl

theorem dot_not_mem_of_isName (h : isName name = true) : '.' ∉ name := by
  intro hmem
  exact absurd ((isName_iff.mp h).2 '.' hmem) (by decide)

theorem names?_of_isName (h : isName name = true) : names? name = some [name] := by
  have hsplit := splitOn_append (dot_not_mem_of_isName h) []
  rw [List.append_nil] at hsplit
  simp [names?, hsplit, h]

/-- A dot divides a name from the names behind it. -/
theorem names?_append_dot (h : isName name = true) :
    names? (name ++ '.' :: dotted) = (names? dotted).map (name :: ·) := by
  have hsplit : (name ++ '.' :: dotted).splitOn '.' = name :: dotted.splitOn '.' := by
    rw [splitOn_append (dot_not_mem_of_isName h)]
    simp [List.splitOn_eq_splitOnP, List.splitOnP_cons_eq_if_modifyHead]
  rw [names?, names?, hsplit, List.all_cons, h, Bool.true_and]
  split <;> rfl

theorem names?_nil : names? [] = none := by decide

theorem names?_dot : names? ('.' :: dotted) = none := by
  simp [names?, List.splitOn_eq_splitOnP, List.splitOnP_cons_eq_if_modifyHead, isName]

/-- A blank in front of the first dot belongs to no name. -/
theorem names?_append_blank (hdot : '.' ∉ name) (hc : classOf c = .blank) :
    names? (name ++ c :: dotted) = none := by
  have hne : c ≠ '.' := by
    rintro rfl
    exact absurd hc (by decide)
  have hmem : '.' ∉ name ++ [c] := by simp [hdot, hne.symm]
  have hsplit := splitOn_append hmem dotted
  rw [List.append_assoc, List.singleton_append] at hsplit
  rw [names?, hsplit]
  cases hrest : dotted.splitOn '.' with
  | nil => exact absurd hrest (List.splitOn_ne_nil _ _)
  | cons first others =>
    have hname : isName (name ++ [c] ++ first) = false := by
      rw [Bool.eq_false_iff]
      intro h
      have hletter := (isName_iff.mp h).2 c (by simp)
      rw [hc] at hletter
      cases hletter
    simp only [List.modifyHead_cons, List.all_cons, hname, Bool.false_and, Bool.false_eq_true,
      if_false]

/-! ## Trimming at the end -/

def trimEnd (cs : List Char) : List Char := cs.rdropWhile Text.isBlank

theorem trimEnd_append (name cs : List Char) :
    trimEnd (name ++ cs) = if trimEnd cs = [] then trimEnd name else name ++ trimEnd cs := by
  simp only [trimEnd, List.rdropWhile, List.reverse_append, List.dropWhile_append,
    List.isEmpty_iff, List.reverse_eq_nil_iff]
  split <;> simp

theorem trimEnd_cons_blank (hc : classOf c = .blank) :
    trimEnd (c :: cs) = if trimEnd cs = [] then [] else c :: trimEnd cs := by
  have hblank := classOf_eq_blank_iff.mp hc
  have hone : trimEnd [c] = [] := by simp [trimEnd, List.rdropWhile, hblank]
  simpa [hone] using trimEnd_append [c] cs

theorem trimEnd_cons (hc : classOf c ≠ .blank) : trimEnd (c :: cs) = c :: trimEnd cs := by
  have hblank := mt classOf_eq_blank_iff.mpr hc
  have hone : trimEnd [c] = [c] := by simp [trimEnd, List.rdropWhile, hblank]
  have happend := trimEnd_append [c] cs
  rw [List.singleton_append, hone] at happend
  rw [happend]
  split <;> simp_all

end

/-- The parts of a key path without blanks around it. -/
def parts? : List Char → Option (List (List Char))
  | ['.'] => some [['.']]
  | '.' :: dotted => (names? dotted).map (['.'] :: ·)
  | dotted => names? dotted

theorem mapM_ofList? (ws : List (List Char)) :
    (ws.mapM Name.ofList?).map (·.map Name.text) =
      if ws.all isName then some (ws.map String.ofList) else none := by
  induction ws with
  | nil => rfl
  | cons w ws ih =>
    rw [List.mapM_cons, List.all_cons]
    by_cases hw : isName w = true
    · simp only [Name.ofList?, hw, Bool.true_and]
      cases hrest : ws.mapM Name.ofList? with
      | none => simp_all
      | some names =>
        simp_all
    · simp [Name.ofList?, hw]

theorem ofNames?_eq (fromCurrent : Bool) (dotted : List Char) :
    (ofNames? fromCurrent dotted).map components =
      (names? dotted).map fun names =>
        (if fromCurrent then ["."] else []) ++ names.map String.ofList := by
  have hnames := mapM_ofList? (dotted.splitOn '.')
  rw [ofNames?, names?]
  cases hsplit : (dotted.splitOn '.').mapM Name.ofList? with
  | none =>
    rw [hsplit] at hnames
    split at hnames <;> simp_all
  | some names =>
    rw [hsplit] at hnames
    cases names with
    | nil => simp_all
    | cons first others =>
      split at hnames
      · rename_i hall
        have htexts : (first :: others).map Name.text =
            (dotted.splitOn '.').map String.ofList := Option.some.inj hnames
        rw [if_pos hall, Option.map_some, Option.map_some, ← htexts]
        rfl
      · cases hnames

/-- Reading a key path is trimming it and splitting it at dots. -/
theorem parse?_eq (text : String) :
    (parse? text).map components =
      (parts? (trimEnd (text.toList.dropWhile Text.isBlank))).map (·.map String.ofList) := by
  have htrim : Text.trim Text.isBlank text.toList =
      trimEnd (text.toList.dropWhile Text.isBlank) := rfl
  rw [parse?, htrim]
  generalize trimEnd (text.toList.dropWhile Text.isBlank) = cs
  split
  · rfl
  · rename_i dotted hne
    rw [ofNames?_eq, parts?, Option.map_map]
    · rfl
    · exact hne
  · rename_i hcurrent hdot
    rw [ofNames?_eq, parts?]
    · rfl
    · exact hcurrent
    · exact hdot

/-! ## What is left to read -/

/-- A state of the machine, with the name that is being read in place of its offset. -/
inductive Mode where
  | initial
  | leadingDot
  | name (read : List Char)
  | waiting
  | suffix

namespace Mode

/-- The parts that are still to come, if the rest of the text completes the key path. -/
def outcome : Mode → List Char → Option (List (List Char))
  | initial, cs => parts? (trimEnd (cs.dropWhile Text.isBlank))
  | leadingDot, cs => if trimEnd cs = [] then some [] else names? (trimEnd cs)
  | name read, cs => names? (read ++ trimEnd cs)
  | waiting, cs => names? (trimEnd cs)
  | suffix, cs => if trimEnd cs = [] then some [] else none

variable {read cs : List Char} {c : Char}

theorem outcome_initial_blank (hc : classOf c = .blank) :
    initial.outcome (c :: cs) = initial.outcome cs := by
  rw [outcome, List.dropWhile_cons_of_pos (classOf_eq_blank_iff.mp hc), outcome]

theorem outcome_initial_dot :
    initial.outcome ('.' :: cs) = (leadingDot.outcome cs).map (['.'] :: ·) := by
  rw [outcome, List.dropWhile_cons_of_neg (by decide), trimEnd_cons (by decide), outcome]
  cases trimEnd cs with
  | nil => rfl
  | cons c cs => rfl

theorem outcome_initial_letter (hc : classOf c = .letter) :
    initial.outcome (c :: cs) = (name [c]).outcome cs := by
  have hblank : classOf c ≠ .blank := by simp [hc]
  have hdot : c ≠ '.' := by
    rintro rfl
    exact absurd hc (by decide)
  rw [outcome, List.dropWhile_cons_of_neg (mt classOf_eq_blank_iff.mpr hblank),
    trimEnd_cons hblank, outcome, parts?]
  · rfl
  · simp [hdot]
  · simp [hdot]

theorem outcome_suffix_blank (hc : classOf c = .blank) :
    suffix.outcome (c :: cs) = suffix.outcome cs := by
  simp only [outcome, trimEnd_cons_blank hc]
  split <;> simp_all

theorem outcome_suffix (hc : classOf c ≠ .blank) : suffix.outcome (c :: cs) = none := by
  simp [outcome, trimEnd_cons hc]

theorem outcome_waiting_blank (hc : classOf c = .blank) : waiting.outcome (c :: cs) = none := by
  rw [outcome, trimEnd_cons_blank hc]
  split
  · exact names?_nil
  · exact names?_append_blank List.not_mem_nil hc

theorem outcome_waiting_dot : waiting.outcome ('.' :: cs) = none := by
  rw [outcome, trimEnd_cons (by decide), names?_dot]

theorem outcome_waiting_letter (hc : classOf c = .letter) :
    waiting.outcome (c :: cs) = (name [c]).outcome cs := by
  have hblank : classOf c ≠ .blank := by simp [hc]
  rw [outcome, outcome, trimEnd_cons hblank, List.singleton_append]

theorem outcome_leadingDot_blank (hc : classOf c = .blank) :
    leadingDot.outcome (c :: cs) = suffix.outcome cs := by
  simp only [outcome, trimEnd_cons_blank hc]
  split
  · rfl
  · exact names?_append_blank List.not_mem_nil hc

/-- Behind a leading dot, what is not blank is read as behind any other dot. -/
theorem outcome_leadingDot (hc : classOf c ≠ .blank) :
    leadingDot.outcome (c :: cs) = waiting.outcome (c :: cs) := by
  simp [outcome, trimEnd_cons hc]

theorem outcome_name_nil (h : isName read = true) : (name read).outcome [] = some [read] := by
  have hnil : trimEnd [] = [] := rfl
  rw [outcome, hnil, List.append_nil, names?_of_isName h]

theorem outcome_name_blank (h : isName read = true) (hc : classOf c = .blank) :
    (name read).outcome (c :: cs) = (suffix.outcome cs).map (read :: ·) := by
  simp only [outcome, trimEnd_cons_blank hc]
  split
  · rw [List.append_nil, names?_of_isName h]
    rfl
  · exact names?_append_blank (dot_not_mem_of_isName h) hc

theorem outcome_name_dot (h : isName read = true) :
    (name read).outcome ('.' :: cs) = (waiting.outcome cs).map (read :: ·) := by
  rw [outcome, trimEnd_cons (by decide), names?_append_dot h, outcome]

theorem outcome_name_letter (hc : classOf c = .letter) :
    (name read).outcome (c :: cs) = (name (read ++ [c])).outcome cs := by
  have hblank : classOf c ≠ .blank := by simp [hc]
  rw [outcome, outcome, trimEnd_cons hblank, List.append_assoc, List.singleton_append]

end Mode

/-! ## Bytes and characters -/

namespace Machine

theorem classOfByte_eq (b : UInt8) : classOfByte b = classOf (Char.ofUInt8 b) := by
  have hdot : b = dot ↔ Char.ofUInt8 b = '.' := by
    rw [← Char.toNat_inj, ← UInt8.toNat_inj]
    rfl
  simp only [classOfByte, classOf, Text.isBlankByte, hdot]

theorem classOf_of_not_ascii {c : Char} (hc : 128 ≤ c.toNat) : classOf c = .letter := by
  have hne : ∀ a : Char, a.toNat < 128 → c ≠ a := by
    rintro a ha rfl
    omega
  simp [classOf, Text.isBlank, hne]

/-- To the machine, a byte means what its character means. -/
theorem classOfByte_of_mem {c : Char} {b : UInt8} (hb : b ∈ String.utf8EncodeChar c) :
    classOfByte b = classOf c := by
  rw [classOfByte_eq]
  by_cases hc : c.toNat < 128
  · rw [Text.utf8EncodeChar_of_ascii hc, List.mem_singleton] at hb
    have htoNat : (Char.ofUInt8 b).toNat = c.toNat := by
      have hcode : b.toNat = c.toNat := by
        rw [hb, Text.asciiByte, UInt8.toNat_ofNat']
        omega
      exact hcode
    rw [Char.toNat_inj.mp htoNat]
  · have hcode := Nat.le_of_not_lt hc
    have hbyte : 128 ≤ (Char.ofUInt8 b).toNat := Text.le_toNat_of_mem_utf8EncodeChar hcode hb
    rw [classOf_of_not_ascii hcode, classOf_of_not_ascii hbyte]

@[simp] theorem proceed_none (rest : State → Except Breach (Option (List String))) :
    proceed rest none = .ok none := rfl

/-- A step at which no part ends. -/
@[simp] theorem proceed_nil (rest : State → Except Breach (Option (List String))) (next : State) :
    proceed rest (some (next, [])) = rest next := by
  rw [proceed]
  cases rest next with
  | error breach => rfl
  | ok later => cases later <;> rfl

/-- Bytes inside a name leave the machine where it is. -/
theorem run_letters (text : String) {es : List UInt8} (h : ∀ b ∈ es, classOfByte b = .letter)
    (bs : List UInt8) (pos start : Nat) :
    run text (es ++ bs) pos (.name start) = run text bs (pos + es.length) (.name start) := by
  induction es generalizing pos with
  | nil => rfl
  | cons b es ih =>
    rw [List.forall_mem_cons] at h
    rw [List.cons_append, run, h.1, step, Checked.ok_bind, proceed_nil, ih h.2, List.length_cons,
      Nat.add_assoc, Nat.add_comm 1]

/-- The machine reads the bytes of a character in one step. -/
theorem run_utf8EncodeChar (text : String) (c : Char) (bs : List UInt8) (pos : Nat)
    (state : State) :
    run text (String.utf8EncodeChar c ++ bs) pos state =
      step text pos state (classOf c) >>= proceed (run text bs (pos + c.utf8Size)) := by
  have hclass := fun b => classOfByte_of_mem (c := c) (b := b)
  have hlength := String.length_utf8EncodeChar c
  cases henc : String.utf8EncodeChar c with
  | nil => simp at henc
  | cons b es =>
    rw [henc, List.forall_mem_cons] at hclass
    rw [henc, List.length_cons] at hlength
    rw [List.cons_append, run, hclass.1]
    cases es with
    | nil =>
      rw [List.nil_append, ← hlength]
      rfl
    | cons b' es =>
      have hletter : classOf c = .letter := by
        apply classOf_of_not_ascii
        rw [← Nat.not_lt]
        intro hascii
        rw [Text.utf8EncodeChar_of_ascii hascii] at henc
        cases henc
      rw [hletter] at hclass ⊢
      have hpos : pos + 1 + (b' :: es).length = pos + c.utf8Size := by omega
      have hrest := run_letters text hclass.2 bs (pos + 1)
      rw [hpos] at hrest
      cases state with
      | initial | leadingDot | name | waiting =>
        simp only [step, Checked.ok_bind, proceed_nil, hrest]
      | suffix => rfl

/-! ## The run of the machine -/

/-- Behind the characters, the machine is in a state of the given mode. -/
inductive Tracks : (before : List Char) → State → Mode → Prop
  | initial {before : List Char} : Tracks before .initial .initial
  | leadingDot {before : List Char} : Tracks before .leadingDot .leadingDot
  | name {front read : List Char} :
      isName read = true →
      Tracks (front ++ read) (.name (String.ofList front).utf8ByteSize) (.name read)
  | waiting {before : List Char} : Tracks before .waiting .waiting
  | suffix {before : List Char} : Tracks before .suffix .suffix

theorem isName_singleton {c : Char} (hc : classOf c = .letter) : isName [c] = true :=
  isName_iff.mpr ⟨List.cons_ne_nil _ _, by simpa using hc⟩

theorem isName_append {name : List Char} {c : Char} (h : isName name = true)
    (hc : classOf c = .letter) : isName (name ++ [c]) = true := by
  obtain ⟨-, hletters⟩ := isName_iff.mp h
  refine isName_iff.mpr ⟨by simp, ?_⟩
  intro a ha
  obtain ha | ha := List.mem_append.mp ha
  · exact hletters a ha
  · rwa [List.mem_singleton.mp ha]

/-- What was read of a name can be sliced out of the text. -/
theorem slice_name (front read rest : List Char) :
    Checked.slice (.ofList (front ++ read ++ rest)) (String.ofList front).utf8ByteSize
      (String.ofList (front ++ read)).utf8ByteSize = .ok (.ofList read) := by
  rw [List.append_assoc, String.ofList_append, String.ofList_append, String.ofList_append,
    String.utf8ByteSize_append, Checked.slice_append]

/-- A step at which a part ends. -/
theorem proceed_part {rest : State → Except Breach (Option (List String))} {next : State}
    {later : Option (List (List Char))} (h : rest next = .ok (later.map (·.map String.ofList)))
    (part : List Char) :
    proceed rest (some (next, [.ofList part])) =
      .ok ((later.map (part :: ·)).map (·.map String.ofList)) := by
  rw [proceed, h, Checked.ok_bind]
  cases later <;> rfl

/-- From any state, the machine reads what is left to read in its mode. -/
theorem run_eq {before rest : List Char} {state : State} {mode : Mode}
    (h : Tracks before state mode) :
    run (.ofList (before ++ rest)) (Text.bytes (.ofList rest))
        (String.ofList before).utf8ByteSize state =
      .ok ((mode.outcome rest).map (·.map String.ofList)) := by
  induction rest generalizing before state mode with
  | nil =>
    rw [String.ofList_nil, Text.bytes_empty, run]
    cases h with
    | initial | leadingDot | waiting | suffix => rfl
    | name hread =>
      rw [finish, slice_name, Checked.ok_bind, Mode.outcome_name_nil hread]
      rfl
  | cons c rest ih =>
    have hsize : (String.ofList before).utf8ByteSize + c.utf8Size =
        (String.ofList (before ++ [c])).utf8ByteSize := by
      simp [String.ofList_append]
    have ih {state : State} {mode : Mode} (h : Tracks (before ++ [c]) state mode) :
        run (.ofList (before ++ c :: rest)) (Text.bytes (.ofList rest))
            ((String.ofList before).utf8ByteSize + c.utf8Size) state =
          .ok ((mode.outcome rest).map (·.map String.ofList)) := by
      have hrest := ih h
      rwa [List.append_assoc, List.singleton_append, ← hsize] at hrest
    rw [Text.bytes_ofList_cons, run_utf8EncodeChar]
    cases hc : classOf c with
    | blank =>
      cases h with
      | initial =>
        rw [step, Checked.ok_bind, proceed_nil, ih .initial, Mode.outcome_initial_blank hc]
      | leadingDot =>
        rw [step, Checked.ok_bind, proceed_nil, ih .suffix, Mode.outcome_leadingDot_blank hc]
      | name hread =>
        rw [step, slice_name, Checked.ok_bind, Checked.ok_bind, proceed_part (ih .suffix),
          Mode.outcome_name_blank hread hc]
      | waiting => rw [step, Checked.ok_bind, proceed_none, Mode.outcome_waiting_blank hc]; rfl
      | suffix =>
        rw [step, Checked.ok_bind, proceed_nil, ih .suffix, Mode.outcome_suffix_blank hc]
    | dot =>
      obtain rfl := classOf_eq_dot_iff.mp hc
      cases h with
      | initial =>
        have hslice : Checked.slice (.ofList (before ++ '.' :: rest))
            (String.ofList before).utf8ByteSize ((String.ofList before).utf8ByteSize + 1) =
              .ok (.ofList ['.']) := by
          have hdot := slice_name before ['.'] rest
          rwa [← hsize, List.append_assoc, List.singleton_append] at hdot
        rw [step, hslice, Checked.ok_bind, Checked.ok_bind, proceed_part (ih .leadingDot),
          Mode.outcome_initial_dot]
      | leadingDot =>
        rw [step, Checked.ok_bind, proceed_none, Mode.outcome_leadingDot (by decide),
          Mode.outcome_waiting_dot]
        rfl
      | name hread =>
        rw [step, slice_name, Checked.ok_bind, Checked.ok_bind, proceed_part (ih .waiting),
          Mode.outcome_name_dot hread]
      | waiting =>
        rw [step, Checked.ok_bind, proceed_none, Mode.outcome_waiting_dot]
        rfl
      | suffix =>
        rw [step, Checked.ok_bind, proceed_none, Mode.outcome_suffix (by decide)]
        rfl
    | letter =>
      have hname : Tracks (before ++ [c]) _ _ := .name (isName_singleton hc)
      cases h with
      | initial =>
        rw [step, Checked.ok_bind, proceed_nil, ih hname, Mode.outcome_initial_letter hc]
      | leadingDot =>
        rw [step, Checked.ok_bind, proceed_nil, ih hname, Mode.outcome_leadingDot (by simp [hc]),
          Mode.outcome_waiting_letter hc]
      | @name front read hread =>
        have hlonger : Tracks (front ++ (read ++ [c])) _ _ := .name (isName_append hread hc)
        rw [← List.append_assoc] at hlonger
        rw [step, Checked.ok_bind, proceed_nil, ih hlonger, Mode.outcome_name_letter hc]
      | waiting =>
        rw [step, Checked.ok_bind, proceed_nil, ih hname, Mode.outcome_waiting_letter hc]
      | suffix =>
        rw [step, Checked.ok_bind, proceed_none, Mode.outcome_suffix (by simp [hc])]
        rfl

/-- The machine reads the key path of any text, and all its slices keep their contract. -/
theorem components?_eq (text : String) :
    components? text = .ok ((parse? text).map components) := by
  obtain ⟨cs, rfl⟩ := text.exists_eq_ofList
  have hrun := @run_eq [] cs _ _ .initial
  rw [parse?_eq, String.toList_ofList]
  exact hrun

end Machine

end Mustache.KeyPath
