import TenantApi.Proofs.QuotaGrammar
import TenantApi.Decimal.Integer

/-!
Integers in ASCII text. The liberal reader takes a text exactly when it is a literal with blanks
around it: a sign or none, and runs of digits with one underscore between neighbours. The digits
alone are counted against the limit, zeros in front among them.
-/

namespace TenantApi.Decimal

def Blank (c : Char) : Prop := c = ' ' ∨ ('\t' ≤ c ∧ c ≤ '\r') ∨ ('\x1c' ≤ c ∧ c ≤ '\x1f')

/-- Runs of digits, none of them empty, with one underscore between neighbours. -/
structure IsRuns (text : List Char) (runs : List (List Char)) : Prop where
  written : text = Text.join ['_'] runs
  some : runs ≠ []
  full : ∀ run ∈ runs, run ≠ []
  digits : ∀ run ∈ runs, ∀ c ∈ run, '0' ≤ c ∧ c ≤ '9'

def IsLiteral (text : List Char) (n : Int) : Prop :=
  ∃ sign body runs, text = sign ++ body ∧ (sign = [] ∨ sign = ['+'] ∨ sign = ['-']) ∧
    IsRuns body runs ∧ runs.flatten.length ≤ 4300 ∧
    n = (if sign = ['-'] then -1 else 1) *
      (Nat.ofDigits 10 (runs.flatten.reverse.map fun c => c.toNat - '0'.toNat) : Nat)

def IsInteger (text : List Char) (n : Int) : Prop :=
  ∃ before literal after, text = before ++ literal ++ after ∧ (∀ c ∈ before, Blank c) ∧
    (∀ c ∈ after, Blank c) ∧ IsLiteral literal n

/-! ## Characters -/

section Characters
variable {c : Char}

theorem ascii_cases {p : Char → Prop} (all : ∀ n : Fin 128, p (Char.ofNat n))
    (ascii : c.toNat < 128) : p c := by
  simpa using all ⟨c.toNat, ascii⟩

theorem isBlank_iff (ascii : c.toNat < 128) : Text.isBlank c = true ↔ Blank c := by
  simp only [Blank]
  exact ascii_cases (p := fun c => Text.isBlank c = true ↔
    c = ' ' ∨ ('\t' ≤ c ∧ c ≤ '\r') ∨ ('\x1c' ≤ c ∧ c ≤ '\x1f')) (by decide +kernel) ascii

theorem decimalValue_ascii (ascii : c.toNat < 128) :
    Text.decimalValue? c =
      if '0' ≤ c ∧ c ≤ '9' then some (c.toNat - '0'.toNat) else none :=
  ascii_cases (p := fun c => Text.decimalValue? c =
    if '0' ≤ c ∧ c ≤ '9' then some (c.toNat - '0'.toNat) else none) (by decide +kernel) ascii

end Characters

/-! ## Digits -/

section Digits
variable {text : List Char} {runs : List (List Char)} {digit? : Char → Option Nat}

-- After a digit the run that goes on may be over; no other run is empty.
theorem digitRun_iff {afterDigit : Bool} {values : List Nat} :
    digitRun digit? afterDigit text = some values ↔
      [] ∉ (Text.splitAt '_' text).drop (if afterDigit then 1 else 0) ∧
        List.Forall₂ (fun c value => digit? c = some value)
          (Text.splitAt '_' text).flatten values := by
  induction text generalizing afterDigit values with
  | nil => cases afterDigit <;> simp [digitRun, Text.splitAt, eq_comm]
  | cons c rest ih =>
      by_cases mark : c = '_'
      · subst mark
        cases afterDigit with
        | true => simp [digitRun, Text.splitAt, ih]
        | false => simp [digitRun, Text.splitAt]
      · obtain ⟨piece, pieces, cut⟩ := List.exists_cons_of_ne_nil (@Text.splitAt_ne_nil '_' rest)
        have later := @ih true
        simp only [cut, ↓reduceIte, List.drop_succ_cons, List.drop_zero, List.flatten_cons] at later
        have first : [] ∉ ((c :: piece) :: pieces).drop (if afterDigit then 1 else 0) ↔
            [] ∉ pieces := by
          cases afterDigit <;> simp
        simp only [digitRun, mark, ↓reduceIte, Text.splitAt, cut, first, List.flatten_cons,
          List.cons_append, List.forall₂_cons_left_iff]
        cases known : digit? c with
        | none => simp
        | some value =>
            simp only [Option.map_eq_some_iff, later, Option.some.injEq]
            constructor
            · rintro ⟨others, ⟨full, read⟩, rfl⟩
              exact ⟨full, value, others, rfl, read, rfl⟩
            · rintro ⟨full, _, others, rfl, read, rfl⟩
              exact ⟨others, ⟨full, read⟩, rfl⟩

theorem digit_ne_mark {c : Char} (digit : '0' ≤ c ∧ c ≤ '9') : c ≠ '_' := by
  rintro rfl
  exact absurd digit (by decide)

theorem IsRuns.split (formed : IsRuns text runs) : Text.splitAt '_' text = runs := by
  rw [formed.written]
  apply Text.splitAt_join runs formed.some
  intro run member mark
  exact digit_ne_mark (formed.digits run member '_' mark) rfl

def digitValues (digits : List Char) : List Nat := digits.map fun c => c.toNat - '0'.toNat

theorem valueOfDigits_eq (digits : List Char) :
    valueOfDigits (digitValues digits) =
      Nat.ofDigits 10 (digits.reverse.map fun c => c.toNat - '0'.toNat) := by
  rw [← Text.natOfDigits_eq, Text.natOfDigits, valueOfDigits, digitValues, List.foldl_map]
  rfl

theorem digits_read (ascii : ∀ c ∈ text, c.toNat < 128) {values : List Nat} :
    List.Forall₂ (fun c value => Text.decimalValue? c = some value) text values ↔
      (∀ c ∈ text, '0' ≤ c ∧ c ≤ '9') ∧ values = digitValues text := by
  induction text generalizing values with
  | nil => simp [digitValues]
  | cons c rest ih =>
      have tail := fun d member => ascii d (List.mem_cons_of_mem c member)
      rw [List.forall₂_cons_left_iff, decimalValue_ascii (ascii c List.mem_cons_self)]
      simp only [ih tail, Option.ite_none_right_eq_some, Option.some.injEq, List.forall_mem_cons,
        digitValues, List.map_cons]
      constructor
      · rintro ⟨_, _, ⟨digit, rfl⟩, ⟨digits, rfl⟩, rfl⟩
        exact ⟨⟨digit, digits⟩, rfl⟩
      · rintro ⟨⟨digit, digits⟩, rfl⟩
        exact ⟨_, _, ⟨digit, rfl⟩, ⟨digits, rfl⟩, rfl⟩

theorem runs_iff (ascii : ∀ c ∈ text, c.toNat < 128) {values : List Nat} :
    digitRun Text.decimalValue? false text = some values ↔
      ∃ runs, IsRuns text runs ∧ values = digitValues runs.flatten := by
  have inside : ∀ c ∈ (Text.splitAt '_' text).flatten, c.toNat < 128 := by
    intro c member
    obtain ⟨piece, listed, found⟩ := List.mem_flatten.mp member
    exact ascii c (Text.mem_splitAt listed found)
  rw [digitRun_iff, digits_read inside]
  constructor
  · rintro ⟨full, digits, rfl⟩
    refine ⟨Text.splitAt '_' text,
      ⟨(Text.join_splitAt text).symm, Text.splitAt_ne_nil text, ?_, ?_⟩, rfl⟩
    · rintro run member rfl
      exact full member
    · intro run member c among
      exact digits c (List.mem_flatten_of_mem member among)
  · rintro ⟨runs, formed, rfl⟩
    rw [formed.split]
    refine ⟨fun empty => formed.full [] empty rfl, ?_, rfl⟩
    intro c member
    obtain ⟨run, among, inside⟩ := List.mem_flatten.mp member
    exact formed.digits run among c inside

end Digits

/-! ## Literals -/

section Literals
variable {text : List Char} {n : Int}

theorem IsRuns.head {body : List Char} {runs : List (List Char)} (formed : IsRuns body runs) :
    ∃ c rest, body = c :: rest ∧ '0' ≤ c ∧ c ≤ '9' := by
  obtain ⟨run, others, rfl⟩ := List.exists_cons_of_ne_nil formed.some
  obtain ⟨c, rest, rfl⟩ := List.exists_cons_of_ne_nil (formed.full run List.mem_cons_self)
  have digit := formed.digits _ List.mem_cons_self c List.mem_cons_self
  cases others with
  | nil => exact ⟨c, rest, formed.written, digit⟩
  | cons next more => exact ⟨c, _, formed.written, digit⟩

-- No character of a literal is a blank, so trimming finds where it begins and ends.
theorem IsLiteral.visible (formed : IsLiteral text n) : ∀ c ∈ text, ¬Blank c := by
  obtain ⟨sign, body, runs, rfl, signed, inside, _⟩ := formed
  intro c member blank
  have cases : c = '+' ∨ c = '-' ∨ c = '_' ∨ ('0' ≤ c ∧ c ≤ '9') := by
    rcases List.mem_append.mp member with first | later
    · rcases signed with rfl | rfl | rfl <;> simp_all
    · rw [inside.written] at later
      rcases Text.mem_join later with mark | ⟨run, among, found⟩
      · exact .inr (.inr (.inl mark))
      · exact .inr (.inr (.inr (inside.digits run among c found)))
  rcases cases with rfl | rfl | rfl | digit
  · exact absurd blank (by simp only [Blank]; decide)
  · exact absurd blank (by simp only [Blank]; decide)
  · exact absurd blank (by simp only [Blank]; decide)
  · have low : '\x1f' < '0' := by decide
    rcases blank with rfl | ⟨_, small⟩ | ⟨_, small⟩
    · exact absurd digit (by decide)
    · exact absurd (small.trans_lt (by decide : '\r' < '0')) (not_lt.mpr digit.1)
    · exact absurd (small.trans_lt low) (not_lt.mpr digit.1)

theorem splitSign_cases (text : List Char) :
    ∃ sign, text = sign ++ (splitSign text).2 ∧ (sign = [] ∨ sign = ['+'] ∨ sign = ['-']) ∧
      ((splitSign text).1 = true ↔ sign = ['-']) := by
  unfold splitSign
  split
  · exact ⟨['-'], rfl, by simp, by simp⟩
  · exact ⟨['+'], rfl, by simp, by simp⟩
  · exact ⟨[], rfl, by simp, by simp⟩

theorem splitSign_digit {c : Char} {rest : List Char} (digit : '0' ≤ c ∧ c ≤ '9') :
    splitSign (c :: rest) = (false, c :: rest) := by
  unfold splitSign
  split
  · next same => cases same; exact absurd digit (by decide)
  · next same => cases same; exact absurd digit (by decide)
  · rfl

theorem applySign_eq {negative : Bool} {sign : List Char} (same : negative = true ↔ sign = ['-'])
    (magnitude : Nat) :
    applySign negative magnitude = (if sign = ['-'] then -1 else 1) * (magnitude : Int) := by
  by_cases minus : sign = ['-']
  · simp [applySign, same.mpr minus, minus]
  · have positive : negative = false := by simpa [minus] using same
    simp [applySign, positive, minus]

/-- What the reader makes of a text without blanks around it. -/
theorem literal_iff (ascii : ∀ c ∈ text, c.toNat < 128) :
    IsLiteral text n ↔
      ∃ values, digitRun Text.decimalValue? false (splitSign text).2 = some values ∧
        ¬digitLimit < values.length ∧ applySign (splitSign text).1 (valueOfDigits values) = n := by
  have limit : digitLimit = 4300 := rfl
  constructor
  · rintro ⟨sign, body, runs, rfl, signed, inside, short, rfl⟩
    obtain ⟨c, rest, begun, digit⟩ := inside.head
    have cut : (splitSign (sign ++ body)).2 = body ∧
        ((splitSign (sign ++ body)).1 = true ↔ sign = ['-']) := by
      rcases signed with rfl | rfl | rfl
      · simp [begun, splitSign_digit digit]
      · simp [splitSign]
      · simp [splitSign]
    have within : ∀ c ∈ body, c.toNat < 128 := fun c member => ascii c (by simp [member])
    rw [cut.1]
    refine ⟨_, (runs_iff within).mpr ⟨runs, inside, rfl⟩, ?_, ?_⟩
    · rw [digitValues, List.length_map, limit]
      omega
    · rw [applySign_eq cut.2, valueOfDigits_eq]
  · rintro ⟨values, read, short, rfl⟩
    obtain ⟨sign, cut, signed, minus⟩ := splitSign_cases text
    have within : ∀ c ∈ (splitSign text).2, c.toNat < 128 := by
      intro c member
      apply ascii c
      rw [cut]
      exact List.mem_append_right sign member
    obtain ⟨runs, inside, rfl⟩ := (runs_iff within).mp read
    refine ⟨sign, _, runs, cut, signed, inside, ?_, ?_⟩
    · rw [digitValues, List.length_map, limit] at short
      omega
    · rw [applySign_eq minus, valueOfDigits_eq]

theorem readInteger_literal :
    readInteger text = some n ↔
      ∃ values, digitRun Text.decimalValue? false (splitSign (Text.trim Text.isBlank text)).2 =
          some values ∧ ¬digitLimit < values.length ∧
        applySign (splitSign (Text.trim Text.isBlank text)).1 (valueOfDigits values) = n := by
  simp only [readInteger]
  split
  · next failed => simp [failed]
  · next values read => simp [read]

theorem readInteger_iff (ascii : ∀ c ∈ text, c.toNat < 128) :
    readInteger text = some n ↔ IsInteger text n := by
  rw [readInteger_literal]
  constructor
  · intro read
    have middle : Text.trim Text.isBlank text = _ := rfl
    obtain ⟨before, after, cut, blankBefore, blankAfter, _⟩ := Text.trim_iff.mp middle
    have part {c : Char} (member : c ∈ before ∨ c ∈ Text.trim Text.isBlank text ∨ c ∈ after) :
        c.toNat < 128 := by
      apply ascii c
      rw [cut]
      simpa [or_assoc] using member
    have formed := (literal_iff fun c member => part (.inr (.inl member))).mpr read
    refine ⟨before, _, after, cut, ?_, ?_, formed⟩
    · intro c member
      exact (isBlank_iff (part (.inl member))).mp (blankBefore c member)
    · intro c member
      exact (isBlank_iff (part (.inr (.inr member)))).mp (blankAfter c member)
  · rintro ⟨before, literal, after, rfl, blankBefore, blankAfter, formed⟩
    have part {c : Char} (member : c ∈ before ∨ c ∈ literal ∨ c ∈ after) : c.toNat < 128 := by
      apply ascii c
      simpa [or_assoc] using member
    have trimmed : Text.trim Text.isBlank (before ++ literal ++ after) = literal := by
      refine Text.trim_iff.mpr ⟨before, after, rfl, ?_, ?_, Text.trimmed_of_kept ?_⟩
      · exact fun c member => (isBlank_iff (part (.inl member))).mpr (blankBefore c member)
      · exact fun c member => (isBlank_iff (part (.inr (.inr member)))).mpr (blankAfter c member)
      · intro c member
        apply Bool.eq_false_iff.mpr
        intro blank
        exact formed.visible c member ((isBlank_iff (part (.inr (.inl member)))).mp blank)
    rw [trimmed]
    exact (literal_iff fun c member => part (.inr (.inl member))).mp formed

end Literals

end TenantApi.Decimal
