import TenantApi.Json.Printer
import TenantApi.Proofs.Display
import TenantApi.Proofs.JsonText
import TenantApi.Proofs.Shortest

/-!
Numbers in structured text. A numeral is digits, then perhaps a point and digits, then perhaps a
power of ten; the scanner takes it apart again when no character follows that could go on with it.
Integers and floating-point numbers are written as numerals or words that stand for them, so that
what is written is read back as the same number of the same kind.
-/

namespace TenantApi

namespace Text

section Digits
variable {n : Nat} {c : Char}

theorem natOfDigits_zeros (count : Nat) : natOfDigits (List.replicate count '0') = 0 := by
  rw [natOfDigits_chars, Nat.ofDigitChars_replicate_zero, Nat.mul_zero]

theorem natOfDigits_natDigits (n : Nat) : natOfDigits (natDigits n) = n := by
  rw [natOfDigits_chars, natDigits, Nat.ofDigitChars_ten_toDigits]

theorem natDigits_digit (member : c ∈ natDigits n) : isAsciiDigit c = true :=
  Nat.isDigit_of_mem_toDigits (by decide) (by decide) member

theorem zeros_digit {count : Nat} (member : c ∈ List.replicate count '0') :
    isAsciiDigit c = true := by
  rw [List.eq_of_mem_replicate member]
  rfl

-- No zero stands in front, unless it is the only digit.
theorem natDigits_head (given : 0 < n) : (natDigits n).head? ≠ some '0' := by
  induction n using Nat.strongRecOn with
  | ind n ih =>
      rw [natDigits, Nat.toDigits_eq_if (by decide)]
      split
      case isTrue => simpa using given.ne'
      case isFalse large =>
        have front := ih (n / 10) (by omega) (by omega)
        rwa [List.head?_append_of_ne_nil _ Nat.toDigits_ne_nil]

-- Without zeros in front, a number has no more digits than it was written with.
theorem natDigits_short {digits : List Char} (digit : ∀ c ∈ digits, isAsciiDigit c = true)
    (given : digits ≠ []) : (natDigits (natOfDigits digits)).length ≤ digits.length := by
  refine Nat.toDigits_length 10 _ _ (List.length_pos_iff.mpr given) ?_
  have small : ∀ value ∈ digits.reverse.map fun c => c.toNat - '0'.toNat, value < 10 := by
    intro value member
    obtain ⟨c, among, rfl⟩ := List.mem_map.mp member
    have bound := (digits_iff.mp (List.all_eq_true.mpr digit) c (List.mem_reverse.mp among)).2
    have bound : c.toNat ≤ 57 := bound
    have zero : '0'.toNat = 48 := rfl
    omega
  simpa [natOfDigits_eq] using Nat.ofDigits_lt_base_pow_length (by decide) small

theorem digits_span {digits rest : List Char} (digit : ∀ c ∈ digits, isAsciiDigit c = true)
    (stops : ∀ c ∈ rest.head?, isAsciiDigit c = false) :
    (digits ++ rest).takeWhile isAsciiDigit = digits ∧
      (digits ++ rest).dropWhile isAsciiDigit = rest := by
  rw [List.takeWhile_append_of_pos digit, List.dropWhile_append_of_pos digit]
  cases rest with
  | nil => simp
  | cons c rest => simp [stops c rfl]

end Digits

end Text

namespace Json

open Decimal (decimal exponentText)

def Stops (rest : List Char) : Prop :=
  ∀ c ∈ rest.head?, Text.isAsciiDigit c = false ∧ c ≠ '.' ∧ c ≠ 'e' ∧ c ≠ 'E'

structure IsWhole (whole : List Char) : Prop where
  nonempty : whole ≠ []
  digit : ∀ c ∈ whole, Text.isAsciiDigit c = true
  front : whole = ['0'] ∨ whole.head? ≠ some '0'

def pointText (places : List Char) : List Char := if places.isEmpty then [] else '.' :: places

def powerText : Option Int → List Char
  | none => []
  | some power => 'e' :: exponentText power

def signText (negative : Bool) : List Char := if negative then ['-'] else []

section Scanning
variable {whole places rest : List Char} {power : Option Int}

theorem scanWhole_read (digits : IsWhole whole)
    (stops : ∀ c ∈ rest.head?, Text.isAsciiDigit c = false) :
    scanWhole (whole ++ rest) = some (whole, rest) := by
  obtain ⟨c, more, rfl⟩ := List.exists_cons_of_ne_nil digits.nonempty
  by_cases zero : c = '0'
  · have alone := digits.front.resolve_right (by simp [zero])
    rw [alone]
    rfl
  · have span := Text.digits_span digits.digit stops
    rw [List.cons_append] at span
    rw [List.cons_append, scanWhole, if_neg zero, if_pos (digits.digit c List.mem_cons_self),
      span.1, span.2]

theorem scanFraction_read (digit : ∀ c ∈ places, Text.isAsciiDigit c = true)
    (stops : ∀ c ∈ rest.head?, Text.isAsciiDigit c = false ∧ c ≠ '.') :
    scanFraction (pointText places ++ rest) =
      (if places.isEmpty then none else some places, rest) := by
  cases places with
  | nil =>
      simp only [pointText, List.isEmpty_nil, ↓reduceIte, List.nil_append]
      unfold scanFraction
      split
      · exact absurd rfl (stops _ rfl).2
      · rfl
  | cons c more =>
      have span := Text.digits_span digit fun c member => (stops c member).1
      rw [List.cons_append] at span
      simp only [pointText, List.isEmpty_cons, Bool.false_eq_true, ↓reduceIte, List.cons_append,
        scanFraction, digit c List.mem_cons_self, span.1, span.2]

def powerDigits (power : Int) : List Char :=
  let digits := Text.natDigits power.natAbs
  if digits.length < 2 then '0' :: digits else digits

theorem powerDigits_read (power : Int) :
    powerDigits power ≠ [] ∧ (∀ c ∈ powerDigits power, Text.isAsciiDigit c = true) ∧
      Text.natOfDigits (powerDigits power) = power.natAbs := by
  have digit : ∀ c ∈ Text.natDigits power.natAbs, Text.isAsciiDigit c = true :=
    fun c member => Text.natDigits_digit member
  have value := Text.natOfDigits_natDigits power.natAbs
  simp only [powerDigits]
  split
  case isTrue =>
    refine ⟨by simp, List.forall_mem_cons.mpr ⟨rfl, digit⟩, ?_⟩
    have zero : Text.natOfDigits ['0'] = 0 := rfl
    rw [← List.singleton_append, Text.natOfDigits_append, value, zero, Nat.zero_mul, Nat.zero_add]
  case isFalse => exact ⟨Text.natDigits_ne_nil _, digit, value⟩

theorem splitSign_power (power : Int) (rest : List Char) :
    Decimal.splitSign (exponentText power ++ rest) =
      (decide (power < 0), powerDigits power ++ rest) := by
  have split : exponentText power = (if power < 0 then '-' else '+') :: powerDigits power := rfl
  rw [split]
  by_cases negative : power < 0
  · simp [negative, Decimal.splitSign]
  · simp [negative, Decimal.splitSign]

theorem scanExponent_read (stops : Stops rest) :
    scanExponent (powerText power ++ rest) = (power, rest) := by
  cases power with
  | none =>
      cases rest with
      | nil => rfl
      | cons c more =>
          obtain ⟨_, _, small, capital⟩ := stops c rfl
          simp [powerText, scanExponent, small, capital]
  | some power =>
      obtain ⟨nonempty, digit, value⟩ := powerDigits_read power
      have span := Text.digits_span digit fun c member => (stops c member).1
      have signed : Decimal.applySign (decide (power < 0)) power.natAbs = power := by
        simp only [Decimal.applySign, decide_eq_true_eq]
        omega
      simp only [powerText, List.cons_append, scanExponent, splitSign_power, span.1, span.2, value,
        signed]
      simp [nonempty]

theorem IsWhole.unsigned (digits : IsWhole whole) (negative : Bool) (rest : List Char) :
    decide ((signText negative ++ (whole ++ rest)).head? = some '-') = negative ∧
      (if (signText negative ++ (whole ++ rest)).head? = some '-'
        then (signText negative ++ (whole ++ rest)).drop 1
        else signText negative ++ (whole ++ rest)) = whole ++ rest := by
  obtain ⟨c, more, rfl⟩ := List.exists_cons_of_ne_nil digits.nonempty
  have digit := digits.digit c List.mem_cons_self
  cases negative with
  | true => exact ⟨rfl, rfl⟩
  | false =>
      have other : (c :: more ++ rest).head? ≠ some '-' := by
        rintro same
        cases same
        contradiction
      exact ⟨decide_eq_false other, if_neg other⟩

theorem fraction_stops (stops : Stops rest) :
    ∀ c ∈ (powerText power ++ rest).head?, Text.isAsciiDigit c = false ∧ c ≠ '.' := by
  cases power with
  | none => exact fun c member => ⟨(stops c member).1, (stops c member).2.1⟩
  | some power =>
      rintro c ⟨⟩
      exact ⟨rfl, by decide⟩

theorem whole_stops (stops : Stops rest) :
    ∀ c ∈ (pointText places ++ (powerText power ++ rest)).head?, Text.isAsciiDigit c = false := by
  cases places with
  | nil => exact fun c member => (fraction_stops stops c member).1
  | cons first more =>
      rintro c ⟨⟩
      rfl

-- With a point or a power of ten it is a floating-point number.
theorem scanNumber_real {negative : Bool} (digits : IsWhole whole)
    (digit : ∀ c ∈ places, Text.isAsciiDigit c = true)
    (real : places ≠ [] ∨ power ≠ none) (stops : Stops rest) :
    scanNumber (signText negative ++ (whole ++ (pointText places ++ (powerText power ++ rest)))) =
      .ok (.float (Decimal.ofScientific negative (Text.natOfDigits (whole ++ places))
        (power.getD 0 - places.length)), rest) := by
  have signed := digits.unsigned negative (pointText places ++ (powerText power ++ rest))
  have fraction : scanFraction (pointText places ++ (powerText power ++ rest)) = _ :=
    scanFraction_read digit (fraction_stops stops)
  have exponent : scanExponent (powerText power ++ rest) = (power, rest) := scanExponent_read stops
  simp only [scanNumber, signed.1, signed.2, scanWhole_read digits (whole_stops stops), fraction,
    exponent]
  cases places with
  | cons c more => simp
  | nil =>
      cases power with
      | some power => simp
      | none => simp at real

theorem scanNumber_whole {negative : Bool} (digits : IsWhole whole)
    (short : whole.length ≤ Decimal.digitLimit) (stops : Stops rest) :
    scanNumber (signText negative ++ (whole ++ rest)) =
      .ok (.int (Decimal.applySign negative (Text.natOfDigits whole)), rest) := by
  have signed := digits.unsigned negative rest
  have fraction : scanFraction (pointText [] ++ rest) = (none, rest) :=
    scanFraction_read (by simp) fun c member => ⟨(stops c member).1, (stops c member).2.1⟩
  have exponent : scanExponent (powerText none ++ rest) = (none, rest) := scanExponent_read stops
  rw [pointText, List.isEmpty_nil, if_pos rfl, List.nil_append] at fraction
  rw [powerText, List.nil_append] at exponent
  simp only [scanNumber, signed.1, signed.2,
    scanWhole_read digits fun c member => (stops c member).1, fraction, exponent]
  rw [if_neg (not_lt.mpr short)]

-- The words are tried first, but none of them begins as a number does.
theorem scanPlain_number {negative : Bool} {text : List Char} (digits : IsWhole whole) :
    scanPlain (signText negative ++ (whole ++ text)) =
      scanNumber (signText negative ++ (whole ++ text)) := by
  obtain ⟨c, more, rfl⟩ := List.exists_cons_of_ne_nil digits.nonempty
  have digit := digits.digit c List.mem_cons_self
  have other : ∀ letter : Char, Text.isAsciiDigit letter = false → letter ≠ c := by
    rintro letter no rfl
    rw [digit] at no
    contradiction
  have none : scanWord? (signText negative ++ (c :: more ++ text)) = none := by
    cases negative with
    | true =>
        simp [scanWord?, words, signText, Text.dropPrefix?, other 'I' rfl]
    | false =>
        simp [scanWord?, words, signText, Text.dropPrefix?, other 'n' rfl, other 't' rfl,
          other 'f' rfl, other 'N' rfl, other 'I' rfl, other '-' rfl]
  rw [scanPlain, none]

end Scanning

/-! ## Floating-point numbers -/

/-- The numerals, without a sign, that stand for a decimal and are read as a floating-point
number. -/
inductive Spells : List Char → Nat → Int → Prop where
  | numeral {whole places : List Char} {power : Option Int} {digits : Nat} {exponent : Int}
      (isWhole : IsWhole whole) (digit : ∀ c ∈ places, Text.isAsciiDigit c = true)
      (real : places ≠ [] ∨ power ≠ none)
      (value : decimal (Text.natOfDigits (whole ++ places)) (power.getD 0 - places.length) =
        decimal digits exponent) :
      Spells (whole ++ (pointText places ++ powerText power)) digits exponent

section Floats
variable {shown : List Char} {count : Nat}

theorem natDigits_whole (digits : Nat) : IsWhole (Text.natDigits digits) where
  nonempty := Text.natDigits_ne_nil digits
  digit _ member := Text.natDigits_digit member
  front := by
    rcases Nat.eq_zero_or_pos digits with rfl | given
    · exact Or.inl rfl
    · exact Or.inr (Text.natDigits_head given)

theorem spells_behind (isWhole : IsWhole shown) (count : Nat) :
    Spells ('0' :: '.' :: List.replicate count '0' ++ shown) (Text.natOfDigits shown)
      (-count - shown.length) := by
  have given : List.replicate count '0' ++ shown ≠ [] := by simp [isWhole.nonempty]
  have point : pointText (List.replicate count '0' ++ shown) =
      '.' :: (List.replicate count '0' ++ shown) := by simp [pointText, isWhole.nonempty]
  have digit : ∀ c ∈ List.replicate count '0' ++ shown, Text.isAsciiDigit c = true := by
    rintro c member
    rcases List.mem_append.mp member with member | member
    · exact Text.zeros_digit member
    · exact isWhole.digit c member
  have spells : Spells (Text.natDigits 0 ++ (pointText (List.replicate count '0' ++ shown) ++
      powerText none)) (Text.natOfDigits shown) (-count - shown.length) :=
    .numeral (natDigits_whole 0) digit (Or.inl given) (by
      have front : Text.natOfDigits (Text.natDigits 0) = 0 := Text.natOfDigits_natDigits 0
      rw [Text.natOfDigits_append, Text.natOfDigits_append, Text.natOfDigits_zeros, front]
      simp only [zero_mul, zero_add, Option.getD_none, List.length_append, List.length_replicate]
      congr 1
      push_cast
      ring)
  rw [point, powerText, List.append_nil] at spells
  exact spells

theorem spells_before (isWhole : IsWhole shown) (front : shown.head? ≠ some '0' ∨ count = 0) :
    Spells (shown ++ List.replicate count '0' ++ ['.', '0']) (Text.natOfDigits shown) count := by
  have whole : IsWhole (shown ++ List.replicate count '0') := by
    refine ⟨by simp [isWhole.nonempty], fun c member => ?_, ?_⟩
    · rcases List.mem_append.mp member with member | member
      · exact isWhole.digit c member
      · exact Text.zeros_digit member
    · rcases front with front | rfl
      · exact Or.inr (by rwa [List.head?_append_of_ne_nil _ isWhole.nonempty])
      · simpa using isWhole.front
  have spells : Spells (shown ++ List.replicate count '0' ++ (pointText ['0'] ++ powerText none))
      (Text.natOfDigits shown) count :=
    .numeral whole (by simp [Text.isAsciiDigit]) (Or.inl (by simp)) (by
      have zero : Text.natOfDigits ['0'] = 0 := rfl
      have shift := Decimal.decimal_shift (Text.natOfDigits shown) count (count + 1)
      rw [Text.natOfDigits_append, Text.natOfDigits_append, Text.natOfDigits_zeros, zero, ← shift]
      simp only [List.length_replicate, add_zero, List.length_cons, List.length_nil, zero_add,
        Option.getD_none, pow_succ, mul_assoc]
      congr 1
      push_cast
      ring)
  simpa [pointText, powerText] using spells

theorem spells_around (isWhole : IsWhole shown) (positive : 0 < count)
    (within : count < shown.length) :
    Spells (shown.take count ++ '.' :: shown.drop count) (Text.natOfDigits shown)
      (count - shown.length) := by
  have given : shown.drop count ≠ [] := List.ne_nil_of_length_pos (by simpa using within)
  have point : pointText (shown.drop count) = '.' :: shown.drop count := by
    simpa [pointText] using within
  have whole : IsWhole (shown.take count) := by
    refine ⟨by simp [isWhole.nonempty, positive.ne'],
      fun c member => isWhole.digit c (List.mem_of_mem_take member), ?_⟩
    rcases isWhole.front with rfl | front
    · simp only [List.length_singleton] at within
      omega
    · exact Or.inr (by rwa [List.head?_take, if_neg positive.ne'])
  have spells : Spells (shown.take count ++ (pointText (shown.drop count) ++ powerText none))
      (Text.natOfDigits shown) (count - shown.length) :=
    .numeral whole (fun c member => isWhole.digit c (List.mem_of_mem_drop member))
      (Or.inl given) (by
      rw [List.take_append_drop, List.length_drop, Option.getD_none]
      congr 1
      omega)
  simpa [point, powerText] using spells

theorem spells_scientific (isWhole : IsWhole shown) (point : Int) :
    Spells (Decimal.scientificText shown point) (Text.natOfDigits shown)
      (point - shown.length) := by
  obtain ⟨first, rest, rfl⟩ := List.exists_cons_of_ne_nil isWhole.nonempty
  have whole : IsWhole [first] := by
    refine ⟨by simp, by simpa using isWhole.digit first List.mem_cons_self, ?_⟩
    by_cases zero : first = '0'
    · exact Or.inl (by rw [zero])
    · exact Or.inr (by simpa using zero)
  have spells : Spells ([first] ++ (pointText rest ++ powerText (some (point - 1))))
      (Text.natOfDigits (first :: rest)) (point - (first :: rest).length) :=
    .numeral whole (fun c member => isWhole.digit c (List.mem_cons_of_mem first member))
      (Or.inr (by simp)) (by
      simp only [List.singleton_append, Option.getD_some, List.length_cons]
      congr 1
      push_cast
      ring)
  simpa [Decimal.scientificText, pointText, powerText] using spells

theorem spells_plain {digits : Nat} {exponent : Int} (zero : digits = 0 → exponent = 0) :
    Spells (Decimal.plainText (Text.natDigits digits) ((Text.natDigits digits).length + exponent))
      digits exponent := by
  have value := Text.natOfDigits_natDigits digits
  have isWhole := natDigits_whole digits
  have front : (Text.natDigits digits).head? ≠ some '0' ∨ exponent.toNat = 0 := by
    rcases Nat.eq_zero_or_pos digits with none | given
    · exact Or.inr (by rw [zero none]; rfl)
    · exact Or.inl (Text.natDigits_head given)
  generalize Text.natDigits digits = shown at value isWhole front ⊢
  unfold Decimal.plainText
  split
  case isTrue behind =>
    have spells := spells_behind isWhole (-((shown.length : Int) + exponent)).toNat
    rw [value] at spells
    convert spells using 1
    omega
  case isFalse visible =>
    split
    case isTrue before =>
      have count : ((shown.length : Int) + exponent).toNat - shown.length = exponent.toNat := by
        omega
      have spells := spells_before isWhole front
      rw [value] at spells
      rw [count]
      convert spells using 1
      omega
    case isFalse around =>
      have positive : 0 < ((shown.length : Int) + exponent).toNat := by omega
      have spells := spells_around isWhole positive (by omega)
      rw [value] at spells
      convert spells using 1
      omega

end Floats

/-- The texts of a floating-point number: a word, or a numeral of which every decimal is read as the
number. -/
inductive FloatText (x : Float) : List Char → Prop where
  | word {text : List Char} (listed : (text, .float x) ∈ words) : FloatText x text
  | numeral {negative : Bool} {text : List Char} {digits : Nat} {exponent : Int}
      (spells : Spells text digits exponent)
      (reads : ∀ other shift, decimal other shift = decimal digits exponent →
        Decimal.ofScientific negative other shift = x) :
      FloatText x (signText negative ++ text)

section Written
variable {rest : List Char}

theorem render_text (x : Float) : FloatText x (Decimal.render Decimal.structuredLayout x) := by
  unfold Decimal.render
  split
  case h_1 parts =>
    rw [Decimal.eq_notANumber parts]
    exact .word (by simp [words, Decimal.structuredLayout])
  case h_2 negative parts =>
    rw [Decimal.eq_infinity parts]
    cases negative with
    | true => exact .word (by simp [words, Decimal.structuredLayout])
    | false => exact .word (by simp [words, Decimal.structuredLayout])
  case h_3 negative significand exponent parts =>
    obtain ⟨digits, power, shown, zero, reads⟩ := Decimal.shortestDigits_read parts
    have signed (magnitude : List Char) :
        (if negative then '-' :: magnitude else magnitude) = signText negative ++ magnitude := by
      cases negative <;> rfl
    rw [shown, signed]
    suffices spells : Spells _ digits power from .numeral spells reads
    split
    case isTrue => exact spells_plain zero
    case isFalse =>
      have scientific := spells_scientific (natDigits_whole digits)
        ((Text.natDigits digits).length + power)
      rwa [Text.natOfDigits_natDigits, add_sub_cancel_left] at scientific

/-- A floating-point number is read back from its structured text, whichever it is. -/
theorem scanPlain_float (x : Float) (stops : Stops rest) :
    scanPlain (Decimal.render Decimal.structuredLayout x ++ rest) = .ok (.float x, rest) := by
  have form := render_text x
  generalize Decimal.render Decimal.structuredLayout x = written at form
  cases form with
  | word listed =>
      simp only [words, List.mem_cons, Prod.mk.injEq, reduceCtorEq, and_false, float.injEq,
        List.not_mem_nil, or_false, false_or] at listed
      rcases listed with ⟨rfl, rfl⟩ | ⟨rfl, rfl⟩ | ⟨rfl, rfl⟩ <;> rfl
  | numeral spells reads =>
      cases spells with
      | numeral isWhole digit real value =>
          simp only [List.append_assoc]
          rw [scanPlain_number isWhole, scanNumber_real isWhole digit real stops, reads _ _ value]

/-- An integer with digits within the limit is read back from its text. -/
theorem scanPlain_int {value : Int}
    (short : (Text.natDigits value.natAbs).length ≤ Decimal.digitLimit) (stops : Stops rest) :
    scanPlain (Text.intDigits value ++ rest) = .ok (.int value, rest) := by
  have isWhole := natDigits_whole value.natAbs
  have signed : Text.intDigits value =
      signText (decide (value < 0)) ++ Text.natDigits value.natAbs := by
    unfold Text.intDigits signText
    split
    case isTrue negative => simp [negative]
    case isFalse whole => simp [whole]
  have applied : Decimal.applySign (decide (value < 0)) value.natAbs = value := by
    simp only [Decimal.applySign, decide_eq_true_eq]
    omega
  rw [signed, List.append_assoc, scanPlain_number isWhole, scanNumber_whole isWhole short stops,
    Text.natOfDigits_natDigits, applied]

end Written

end Json

end TenantApi
