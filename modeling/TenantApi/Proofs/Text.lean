import Mathlib.Data.List.TakeWhile
import Mathlib.Data.Nat.Digits.Defs
import TenantApi.Text.Ascii
import TenantApi.Text.Blank
import TenantApi.Text.Digit
import TenantApi.Text.Split

/-!
Cutting and joining are inverse to each other. A cut at the first or last separator is told apart
from all other cuts by the side on which no separator is left; a list of pieces is the split of a
text exactly when no piece holds a separator and the pieces join to the text. Trimming leaves the
one middle part that neither begins nor ends with a character to be dropped. A run of digits has the
value of its digits, least significant digit first.
-/

namespace TenantApi.Text

section Cutting
variable {separator : Char} {text before after : List Char}

theorem cutFirst_none_iff : cutFirst separator text = none ↔ separator ∉ text := by
  induction text with
  | nil => simp [cutFirst]
  | cons c rest ih =>
      by_cases same : c = separator
      · simp [cutFirst, same]
      · simp [cutFirst, same, ih, Ne.symm same]

theorem cutFirst_iff :
    cutFirst separator text = some (before, after) ↔
      text = before ++ separator :: after ∧ separator ∉ before := by
  induction text generalizing before with
  | nil => simp [cutFirst]
  | cons c rest ih =>
      by_cases same : c = separator
      · subst c
        cases before with
        | nil => simp [cutFirst, eq_comm]
        | cons head tail =>
            simp only [cutFirst, ↓reduceIte, Option.some.injEq, Prod.mk.injEq, List.cons_append,
              List.cons.injEq, List.mem_cons]
            constructor
            · rintro ⟨impossible, _⟩
              simp at impossible
            · rintro ⟨⟨first, _⟩, absent⟩
              exact absurd (Or.inl first) absent
      · cases before with
        | nil => simp [cutFirst, same]
        | cons head tail =>
            simp only [cutFirst, same, ↓reduceIte, Option.map_eq_some_iff, Prod.exists,
              Prod.mk.injEq, List.cons.injEq, List.cons_append, List.mem_cons, not_or]
            constructor
            · rintro ⟨left, right, found, ⟨rfl, rfl⟩, rfl⟩
              have cut := ih.mp found
              exact ⟨⟨rfl, cut.1⟩, fun h => same h.symm, cut.2⟩
            · rintro ⟨⟨rfl, cut⟩, _, absent⟩
              exact ⟨tail, after, ih.mpr ⟨cut, absent⟩, ⟨rfl, rfl⟩, rfl⟩

theorem cutLast_iff :
    cutLast separator text = some (before, after) ↔
      text = before ++ separator :: after ∧ separator ∉ after := by
  simp only [cutLast, Option.map_eq_some_iff, Prod.exists, Prod.mk.injEq]
  constructor
  · rintro ⟨left, right, found, rfl, rfl⟩
    have cut := cutFirst_iff.mp found
    have turned : text = (left ++ separator :: right).reverse := by
      rw [← cut.1, List.reverse_reverse]
    exact ⟨by simpa using turned, by simpa using cut.2⟩
  · rintro ⟨rfl, absent⟩
    refine ⟨after.reverse, before.reverse, cutFirst_iff.mpr ⟨by simp, by simpa using absent⟩, ?_⟩
    simp

theorem cutLast_none_iff : cutLast separator text = none ↔ separator ∉ text := by
  rw [cutLast, Option.map_eq_none_iff, cutFirst_none_iff, List.mem_reverse]

end Cutting

theorem dropPrefix_iff {start text rest : List Char} :
    dropPrefix? start text = some rest ↔ text = start ++ rest := by
  induction start generalizing text with
  | nil => simp [dropPrefix?]
  | cons a start ih =>
      cases text with
      | nil => simp [dropPrefix?]
      | cons b text =>
          by_cases same : a = b
          · simp [dropPrefix?, same, ih]
          · simp [dropPrefix?, same, Ne.symm same]

section Splitting
variable {separator : Char}

theorem splitAt_ne_nil (text : List Char) : splitAt separator text ≠ [] := by
  cases text with
  | nil => simp [splitAt]
  | cons c rest =>
      simp only [splitAt]
      split
      · simp
      · split <;> simp

theorem splitAt_separator (rest : List Char) :
    splitAt separator (separator :: rest) = [] :: splitAt separator rest := by
  simp [splitAt]

theorem splitAt_free (piece : List Char) (free : separator ∉ piece) :
    splitAt separator piece = [piece] := by
  induction piece with
  | nil => rfl
  | cons c rest ih =>
      simp only [List.mem_cons, not_or] at free
      simp [splitAt, Ne.symm free.1, ih free.2]

theorem splitAt_append (piece rest : List Char) (free : separator ∉ piece) :
    splitAt separator (piece ++ separator :: rest) = piece :: splitAt separator rest := by
  induction piece with
  | nil => exact splitAt_separator rest
  | cons c tail ih =>
      simp only [List.mem_cons, not_or] at free
      simp [splitAt, Ne.symm free.1, ih free.2]

theorem splitAt_concat (text rest : List Char) :
    splitAt separator (text ++ separator :: rest) =
      splitAt separator text ++ splitAt separator rest := by
  induction text with
  | nil => exact splitAt_separator rest
  | cons c tail ih =>
      obtain ⟨piece, pieces, cut⟩ := List.exists_cons_of_ne_nil (@splitAt_ne_nil separator tail)
      rw [cut] at ih
      by_cases same : c = separator
      · simp [splitAt, same, ih, cut]
      · simp [splitAt, same, ih, cut]

theorem mem_join {pieces : List (List Char)} {c : Char} (member : c ∈ join [separator] pieces) :
    c = separator ∨ ∃ piece ∈ pieces, c ∈ piece := by
  induction pieces with
  | nil => contradiction
  | cons piece rest ih =>
      cases rest with
      | nil => exact .inr ⟨piece, List.mem_cons_self, member⟩
      | cons next others =>
          simp only [join, List.append_assoc, List.mem_append, List.mem_singleton] at member
          rcases member with inside | mark | later
          · exact .inr ⟨piece, List.mem_cons_self, inside⟩
          · exact .inl mark
          · rcases ih later with mark | ⟨other, inside, found⟩
            · exact .inl mark
            · exact .inr ⟨other, List.mem_cons_of_mem piece inside, found⟩

theorem splitAt_join (pieces : List (List Char)) (some : pieces ≠ [])
    (free : ∀ piece ∈ pieces, separator ∉ piece) :
    splitAt separator (join [separator] pieces) = pieces := by
  induction pieces with
  | nil => contradiction
  | cons piece rest ih =>
      have alone := free piece List.mem_cons_self
      cases rest with
      | nil => exact splitAt_free piece alone
      | cons next others =>
          have tail := ih (by simp) (fun p member => free p (List.mem_cons_of_mem piece member))
          simpa [join, tail] using splitAt_append piece (join [separator] (next :: others)) alone

theorem join_splitAt (text : List Char) : join [separator] (splitAt separator text) = text := by
  induction text with
  | nil => rfl
  | cons c rest ih =>
      obtain ⟨piece, pieces, cut⟩ := List.exists_cons_of_ne_nil (@splitAt_ne_nil separator rest)
      by_cases same : c = separator
      · subst c
        rw [splitAt_separator, cut]
        rw [cut] at ih
        simpa [join] using ih
      · rw [cut] at ih
        simp only [splitAt, same, ↓reduceIte, cut]
        cases pieces with
        | nil => simpa [join] using ih
        | cons next others => simpa [join] using ih

theorem join_mem {pieces : List (List Char)} {piece : List Char} {c : Char}
    (listed : piece ∈ pieces) (inside : c ∈ piece) : c ∈ join [separator] pieces := by
  induction pieces with
  | nil => contradiction
  | cons first rest ih =>
      cases rest with
      | nil => rwa [← List.mem_singleton.mp listed]
      | cons next others =>
          rcases List.mem_cons.mp listed with rfl | later
          · simp [join, inside]
          · simp [join, ih later]

theorem mem_splitAt {text piece : List Char} {c : Char} (listed : piece ∈ splitAt separator text)
    (inside : c ∈ piece) : c ∈ text := by
  rw [← @join_splitAt separator text]
  exact join_mem listed inside

theorem splitAt_pieces_free (text : List Char) :
    ∀ piece ∈ splitAt separator text, separator ∉ piece := by
  induction text with
  | nil => simp [splitAt]
  | cons c rest ih =>
      obtain ⟨piece, pieces, cut⟩ := List.exists_cons_of_ne_nil (@splitAt_ne_nil separator rest)
      rw [cut] at ih
      by_cases same : c = separator
      · simpa [splitAt, same, cut] using ih
      · simpa [splitAt, same, cut, Ne.symm same] using ih

end Splitting

section Ascii

def IsAscii (text : String) : Prop := ∀ c ∈ text.toList, c.toNat < 128

theorem notAscii_none_iff {text : List Char} :
    notAscii? text = none ↔ ∀ c ∈ text, c.toNat < 128 := by
  simp only [notAscii?]
  split
  case h_1 plain =>
    rw [List.dropWhile_eq_nil_iff] at plain
    simpa [isAsciiChar] using plain
  case h_2 c rest found =>
    have first : isAsciiChar c = false := by
      have ends := List.head?_dropWhile_not isAsciiChar text
      simpa [found] using ends
    have member : c ∈ text := by
      have inside : c ∈ text.dropWhile isAsciiChar := by simp [found]
      exact (List.dropWhile_sublist _).mem inside
    simp only [reduceCtorEq, false_iff, not_forall]
    exact ⟨c, member, by simpa [isAsciiChar] using first⟩

theorem requireAscii_iff {text : String} : requireAscii text = .ok () ↔ IsAscii text := by
  rw [requireAscii, IsAscii, ← notAscii_none_iff]
  cases notAscii? text.toList <;> simp

end Ascii

section Trimming
variable {drop : Char → Bool} {text middle : List Char}

structure Trimmed (drop : Char → Bool) (text : List Char) : Prop where
  first : ∀ c, text.head? = some c → drop c = false
  last : ∀ c, text.getLast? = some c → drop c = false

theorem trimmed_of_kept (kept : ∀ c ∈ text, drop c = false) : Trimmed drop text :=
  ⟨fun c first => kept c (List.mem_of_head? first),
    fun c last => kept c (List.mem_of_getLast? last)⟩

theorem trimStart_iff : trimStart drop text = middle ↔
    ∃ before, text = before ++ middle ∧ (∀ c ∈ before, drop c = true) ∧
      ∀ c, middle.head? = some c → drop c = false := by
  constructor
  · rintro rfl
    refine ⟨text.takeWhile drop, List.takeWhile_append_dropWhile.symm,
      List.all_eq_true.mp List.all_takeWhile, fun c first => ?_⟩
    have ends := List.head?_dropWhile_not drop text
    rw [trimStart] at first
    simpa [first] using ends
  · rintro ⟨before, rfl, dropped, first⟩
    rw [trimStart, List.dropWhile_append_of_pos dropped]
    cases middle with
    | nil => rfl
    | cons c rest => simp [first c rfl]

theorem trimEnd_iff : trimEnd drop text = middle ↔
    ∃ after, text = middle ++ after ∧ (∀ c ∈ after, drop c = true) ∧
      ∀ c, middle.getLast? = some c → drop c = false := by
  have turned : trimEnd drop text = middle ↔ trimStart drop text.reverse = middle.reverse := by
    rw [trimEnd, trimStart, List.reverse_eq_iff]
  rw [turned, trimStart_iff, List.head?_reverse]
  constructor
  · rintro ⟨before, whole, dropped, last⟩
    refine ⟨before.reverse, ?_, fun c member => dropped c (List.mem_reverse.mp member), last⟩
    simpa using congrArg List.reverse whole
  · rintro ⟨after, rfl, dropped, last⟩
    exact ⟨after.reverse, by simp, fun c member => dropped c (List.mem_reverse.mp member), last⟩

theorem trim_iff : trim drop text = middle ↔
    ∃ before after, text = before ++ middle ++ after ∧ (∀ c ∈ before, drop c = true) ∧
      (∀ c ∈ after, drop c = true) ∧ Trimmed drop middle := by
  rw [trim, trimEnd_iff]
  constructor
  · rintro ⟨after, whole, droppedAfter, last⟩
    obtain ⟨before, rfl, droppedBefore, first⟩ := trimStart_iff.mp whole
    refine ⟨before, after, by simp, droppedBefore, droppedAfter, fun c here => ?_, last⟩
    exact first c (by simp [here])
  · rintro ⟨before, after, rfl, droppedBefore, droppedAfter, ends⟩
    cases middle with
    | nil =>
        refine ⟨[], trimStart_iff.mpr ⟨before ++ after, by simp, ?_, by simp⟩, by simp, by simp⟩
        exact List.forall_mem_append.mpr ⟨droppedBefore, droppedAfter⟩
    | cons c rest =>
        refine ⟨after, trimStart_iff.mpr ⟨before, by simp, droppedBefore, ?_⟩, droppedAfter,
          ends.last⟩
        exact fun d here => ends.first d (by simpa using here)

end Trimming

section Digits
variable {text : List Char}

theorem digits_iff : text.all isAsciiDigit = true ↔ ∀ c ∈ text, '0' ≤ c ∧ c ≤ '9' := by
  simp [List.all_eq_true, isAsciiDigit]

theorem natOfDigits_chars (digits : List Char) :
    natOfDigits digits = Nat.ofDigitChars 10 digits 0 := by
  simp only [natOfDigits, Nat.ofDigitChars_eq_foldl, Nat.mul_comm]
  rfl

theorem natOfDigits_append (front back : List Char) :
    natOfDigits (front ++ back) = natOfDigits front * 10 ^ back.length + natOfDigits back := by
  rw [natOfDigits_chars, Nat.ofDigitChars_append, Nat.ofDigitChars_eq_ofDigitChars_zero,
    natOfDigits_chars, natOfDigits_chars, Nat.mul_comm]

theorem natOfDigits_reverse (turned : List Char) :
    natOfDigits turned.reverse = Nat.ofDigits 10 (turned.map fun c => c.toNat - 48) := by
  induction turned with
  | nil => rfl
  | cons c rest ih =>
      have last : natOfDigits [c] = c.toNat - 48 := Nat.zero_add _
      rw [List.reverse_cons, natOfDigits_append, ih, last, List.length_singleton, pow_one,
        List.map_cons, Nat.ofDigits_cons]
      omega

theorem natOfDigits_eq (digits : List Char) :
    natOfDigits digits = Nat.ofDigits 10 (digits.reverse.map fun c => c.toNat - '0'.toNat) := by
  simpa using natOfDigits_reverse digits.reverse

end Digits

end TenantApi.Text
