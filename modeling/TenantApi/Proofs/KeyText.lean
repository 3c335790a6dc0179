import Mathlib
import TenantApi.IdToken.Signed
import TenantApi.Proofs.Text

/-!
Text in the form of an asymmetric key. A secret has that form exactly when it begins with the name
of a key format, or when somewhere in it an opening boundary line, some text and the closing
boundary line of the same label follow one another.
-/

namespace TenantApi.IdToken

def IsBoundary (kind label : String) (line : List Char) : Prop :=
  ∃ first last, (first = '-' ∨ first = ' ') ∧ (last = '-' ∨ last = ' ') ∧
    line = "----".toList ++ first :: (kind ++ " " ++ label).toList ++ last :: "----".toList

def IsLineEnd (mark : List Char) : Prop := mark = ['\n'] ∨ mark = ['\r', '\n']

def Closing (label : String) (text : List Char) : Prop :=
  ∃ mark line, IsLineEnd mark ∧ IsBoundary "END" label line ∧ text = mark ++ line

/-- A labelled block, from its opening to its closing boundary; it is not empty. -/
def Block (label : String) (text : List Char) : Prop :=
  ∃ line mark body closing, IsBoundary "BEGIN" label line ∧ IsLineEnd mark ∧ body ≠ [] ∧
    Closing label closing ∧ text = line ++ mark ++ body ++ closing

def KeyText (secret : List Char) : Prop :=
  (∃ label ∈ pemLabels, ∃ before block after, Block label block ∧
    secret = before ++ block ++ after) ∨
  ∃ format ∈ sshFormats, ∃ after, secret = format.toList ++ after

section Lines
variable {text rest : List Char} {kind label : String}

theorem isDashOrBlank_iff {c : Char} : isDashOrBlank c = true ↔ c = '-' ∨ c = ' ' := by
  simp [isDashOrBlank]

-- One character of the two, and what is done with the text after it.
theorem dash_iff {next : List Char → Option (List Char)} :
    (if text.head?.any isDashOrBlank = true then (some (text.drop 1)).bind next
      else none.bind next) = some rest ↔
      ∃ c tail, (c = '-' ∨ c = ' ') ∧ text = c :: tail ∧ next tail = some rest := by
  cases text with
  | nil => simp
  | cons c tail =>
      by_cases dash : isDashOrBlank c = true
      · have named := isDashOrBlank_iff.mp dash
        simp only [List.head?_cons, Option.any_some, dash, ↓reduceIte, List.drop_one,
          List.tail_cons, Option.bind_some, List.cons.injEq]
        constructor
        · intro found
          exact ⟨c, tail, named, ⟨rfl, rfl⟩, found⟩
        · rintro ⟨_, _, _, ⟨_, rfl⟩, found⟩
          exact found
      · have other : ¬(c = '-' ∨ c = ' ') := fun named => dash (isDashOrBlank_iff.mpr named)
        simp only [List.head?_cons, Option.any_some, dash, Bool.false_eq_true, ↓reduceIte,
          Option.bind_none, reduceCtorEq, List.cons.injEq, false_iff]
        rintro ⟨d, _, named, ⟨rfl, _⟩, _⟩
        exact other named

theorem afterBoundary_iff :
    afterBoundary? kind label text = some rest ↔
      ∃ line, IsBoundary kind label line ∧ text = line ++ rest := by
  simp only [afterBoundary?, Option.bind_eq_bind, Option.bind_eq_some_iff, Text.dropPrefix_iff,
    dash_iff]
  constructor
  · rintro ⟨_, rfl, first, _, isFirst, rfl, _, rfl, last, _, isLast, rfl, rfl⟩
    exact ⟨_, ⟨first, last, isFirst, isLast, rfl⟩, by simp⟩
  · rintro ⟨_, ⟨first, last, isFirst, isLast, rfl⟩, rfl⟩
    refine ⟨_, ?_, first, _, isFirst, rfl, _, rfl, last, _, isLast, rfl, rfl⟩
    simp

theorem afterLineEnd_iff :
    afterLineEnd? text = some rest ↔ ∃ mark, IsLineEnd mark ∧ text = mark ++ rest := by
  simp only [IsLineEnd]
  constructor
  · intro found
    simp only [afterLineEnd?] at found
    split at found
    case h_1 tail =>
      simp only [Option.some.injEq] at found
      subst found
      exact ⟨_, .inl rfl, rfl⟩
    case h_2 tail =>
      simp only [Option.some.injEq] at found
      subst found
      exact ⟨_, .inr rfl, rfl⟩
    case h_3 => contradiction
  · rintro ⟨_, rfl | rfl, rfl⟩ <;> rfl

end Lines

section Blocks
variable {text : List Char} {label : String}

theorem closing_here :
    ((afterLineEnd? text).bind (afterBoundary? "END" label)).isSome = true ↔
      ∃ closing after, Closing label closing ∧ text = closing ++ after := by
  simp only [Option.isSome_iff_exists, Option.bind_eq_some_iff, afterLineEnd_iff, afterBoundary_iff]
  constructor
  · rintro ⟨after, _, ⟨mark, isMark, rfl⟩, line, isLine, rfl⟩
    exact ⟨_, after, ⟨mark, line, isMark, isLine, rfl⟩, by simp⟩
  · rintro ⟨_, after, ⟨mark, line, isMark, isLine, rfl⟩, rfl⟩
    exact ⟨after, _, ⟨mark, isMark, by simp⟩, line, isLine, rfl⟩

-- A search that goes from one character to the next.
theorem somewhere_iff {search : List Char → Bool} (here : List Char → Bool)
    (never : here [] = false) (stop : search [] = false)
    (step : ∀ c rest, search (c :: rest) = (here (c :: rest) || search rest)) (text : List Char) :
    search text = true ↔ ∃ before after, text = before ++ after ∧ here after = true := by
  induction text with
  | nil =>
      simp only [stop, Bool.false_eq_true, false_iff]
      rintro ⟨before, after, empty, found⟩
      obtain ⟨rfl, rfl⟩ := List.append_eq_nil_iff.mp empty.symm
      rw [never] at found
      contradiction
  | cons c rest ih =>
      rw [step, Bool.or_eq_true, ih]
      constructor
      · rintro (found | ⟨before, after, rfl, found⟩)
        · exact ⟨[], c :: rest, rfl, found⟩
        · exact ⟨c :: before, after, rfl, found⟩
      · rintro ⟨before, after, whole, found⟩
        cases before with
        | nil =>
            rw [List.nil_append] at whole
            exact .inl (whole ▸ found)
        | cons d before =>
            rw [List.cons_append, List.cons.injEq] at whole
            exact .inr ⟨before, after, whole.2, found⟩

theorem closesLater_iff :
    closesLater label text = true ↔
      ∃ body closing after, Closing label closing ∧ text = body ++ closing ++ after := by
  rw [somewhere_iff (fun rest => ((afterLineEnd? rest).bind (afterBoundary? "END" label)).isSome)
    rfl rfl fun _ _ => rfl]
  simp only [closing_here]
  constructor
  · rintro ⟨body, _, rfl, closing, after, isClosing, rfl⟩
    exact ⟨body, closing, after, isClosing, by simp⟩
  · rintro ⟨body, closing, after, isClosing, rfl⟩
    exact ⟨body, closing ++ after, by simp, closing, after, isClosing, rfl⟩

theorem opensHere_iff :
    opensHere text = true ↔
      ∃ label ∈ pemLabels, ∃ block after, Block label block ∧ text = block ++ after := by
  simp only [opensHere, List.any_eq_true]
  apply exists_congr
  intro label
  apply and_congr_right
  intro _
  constructor
  · intro opens
    split at opens
    case h_2 => contradiction
    case h_1 c rest found =>
      rw [Option.bind_eq_some_iff] at found
      obtain ⟨_, opened, ended⟩ := found
      obtain ⟨line, isLine, rfl⟩ := afterBoundary_iff.mp opened
      obtain ⟨mark, isMark, rfl⟩ := afterLineEnd_iff.mp ended
      obtain ⟨body, closing, after, isClosing, rfl⟩ := closesLater_iff.mp opens
      exact ⟨_, after, ⟨line, mark, c :: body, closing, isLine, isMark, by simp, isClosing, rfl⟩,
        by simp⟩
  · rintro ⟨_, after, ⟨line, mark, body, closing, isLine, isMark, full, isClosing, rfl⟩, rfl⟩
    obtain ⟨c, body, rfl⟩ := List.exists_cons_of_ne_nil full
    have opened : afterBoundary? "BEGIN" label (line ++ mark ++ (c :: body) ++ closing ++ after) =
        some (mark ++ (c :: body) ++ closing ++ after) :=
      afterBoundary_iff.mpr ⟨line, isLine, by simp⟩
    have ended : afterLineEnd? (mark ++ (c :: body) ++ closing ++ after) =
        some (c :: (body ++ closing ++ after)) :=
      afterLineEnd_iff.mpr ⟨mark, isMark, by simp⟩
    rw [opened, Option.bind_some, ended]
    exact closesLater_iff.mpr ⟨body, closing, after, isClosing, rfl⟩

-- A block may begin anywhere.
theorem isPem_iff :
    isPem text = true ↔
      ∃ label ∈ pemLabels, ∃ before block after, Block label block ∧
        text = before ++ block ++ after := by
  rw [somewhere_iff opensHere rfl rfl fun _ _ => rfl]
  simp only [opensHere_iff]
  constructor
  · rintro ⟨before, _, rfl, label, known, block, after, isBlock, rfl⟩
    exact ⟨label, known, before, block, after, isBlock, by simp⟩
  · rintro ⟨label, known, before, block, after, isBlock, rfl⟩
    exact ⟨before, block ++ after, by simp, label, known, block, after, isBlock, rfl⟩

end Blocks

theorem asymmetric_iff (secret : List Char) : isAsymmetricKey secret = true ↔ KeyText secret := by
  simp only [isAsymmetricKey, KeyText, Bool.or_eq_true, isPem_iff, List.any_eq_true,
    Text.startsWith, Option.isSome_iff_exists, Text.dropPrefix_iff]

end TenantApi.IdToken
