import TenantApi.Json.Bytes
import TenantApi.Proofs.Fallible
import TenantApi.Proofs.Text
import TenantApi.Text.Blank

/-!
The grammar of structured text, without fuel. `Reads` says what a beginning of a text stands for
and what is left of it, one rule for each form of a value; its tokens are strings, words, and
numbers that do not have too many digits. The scanner takes exactly what the grammar derives: every
derivation uses up characters. With fuel above twice the length of the text, more of it changes
nothing, neither a value nor a fault.
-/

namespace TenantApi.Json

/-- What a derivation is about: a value, or what is inside the brackets of one. -/
inductive Parsed where
  | value (value : Json)
  | items (items : List Json)
  | members (members : Members)

/-- The members of an object with repeated keys, the last of which counts. -/
def collect (members : Members) : Members :=
  members.foldl (fun members m => insert m.1 m.2 members) []

inductive Reads (halves : Halves) : List Char → Parsed → List Char → Prop where
  | string {rest left text} (token : scanString halves rest = .ok (text, left)) :
      Reads halves ('"' :: rest) (.value (.string text)) left
  | emptyArray {rest left} (close : skipGaps rest = ']' :: left) :
      Reads halves ('[' :: rest) (.value (.array [])) left
  | array {rest left items} (inside : Reads halves (skipGaps rest) (.items items) left) :
      Reads halves ('[' :: rest) (.value (.array items)) left
  | emptyObject {rest left} (close : skipGaps rest = '}' :: left) :
      Reads halves ('{' :: rest) (.value (.object [])) left
  | object {rest left members} (inside : Reads halves (skipGaps rest) (.members members) left) :
      Reads halves ('{' :: rest) (.value (.object (collect members))) left
  | plain {text left value} (token : scanPlain text = .ok (value, left)) :
      Reads halves text (.value value) left
  | lastItem {text rest left item} (first : Reads halves text (.value item) rest)
      (close : skipGaps rest = ']' :: left) : Reads halves text (.items [item]) left
  | item {text rest more left item items} (first : Reads halves text (.value item) rest)
      (comma : skipGaps rest = ',' :: more)
      (others : Reads halves (skipGaps more) (.items items) left) :
      Reads halves text (.items (item :: items)) left
  | lastMember {rest afterKey afterColon afterValue left key value}
      (name : scanString halves rest = .ok (key, afterKey))
      (colon : skipGaps afterKey = ':' :: afterColon)
      (first : Reads halves (skipGaps afterColon) (.value value) afterValue)
      (close : skipGaps afterValue = '}' :: left) :
      Reads halves ('"' :: rest) (.members [(key, value)]) left
  | member {rest afterKey afterColon afterValue more left key value members}
      (name : scanString halves rest = .ok (key, afterKey))
      (colon : skipGaps afterKey = ':' :: afterColon)
      (first : Reads halves (skipGaps afterColon) (.value value) afterValue)
      (comma : skipGaps afterValue = ',' :: more)
      (others : Reads halves (skipGaps more) (.members members) left) :
      Reads halves ('"' :: rest) (.members ((key, value) :: members)) left

def IsText (halves : Halves) (text : List Char) (value : Json) : Prop :=
  ∃ left, Reads halves (skipGaps text) (.value value) left ∧ skipGaps left = []

/-! ## Tokens -/

section Tokens
variable {halves : Halves} {text left : List Char}

theorem skipGaps_le (text : List Char) : (skipGaps text).length ≤ text.length :=
  (List.dropWhile_suffix isGap).length_le

theorem after_gap {c : Char} (next : skipGaps text = c :: left) : left.length < text.length := by
  have bound := skipGaps_le text
  rw [next, List.length_cons] at bound
  omega

-- Every scanner changes what it has scanned and leaves the rest of the text alone.
theorem scan_map {α β : Type} {scan : Scan α} {change : α × List Char → β} {final : β} :
    (scan.map fun r => (change r, r.2)) = .ok (final, left) ↔
      ∃ value, scan = .ok (value, left) ∧ change (value, left) = final := by
  rw [Fallible.map_ok]
  constructor
  · rintro ⟨⟨value, rest⟩, scanned, same⟩
    cases same
    exact ⟨value, scanned, rfl⟩
  · rintro ⟨value, scanned, rfl⟩
    exact ⟨(value, left), scanned, rfl⟩

theorem signs_shorter {opened : List Char} {signs : List Sign}
    (scanned : scanSigns halves opened text = .ok (signs, left)) : left.length < text.length := by
  fun_induction scanSigns halves opened text generalizing signs with
  | case2 rest =>
      simp only [Except.ok.injEq, Prod.mk.injEq] at scanned
      simp [scanned.2]
  | case4 _ _ _ _ _ _ _ _ ih =>
      obtain ⟨others, tail, _⟩ := scan_map.mp scanned
      have bound := ih tail
      simp only [List.length_cons] at bound ⊢
      omega
  | case7 c rest _ _ meant _ ih =>
      obtain ⟨others, tail, _⟩ := scan_map.mp scanned
      have bound := ih tail
      simp only [List.length_cons]
      omega
  | case10 c rest _ _ _ _ _ _ ih =>
      obtain ⟨others, tail, _⟩ := scan_map.mp scanned
      have bound := ih tail
      simp only [List.length_cons]
      omega
  | case1 | case3 | case5 | case6 | case8 | case9 => simp at scanned

theorem string_shorter {word : LooseText} (scanned : scanString halves text = .ok (word, left)) :
    left.length < text.length := by
  rw [scanString, scan_map] at scanned
  obtain ⟨signs, scanned, _⟩ := scanned
  exact signs_shorter scanned

def beginsPlain (c : Char) : Bool :=
  c = 'n' || c = 't' || c = 'f' || c = 'N' || c = 'I' || c = '-' || Text.isAsciiDigit c

theorem word_split {value : Json} (found : scanWord? text = some (value, left)) :
    ∃ c rest, text = c :: rest ∧ beginsPlain c = true ∧ left.length ≤ rest.length := by
  obtain ⟨word, listed, taken⟩ := List.exists_of_findSome?_eq_some found
  obtain ⟨rest, cut, same⟩ := Option.map_eq_some_iff.mp taken
  cases same
  rw [Text.dropPrefix_iff] at cut
  have begun : ∃ c more, word.1 = c :: more ∧ beginsPlain c = true := by
    simp only [words, List.mem_cons, List.not_mem_nil, or_false] at listed
    rcases listed with rfl | rfl | rfl | rfl | rfl | rfl <;> exact ⟨_, _, rfl, rfl⟩
  obtain ⟨c, more, spelled, good⟩ := begun
  refine ⟨c, more ++ left, by rw [cut, spelled, List.cons_append], good, ?_⟩
  simp

theorem whole_split {whole : List Char} (scanned : scanWhole text = some (whole, left)) :
    ∃ c rest, text = c :: rest ∧ Text.isAsciiDigit c = true ∧ left.length ≤ rest.length := by
  cases text with
  | nil => simp [scanWhole] at scanned
  | cons c rest =>
      by_cases zero : c = '0'
      · simp only [scanWhole, zero, ↓reduceIte, Option.some.injEq, Prod.mk.injEq] at scanned
        exact ⟨c, rest, rfl, by rw [zero]; rfl, by rw [scanned.2]⟩
      · by_cases digit : Text.isAsciiDigit c = true
        · simp only [scanWhole, zero, ↓reduceIte, digit, Option.some.injEq, Prod.mk.injEq,
            List.dropWhile_cons_of_pos] at scanned
          refine ⟨c, rest, rfl, digit, ?_⟩
          rw [← scanned.2]
          exact (List.dropWhile_suffix _).length_le
        · simp [scanWhole, zero, digit] at scanned

theorem fraction_le (text : List Char) : (scanFraction text).2.length ≤ text.length := by
  unfold scanFraction
  split
  · split
    · exact (List.dropWhile_suffix _).length_le.trans (by simp)
    · exact le_rfl
  · exact le_rfl

theorem sign_le (text : List Char) : (Decimal.splitSign text).2.length ≤ text.length := by
  unfold Decimal.splitSign
  split <;> simp

theorem exponent_le (text : List Char) : (scanExponent text).2.length ≤ text.length := by
  cases text with
  | nil => simp [scanExponent]
  | cons c rest =>
      simp only [scanExponent]
      split
      · split
        · exact le_rfl
        · have signed := sign_le rest
          have digits := (List.dropWhile_suffix Text.isAsciiDigit
            (l := (Decimal.splitSign rest).2)).length_le
          simp only [List.length_cons]
          omega
      · exact le_rfl

theorem number_split {value : Json} (scanned : scanNumber text = .ok (value, left)) :
    ∃ c rest, text = c :: rest ∧ beginsPlain c = true ∧ left.length ≤ rest.length := by
  simp only [scanNumber] at scanned
  split at scanned
  · simp at scanned
  · next whole afterWhole spelled =>
      obtain ⟨c, rest, unsigned, digit, bound⟩ := whole_split spelled
      have fraction := fraction_le afterWhole
      have exponent := exponent_le (scanFraction afterWhole).2
      have shorter : left.length ≤ rest.length := by
        split at scanned
        · split at scanned
          · simp at scanned
          · simp only [Except.ok.injEq, Prod.mk.injEq] at scanned
            rwa [← scanned.2]
        · simp only [Except.ok.injEq, Prod.mk.injEq] at scanned
          rw [← scanned.2]
          omega
      by_cases negative : text.head? = some '-'
      · obtain ⟨after, rfl⟩ := List.head?_eq_some_iff.mp negative
        simp only [List.head?_cons, ↓reduceIte, List.drop_succ_cons, List.drop_zero] at unsigned
        refine ⟨'-', after, rfl, rfl, ?_⟩
        rw [unsigned, List.length_cons]
        omega
      · rw [if_neg (by simpa using negative)] at unsigned
        exact ⟨c, rest, unsigned, by simp [beginsPlain, digit], shorter⟩

theorem plain_split {value : Json} (scanned : scanPlain text = .ok (value, left)) :
    ∃ c rest, text = c :: rest ∧ beginsPlain c = true ∧ left.length ≤ rest.length := by
  unfold scanPlain at scanned
  split at scanned
  · next found word =>
      simp only [Except.ok.injEq] at scanned
      exact word_split (scanned ▸ word)
  · exact number_split scanned

end Tokens

/-! ## The scanner against the grammar -/

section Scanning
variable {halves : Halves} {text left : List Char} {parsed : Parsed} {fuel : Nat}

def begins (c : Char) : Bool := c = '"' || c = '[' || c = '{' || beginsPlain c

-- A text that begins as a value does, and of which something has been used up.
def Begun (text left : List Char) : Prop :=
  ∃ c rest, text = c :: rest ∧ begins c = true ∧ left.length ≤ rest.length

theorem begun_head {c : Char} (begun : Begun (c :: text) left) : begins c = true := by
  obtain ⟨_, _, same, good, _⟩ := begun
  cases same
  exact good

theorem begun_shorter (begun : Begun text left) : left.length < text.length := by
  obtain ⟨c, rest, rfl, _, bound⟩ := begun
  rw [List.length_cons]
  omega

theorem begun_gaps (begun : Begun (skipGaps text) left) : left.length < text.length :=
  (begun_shorter begun).trans_le (skipGaps_le text)

theorem begun_weaken {middle : List Char} (begun : Begun text middle)
    (bound : left.length ≤ middle.length) : Begun text left := by
  obtain ⟨c, rest, same, good, shorter⟩ := begun
  exact ⟨c, rest, same, good, bound.trans shorter⟩

theorem Reads.begun (read : Reads halves text parsed left) : Begun text left := by
  induction read with
  | string token => exact ⟨_, _, rfl, rfl, (string_shorter token).le⟩
  | emptyArray close | emptyObject close => exact ⟨_, _, rfl, rfl, (after_gap close).le⟩
  | array inside ih | object inside ih => exact ⟨_, _, rfl, rfl, (begun_gaps ih).le⟩
  | plain token =>
      obtain ⟨c, rest, same, good, bound⟩ := plain_split token
      exact ⟨c, rest, same, by simp [begins, good], bound⟩
  | lastItem first close ih => exact begun_weaken ih (after_gap close).le
  | item first comma others ih tail =>
      exact begun_weaken ih ((begun_gaps tail).trans (after_gap comma)).le
  | lastMember name colon first close ih =>
      have used := ((after_gap close).trans (begun_gaps ih)).trans (after_gap colon)
      exact ⟨_, _, rfl, rfl, (used.trans (string_shorter name)).le⟩
  | member name colon first comma others ih tail =>
      have others := ((begun_gaps tail).trans (after_gap comma)).trans (begun_gaps ih)
      have used := others.trans (after_gap colon)
      exact ⟨_, _, rfl, rfl, (used.trans (string_shorter name)).le⟩

theorem scanItems_iff {items : List Json} :
    scanItems halves (fuel + 1) text = .ok (items, left) ↔
      ∃ item rest, scanValue halves fuel text = .ok (item, rest) ∧
        ((skipGaps rest = ']' :: left ∧ items = [item]) ∨
          ∃ more others, skipGaps rest = ',' :: more ∧
            scanItems halves fuel (skipGaps more) = .ok (others, left) ∧
              items = item :: others) := by
  constructor
  · intro scanned
    obtain ⟨⟨item, rest⟩, first, next⟩ := Fallible.bind_ok.mp scanned
    refine ⟨item, rest, first, ?_⟩
    dsimp only at next
    split at next
    · next close =>
        cases next
        exact Or.inl ⟨close, rfl⟩
    · next comma =>
        obtain ⟨⟨others, _⟩, tail, same⟩ := Fallible.bind_ok.mp next
        cases same
        exact Or.inr ⟨_, others, comma, tail, rfl⟩
    · simp at next
  · rintro ⟨item, rest, first, ⟨close, rfl⟩ | ⟨more, others, comma, tail, rfl⟩⟩
    · refine Fallible.bind_ok.mpr ⟨_, first, ?_⟩
      simp only [close]
      rfl
    · refine Fallible.bind_ok.mpr ⟨_, first, ?_⟩
      simp only [comma]
      exact Fallible.bind_ok.mpr ⟨_, tail, rfl⟩

theorem scanMembers_iff {members : Members} :
    scanMembers halves (fuel + 1) text = .ok (members, left) ↔
      ∃ rest key afterKey afterColon value afterValue, text = '"' :: rest ∧
        scanString halves rest = .ok (key, afterKey) ∧ skipGaps afterKey = ':' :: afterColon ∧
        scanValue halves fuel (skipGaps afterColon) = .ok (value, afterValue) ∧
        ((skipGaps afterValue = '}' :: left ∧ members = [(key, value)]) ∨
          ∃ more others, skipGaps afterValue = ',' :: more ∧
            scanMembers halves fuel (skipGaps more) = .ok (others, left) ∧
            members = (key, value) :: others) := by
  constructor
  · intro scanned
    simp only [scanMembers] at scanned
    split at scanned
    · next rest =>
        obtain ⟨⟨key, afterKey⟩, name, next⟩ := Fallible.bind_ok.mp scanned
        dsimp only at next
        split at next
        · next afterColon colon =>
            obtain ⟨⟨value, afterValue⟩, first, next⟩ := Fallible.bind_ok.mp next
            refine ⟨rest, key, afterKey, afterColon, value, afterValue, rfl, name, colon, first, ?_⟩
            dsimp only at next
            split at next
            · next close =>
                cases next
                exact Or.inl ⟨close, rfl⟩
            · next comma =>
                obtain ⟨⟨others, _⟩, tail, same⟩ := Fallible.bind_ok.mp next
                cases same
                exact Or.inr ⟨_, others, comma, tail, rfl⟩
            · simp at next
        · simp at next
    · simp at scanned
  · rintro ⟨rest, key, afterKey, afterColon, value, afterValue, rfl, name, colon, first, after⟩
    refine Fallible.bind_ok.mpr ⟨_, name, ?_⟩
    simp only [colon]
    refine Fallible.bind_ok.mpr ⟨_, first, ?_⟩
    rcases after with ⟨close, rfl⟩ | ⟨more, others, comma, tail, rfl⟩
    · simp only [close]
      rfl
    · simp only [comma]
      exact Fallible.bind_ok.mpr ⟨_, tail, rfl⟩

def Scans (halves : Halves) (fuel : Nat) (text : List Char) : Parsed → List Char → Prop
  | .value value, left => scanValue halves fuel text = .ok (value, left)
  | .items items, left => scanItems halves fuel text = .ok (items, left)
  | .members members, left => scanMembers halves fuel text = .ok (members, left)

theorem scans_reads (form : Parsed) (scanned : Scans halves fuel text form left) :
    Reads halves text form left := by
  induction fuel generalizing text form left with
  | zero => cases form <;> simp [Scans, scanValue, scanItems, scanMembers] at scanned
  | succ fuel ih =>
      cases form with
      | value value =>
          simp only [Scans, scanValue] at scanned
          split at scanned
          · obtain ⟨word, token, rfl⟩ := scan_map.mp scanned
            exact .string token
          · split at scanned
            · next close =>
                cases scanned
                exact .emptyArray close
            · obtain ⟨items, inside, rfl⟩ := scan_map.mp scanned
              exact .array (ih (.items items) inside)
          · split at scanned
            · next close =>
                cases scanned
                exact .emptyObject close
            · obtain ⟨members, inside, rfl⟩ := scan_map.mp scanned
              exact .object (ih (.members members) inside)
          · exact .plain scanned
      | items items =>
          obtain ⟨item, rest, first, after⟩ := scanItems_iff.mp scanned
          have first := ih (.value item) first
          rcases after with ⟨close, rfl⟩ | ⟨more, others, comma, tail, rfl⟩
          · exact .lastItem first close
          · exact .item first comma (ih (.items others) tail)
      | members members =>
          obtain ⟨rest, key, afterKey, afterColon, value, afterValue, rfl, name, colon, first,
            after⟩ := scanMembers_iff.mp scanned
          have first := ih (.value value) first
          rcases after with ⟨close, rfl⟩ | ⟨more, others, comma, tail, rfl⟩
          · exact .lastMember name colon first close
          · exact .member name colon first comma (ih (.members others) tail)

/-- A plain value and the beginnings of the other forms exclude each other. -/
theorem plain_scans {value : Json} (token : scanPlain text = .ok (value, left)) :
    scanValue halves (fuel + 1) text = .ok (value, left) := by
  obtain ⟨c, rest, rfl, good, _⟩ := plain_split token
  simp only [scanValue]
  split
  · next same => cases same; exact absurd good (by decide)
  · next same => cases same; exact absurd good (by decide)
  · next same => cases same; exact absurd good (by decide)
  · exact token

-- A derivation uses up a character at each step, so the bound leaves fuel for what is inside.
theorem reads_scans (read : Reads halves text parsed left)
    (enough : text.length ≤ fuel + left.length) : Scans halves fuel text parsed left := by
  induction fuel generalizing text parsed left with
  | zero =>
      have progress := begun_shorter read.begun
      omega
  | succ fuel ih =>
      cases read with
      | string token => exact scan_map.mpr ⟨_, token, rfl⟩
      | @emptyArray rest _ close => simp [Scans, scanValue, close]
      | @emptyObject rest _ close => simp [Scans, scanValue, close]
      | @array rest _ items inside =>
          have gaps := skipGaps_le rest
          have scanned : scanItems halves fuel (skipGaps rest) = .ok (items, left) :=
            ih inside (by rw [List.length_cons] at enough; omega)
          simp only [Scans, scanValue]
          split
          · next same => exact absurd (begun_head (same ▸ inside.begun)) (by decide)
          · exact scan_map.mpr ⟨items, scanned, rfl⟩
      | @object rest _ members inside =>
          have gaps := skipGaps_le rest
          have scanned : scanMembers halves fuel (skipGaps rest) = .ok (members, left) :=
            ih inside (by rw [List.length_cons] at enough; omega)
          simp only [Scans, scanValue]
          split
          · next same => exact absurd (begun_head (same ▸ inside.begun)) (by decide)
          · exact scan_map.mpr ⟨members, scanned, rfl⟩
      | plain token => exact plain_scans token
      | @lastItem _ rest _ item first close =>
          have closed := after_gap close
          have scanned : scanValue halves fuel text = .ok (item, rest) := ih first (by omega)
          exact scanItems_iff.mpr ⟨item, rest, scanned, Or.inl ⟨close, rfl⟩⟩
      | @item _ rest more _ item items first comma others =>
          have cut := after_gap comma
          have gaps := skipGaps_le more
          have used := begun_gaps others.begun
          have progress := begun_shorter first.begun
          have scanned : scanValue halves fuel text = .ok (item, rest) := ih first (by omega)
          have tail : scanItems halves fuel (skipGaps more) = .ok (items, left) :=
            ih others (by omega)
          exact scanItems_iff.mpr
            ⟨item, rest, scanned, Or.inr ⟨more, items, comma, tail, rfl⟩⟩
      | @lastMember rest afterKey afterColon afterValue _ key value name colon first close =>
          have named := string_shorter name
          have cut := after_gap colon
          have gaps := skipGaps_le afterColon
          have closed := after_gap close
          rw [List.length_cons] at enough
          have scanned : scanValue halves fuel (skipGaps afterColon) = .ok (value, afterValue) :=
            ih first (by omega)
          exact scanMembers_iff.mpr ⟨rest, key, afterKey, afterColon, value, afterValue, rfl, name,
            colon, scanned, Or.inl ⟨close, rfl⟩⟩
      | @member rest afterKey afterColon afterValue more _ key value members name colon first
          comma others =>
          have named := string_shorter name
          have cut := after_gap colon
          have gaps := skipGaps_le afterColon
          have progress := begun_shorter first.begun
          have closed := after_gap comma
          have moreGaps := skipGaps_le more
          have used := begun_gaps others.begun
          rw [List.length_cons] at enough
          have scanned : scanValue halves fuel (skipGaps afterColon) = .ok (value, afterValue) :=
            ih first (by omega)
          have tail : scanMembers halves fuel (skipGaps more) = .ok (members, left) :=
            ih others (by omega)
          exact scanMembers_iff.mpr ⟨rest, key, afterKey, afterColon, value, afterValue, rfl, name,
            colon, scanned, Or.inr ⟨more, members, comma, tail, rfl⟩⟩

theorem scanValue_shorter {value : Json}
    (scanned : scanValue halves fuel text = .ok (value, left)) :
    left.length < text.length :=
  begun_shorter (scans_reads (.value value) scanned).begun

/-- What a scanner for each form has when more fuel changes nothing. -/
structure Settled (halves : Halves) (fuel : Nat) (text : List Char) : Prop where
  value : 2 * text.length < fuel → scanValue halves (fuel + 1) text = scanValue halves fuel text
  items : 2 * text.length + 1 < fuel → scanItems halves (fuel + 1) text = scanItems halves fuel text
  members : 2 * text.length < fuel →
    scanMembers halves (fuel + 1) text = scanMembers halves fuel text

section Settling
variable (settled : ∀ text, Settled halves fuel text)
include settled

-- A bracket takes one character and two of the fuel: its own step and that of what is inside.
theorem settled_value (enough : 2 * text.length < fuel + 1) :
    scanValue halves (fuel + 2) text = scanValue halves (fuel + 1) text := by
  rw [scanValue.eq_def, scanValue.eq_def halves (fuel + 1)]
  dsimp only
  split
  · rfl
  · next rest =>
      have gaps := skipGaps_le rest
      rw [List.length_cons] at enough
      have inside := (settled (skipGaps rest)).items (by omega)
      split
      · rfl
      · rw [inside]
  · next rest =>
      have gaps := skipGaps_le rest
      rw [List.length_cons] at enough
      have inside := (settled (skipGaps rest)).members (by omega)
      split
      · rfl
      · rw [inside]
  · rfl

theorem settled_items (enough : 2 * text.length + 1 < fuel + 1) :
    scanItems halves (fuel + 2) text = scanItems halves (fuel + 1) text := by
  rw [scanItems, scanItems, (settled text).value (by omega)]
  refine Fallible.bind_congr fun ⟨item, rest⟩ first => ?_
  have used := scanValue_shorter first
  dsimp only
  split
  · rfl
  · next more comma =>
      have cut := after_gap comma
      have gaps := skipGaps_le more
      rw [(settled (skipGaps more)).items (by omega)]
  · rfl

theorem settled_members (enough : 2 * text.length < fuel + 1) :
    scanMembers halves (fuel + 2) text = scanMembers halves (fuel + 1) text := by
  rw [scanMembers.eq_def, scanMembers.eq_def halves (fuel + 1)]
  dsimp only
  split
  · next rest =>
      rw [List.length_cons] at enough
      refine Fallible.bind_congr fun ⟨key, afterKey⟩ name => ?_
      have named := string_shorter name
      dsimp only
      split
      · next afterColon colon =>
          have cut := after_gap colon
          have gaps := skipGaps_le afterColon
          rw [(settled (skipGaps afterColon)).value (by omega)]
          refine Fallible.bind_congr fun ⟨value, afterValue⟩ first => ?_
          have used := scanValue_shorter first
          dsimp only
          split
          · rfl
          · next more comma =>
              have next := after_gap comma
              have moreGaps := skipGaps_le more
              rw [(settled (skipGaps more)).members (by omega)]
          · rfl
      · rfl
  · rfl

end Settling

theorem all_settled (fuel : Nat) : ∀ text, Settled halves fuel text := by
  induction fuel with
  | zero => exact fun text => ⟨by omega, by omega, by omega⟩
  | succ fuel ih => exact fun text => ⟨settled_value ih, settled_items ih, settled_members ih⟩

/-- Whatever comes of a text, fault or value, comes of it under any fuel above twice its length. -/
theorem scanValue_fuel (enough : 2 * text.length < fuel) :
    scanValue halves fuel text = scanValue halves (2 * text.length + 1) text := by
  induction fuel, enough using Nat.le_induction with
  | base => rfl
  | succ fuel enough ih => rw [(all_settled fuel text).value enough, ih]

end Scanning

/-! ## Whole texts -/

section Whole
variable {halves : Halves} {text : List Char} {value : Json}

theorem scanDocument_iff : scanDocument halves text = .ok value ↔ IsText halves text value := by
  constructor
  · intro scanned
    obtain ⟨⟨found, left⟩, inside, finish⟩ := Fallible.bind_ok.mp scanned
    dsimp only at finish
    split at finish
    · next nothing =>
        cases finish
        exact ⟨left, scans_reads (.value value) inside, nothing⟩
    · simp at finish
  · rintro ⟨left, read, nothing⟩
    have gaps := skipGaps_le text
    have scanned : scanValue halves (2 * text.length + 1) (skipGaps text) = .ok (value, left) :=
      reads_scans read (by omega)
    refine Fallible.bind_ok.mpr ⟨_, scanned, ?_⟩
    simp only [nothing]
    rfl

/-- A text in the grammar begins, after its gaps, as a value does. -/
theorem IsText.head (read : IsText halves text value) :
    ∃ c rest, skipGaps text = c :: rest ∧ begins c = true := by
  obtain ⟨left, read, _⟩ := read
  obtain ⟨c, rest, same, good, _⟩ := read.begun
  exact ⟨c, rest, same, good⟩

theorem readDocument_iff : readDocument halves text = .ok value ↔ IsText halves text value := by
  rw [← scanDocument_iff, readDocument]
  cases scanDocument halves text with
  | ok found => simp
  | error stop => simp

theorem IsText.unmarked (read : IsText halves text value) : text.head? ≠ some '\ufeff' := by
  intro mark
  obtain ⟨rest, rfl⟩ := List.head?_eq_some_iff.mp mark
  obtain ⟨c, rest, same, good⟩ := read.head
  cases same
  exact absurd good (by decide)

theorem halvesOf_chars (text : List Char) : halvesOf (text.map .char) = noHalves := by
  funext after
  have plain : (text.map Point.char).reverse[after]? = text.reverse[after]?.map .char := by
    rw [← List.map_reverse, List.getElem?_map]
  rw [halvesOf, plain]
  cases text.reverse[after]? <;> rfl

theorem shown_chars (text : List Char) : (text.map Point.char).map Point.shown = text := by
  rw [List.map_map]
  exact List.map_id text

theorem ofPoints_chars (text : List Char) : ofPoints (text.map .char) = ofChars text := by
  rw [ofPoints, ofChars, shown_chars, halvesOf_chars]

theorem ofPoints_iff {points : List Point} : ofPoints points = .ok value ↔
    IsText (halvesOf points) (points.map Point.shown) value := by
  rw [← readDocument_iff, ofPoints]
  split
  case isTrue mark =>
    refine ⟨by simp, fun read => ?_⟩
    exact absurd mark (readDocument_iff.mp read).unmarked
  case isFalse => rfl

theorem ofChars_iff : ofChars text = .ok value ↔ IsText noHalves text value := by
  rw [← ofPoints_chars, ofPoints_iff, shown_chars, halvesOf_chars]

theorem IsText.unique {other : Json} (read : IsText halves text value)
    (again : IsText halves text other) : value = other := by
  rw [← readDocument_iff] at read again
  rw [read] at again
  exact Except.ok.inj again

theorem begins_visible {c : Char} (good : begins c = true) : Text.isBlank c = false := by
  simp only [begins, beginsPlain, Bool.or_eq_true, decide_eq_true_eq] at good
  rcases good with ((rfl | rfl) | rfl) | (((((rfl | rfl) | rfl) | rfl) | rfl) | rfl) | digit
  case inr.inr =>
    simp only [Text.isAsciiDigit, Bool.and_eq_true, decide_eq_true_eq, Char.le_def,
      UInt32.le_iff_toNat_le] at digit
    have low : 48 ≤ c.toNat := digit.1
    have high : c.toNat ≤ 57 := digit.2
    simp [Text.isBlank, Text.isSpace, Text.inRanges, Text.spaceRanges]
    omega
  all_goals rfl

theorem IsText.visible (read : IsText halves text value) : Text.isBlankText text = false := by
  obtain ⟨c, rest, same, good⟩ := read.head
  have inside : c ∈ text := by
    have kept : c ∈ skipGaps text := by simp [same]
    exact (List.dropWhile_suffix isGap).subset kept
  rw [Text.isBlankText, List.all_eq_false]
  exact ⟨c, inside, by simp [begins_visible good]⟩

end Whole

end TenantApi.Json
