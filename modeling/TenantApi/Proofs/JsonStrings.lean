import TenantApi.Json.Printer
import TenantApi.Proofs.JsonText

/-!
Strings that are read back. A point of a string is written in ASCII as one sign or two, and the
signs join to the same points again unless two halves of one character stood next to each other; so
nothing in a string can end it or the line. A text without unescaped halves never gives such a
string.
-/

namespace TenantApi

namespace Text

theorem hexValue_hexDigit : ∀ n < 16, hexValue? (hexDigit n) = some n := by decide

end Text

namespace Json

inductive Escape (asciiOnly : Bool) (c : Char) : List Char → Prop where
  | letter {mark : Char} (apart : mark ≠ 'u') (meaning : simpleEscape? mark = some c) :
      Escape asciiOnly c ['\\', mark]
  | plain (visible : 0x20 ≤ c.toNat) (ascii : asciiOnly = true → c.toNat ≤ 0x7e) (quote : c ≠ '"')
      (backslash : c ≠ '\\') : Escape asciiOnly c [c]
  | code (short : c.toNat < 0x10000) : Escape asciiOnly c (unicodeEscape c.toNat)
  | halves (ascii : asciiOnly = true) (wide : 0x10000 ≤ c.toNat) :
      Escape asciiOnly c (unicodeEscape (0xd800 + (c.toNat - 0x10000) / 0x400) ++
        unicodeEscape (0xdc00 + (c.toNat - 0x10000) % 0x400))

/-- What a point that was written in ASCII is read as, before halves are joined. -/
inductive ReadAs : Point → List Sign → Prop where
  | itself (c : Char) : ReadAs (.char c) [.point (.char c)]
  | code (c : Char) : ReadAs (.char c) [.code c.toNat]
  | halves {c : Char} (wide : 0x10000 ≤ c.toNat) :
      ReadAs (.char c) [.code (0xd800 + (c.toNat - 0x10000) / 0x400),
        .code (0xdc00 + (c.toNat - 0x10000) % 0x400)]
  | half (offset : Fin 2048) : ReadAs (.half offset) [.code (0xd800 + offset.val)]

inductive AllReadAs : List Point → List Sign → Prop where
  | nil : AllReadAs [] []
  | cons {point : Point} {points : List Point} {signs more : List Sign}
      (first : ReadAs point signs) (rest : AllReadAs points more) :
      AllReadAs (point :: points) (signs ++ more)

def Unjoined (first second : Nat) : Prop := (Wide.isHigh first && Wide.isLow second) = false

/-- Text that does not hold the two halves of a character next to each other. -/
def Apart (text : LooseText) : Prop := (text.points.map Point.code).IsChain Unjoined

def IsPrintable (c : Char) : Prop := 0x20 ≤ c.toNat ∧ c.toNat ≤ 0x7e

section Strings
variable {halves : Halves} {asciiOnly : Bool} {c : Char} {code : Nat} {opened rest : List Char}
  {point : Point} {points : List Point} {signs : List Sign}

theorem char_bounds (c : Char) :
    c.toNat < 0x110000 ∧ Wide.isHigh c.toNat = false ∧ Wide.isLow c.toNat = false := by
  have valid : c.toNat < 0xd800 ∨ (0xdfff < c.toNat ∧ c.toNat < 0x110000) := c.valid
  simp only [Wide.isHigh, Wide.isLow, Bool.and_eq_false_iff, decide_eq_false_iff_not]
  omega

theorem ofCode_char (c : Char) : Point.ofCode c.toNat = .char c := by
  have valid : c.toNat < 0xd800 ∨ (0xdfff < c.toNat ∧ c.toNat < 0x110000) := c.valid
  rw [Point.ofCode, dif_neg (by omega), Char.ofNat_toNat]

theorem ofCode_half (offset : Fin 2048) : Point.ofCode (0xd800 + offset.val) = .half offset := by
  have bound := offset.isLt
  rw [Point.ofCode, dif_pos (by omega)]
  simp

theorem unjoined_char (c : Char) (second : Nat) : Unjoined c.toNat second := by
  rw [Unjoined, (char_bounds c).2.1, Bool.false_and]

theorem unjoined_before (first : Nat) (c : Char) : Unjoined first c.toNat := by
  rw [Unjoined, (char_bounds c).2.2, Bool.and_false]

theorem apart_plain (text : String) : Apart (.plain text) := by
  have each : ∀ first ∈ (LooseText.plain text).points.map Point.code, ∀ second,
      Unjoined first second := by
    simp only [LooseText.points, List.map_map, List.mem_map, Function.comp_apply]
    rintro _ ⟨c, _, rfl⟩ second
    exact unjoined_char c second
  exact (List.pairwise_of_forall_mem_list fun first member second _ =>
    each first member second).isChain

/-! ## Reading what was written -/

theorem pointsOf_code (free : ∀ low ∈ signs.head?, ∀ second, low = .code second →
    Unjoined code second) : pointsOf (.code code :: signs) = .ofCode code :: pointsOf signs := by
  cases signs with
  | nil => rfl
  | cons sign rest =>
      cases sign with
      | point => rfl
      | code second =>
          rw [pointsOf, free _ rfl second rfl, if_neg Bool.false_ne_true]

theorem pointsOf_halves (wide : 0x10000 ≤ c.toNat) :
    pointsOf (.code (0xd800 + (c.toNat - 0x10000) / 0x400) ::
      .code (0xdc00 + (c.toNat - 0x10000) % 0x400) :: signs) = .char c :: pointsOf signs := by
  have bound := (char_bounds c).1
  have halves : Wide.isHigh (0xd800 + (c.toNat - 0x10000) / 0x400) = true ∧
      Wide.isLow (0xdc00 + (c.toNat - 0x10000) % 0x400) = true := by
    simp only [Wide.isHigh, Wide.isLow, Bool.and_eq_true, decide_eq_true_eq]
    omega
  have joined : Wide.joinHalves (0xd800 + (c.toNat - 0x10000) / 0x400)
      (0xdc00 + (c.toNat - 0x10000) % 0x400) = c.toNat := by
    unfold Wide.joinHalves
    omega
  rw [pointsOf, halves.1, halves.2, Bool.true_and, if_pos rfl, joined, Char.ofNat_toNat]

-- The first sign of a point joins with what stands before it only if the point itself would.
theorem AllReadAs.free (read : AllReadAs points signs)
    (apart : ∀ next ∈ points.head?, Unjoined code next.code) :
    ∀ low ∈ signs.head?, ∀ second, low = .code second → Unjoined code second := by
  cases read with
  | nil => simp
  | @cons point points signs more first rest =>
      have next : Unjoined code point.code := apart point rfl
      rintro low head second rfl
      cases first with
      | itself c => simp at head
      | code c | half offset =>
          cases head
          exact next
      | @halves c wide =>
          have bound := (char_bounds c).1
          cases head
          rw [Unjoined, Bool.and_eq_false_iff]
          refine .inr ?_
          simp only [Wide.isLow, Bool.and_eq_false_iff, decide_eq_false_iff_not]
          omega

theorem AllReadAs.pointsOf (read : AllReadAs points signs)
    (apart : (points.map Point.code).IsChain Unjoined) : pointsOf signs = points := by
  induction read with
  | nil => rfl
  | @cons point points signs more first rest ih =>
      have tail := ih (List.isChain_of_isChain_cons apart)
      cases first with
      | itself c => rw [List.singleton_append, Json.pointsOf, tail]
      | code c =>
          rw [List.singleton_append, pointsOf_code (rest.free fun _ _ => unjoined_char c _),
            ofCode_char, tail]
      | halves wide => rw [List.cons_append, List.singleton_append, pointsOf_halves wide, tail]
      | half offset =>
          have next : ∀ next ∈ points.head?, Unjoined (0xd800 + offset.val) next.code := by
            rintro next head
            obtain ⟨later, rfl⟩ := List.head?_eq_some_iff.mp head
            exact (List.isChain_cons_cons.mp apart).1
          rw [List.singleton_append, pointsOf_code (rest.free next), ofCode_half, tail]

theorem scanSigns_code (short : code < 0x10000) (more : rest ≠ []) :
    scanSigns halves opened (unicodeEscape code ++ rest) =
      (scanSigns halves opened rest).map fun r => (.code code :: r.1, r.2) := by
  obtain ⟨next, rest, rfl⟩ := List.exists_cons_of_ne_nil more
  have value : hexCode? (Text.hexDigit (code / 16 / 16 / 16 % 16))
      (Text.hexDigit (code / 16 / 16 % 16)) (Text.hexDigit (code / 16 % 16))
      (Text.hexDigit (code % 16)) = some code := by
    have digit (n : Nat) := Text.hexValue_hexDigit (n % 16) (Nat.mod_lt n (by decide))
    simp only [hexCode?, digit, Option.bind_eq_bind, Option.bind_some, Option.pure_def,
      Option.some.injEq]
    omega
  simp only [unicodeEscape, Text.hexDigits, List.nil_append, List.cons_append, scanSigns, value]

theorem escapeChar_escape (asciiOnly : Bool) (c : Char) :
    Escape asciiOnly c (escapeChar asciiOnly c) := by
  have letter {mark : Char} (apart : mark ≠ 'u') {meant : Char} (same : c = meant)
      (meaning : simpleEscape? mark = some meant) : Escape asciiOnly c ['\\', mark] :=
    .letter apart (same ▸ meaning)
  unfold escapeChar
  split_ifs with quote backslash newline return_ tab page back plain short
  case pos => exact letter (by decide) quote rfl
  case pos => exact letter (by decide) backslash rfl
  case pos => exact letter (by decide) newline rfl
  case pos => exact letter (by decide) return_ rfl
  case pos => exact letter (by decide) tab rfl
  case pos => exact letter (by decide) page rfl
  case pos => exact letter (by decide) back rfl
  case pos =>
    simp only [Bool.and_eq_true, decide_eq_true_eq, Bool.or_eq_true, Bool.not_eq_true'] at plain
    exact .plain plain.1 (fun ascii => plain.2.resolve_right (by simp [ascii])) quote backslash
  case pos => exact .code short
  case neg =>
    have wide : 0x10000 ≤ c.toNat := not_lt.mp short
    simp only [Bool.and_eq_true, decide_eq_true_eq, Bool.or_eq_true, Bool.not_eq_true', not_and,
      not_or, Bool.not_eq_false] at plain
    exact .halves (plain (by omega)).2 wide

-- No character of ASCII stands in the place of a half.
theorem pointAt_ascii (ascii : c.toNat ≤ 0x7e) (rest : List Char) :
    halves.pointAt c rest = .char c := by
  have other : c ≠ '\ufffd' := by
    rintro rfl
    exact absurd ascii (by decide)
  rw [Halves.pointAt, if_neg other]

def escaped (point : Point) : List Char := (escapePoint true point).map Point.shown

theorem escaped_char (c : Char) : escaped (.char c) = escapeChar true c := by
  rw [escaped, escapePoint, shown_chars]

theorem escaped_half (offset : Fin 2048) :
    escaped (.half offset) = unicodeEscape (0xd800 + offset.val) := by
  rw [escaped, escapePoint, if_pos rfl, shown_chars]

theorem scanSigns_point (halves : Halves) (opened : List Char) (point : Point) (more : rest ≠ []) :
    ∃ signs, ReadAs point signs ∧ scanSigns halves opened (escaped point ++ rest) =
      (scanSigns halves opened rest).map fun r => (signs ++ r.1, r.2) := by
  cases point with
  | half offset =>
      have bound := offset.isLt
      rw [escaped_half]
      exact ⟨_, .half offset, scanSigns_code (by omega) more⟩
  | char c =>
      rw [escaped_char]
      have form := escapeChar_escape true c
      generalize escapeChar true c = written at form
      cases form with
      | letter apart meaning =>
          refine ⟨_, .itself c, ?_⟩
          obtain ⟨next, rest, rfl⟩ := List.exists_cons_of_ne_nil more
          simp [scanSigns, meaning, apart]
      | plain visible ascii quote backslash =>
          refine ⟨_, .itself c, ?_⟩
          simp [scanSigns, backslash, not_lt.mpr visible, pointAt_ascii (ascii rfl)]
      | code short => exact ⟨_, .code c, scanSigns_code short more⟩
      | halves ascii wide =>
          have bound := (char_bounds c).1
          refine ⟨_, .halves wide, ?_⟩
          rw [List.append_assoc, scanSigns_code (by omega) (by simp [more]),
            scanSigns_code (by omega) more]
          cases scanSigns halves opened rest with
          | error stop => rfl
          | ok read => rfl

theorem scanSigns_points (halves : Halves) (opened rest : List Char) (points : List Point) :
    ∃ signs, AllReadAs points signs ∧
      scanSigns halves opened (points.flatMap escaped ++ '"' :: rest) = .ok (signs, rest) := by
  induction points with
  | nil => exact ⟨[], .nil, by simp [scanSigns]⟩
  | cons point points ih =>
      obtain ⟨more, others, scanned⟩ := ih
      have left : points.flatMap escaped ++ '"' :: rest ≠ [] := by simp
      obtain ⟨signs, first, next⟩ := scanSigns_point halves opened point left
      refine ⟨signs ++ more, .cons first others, ?_⟩
      rw [List.flatMap_cons, List.append_assoc, next, scanned]
      rfl

theorem ofPoints_points (text : LooseText) : LooseText.ofPoints text.points = text := by
  cases text with
  | plain text =>
      have none : ¬(text.toList.map Point.char).any Point.isHalf = true := by
        simp [List.any_eq_true, Point.isHalf]
      rw [LooseText.points, LooseText.ofPoints, dif_neg none, shown_chars, String.ofList_toList]
  | ragged text => rw [LooseText.points, LooseText.ofPoints, dif_pos text.hasHalf]

/-- A string is read back point for point, and the reading ends at its closing quote. -/
theorem scanString_text {text : LooseText} (apart : Apart text) (halves : Halves)
    (rest : List Char) :
    scanString halves (text.points.flatMap escaped ++ '"' :: rest) = .ok (text, rest) := by
  obtain ⟨signs, read, scanned⟩ := scanSigns_points halves
    (text.points.flatMap escaped ++ '"' :: rest) rest text.points
  rw [scanString, scanned, Except.map, read.pointsOf apart, ofPoints_points]

/-! ## What is read from characters alone -/

theorem points_ofPoints (points : List Point) : (LooseText.ofPoints points).points = points := by
  unfold LooseText.ofPoints
  split
  case isTrue => rfl
  case isFalse none =>
    have char : ∀ point ∈ points, Point.char point.shown = point := by
      intro point member
      cases point with
      | char c => rfl
      | half offset => exact absurd (List.any_eq_true.mpr ⟨_, member, rfl⟩) none
    rw [LooseText.points, String.toList_ofList, List.map_map]
    exact (List.map_congr_left char).trans (List.map_id points)

theorem points_append (a b : LooseText) : (a ++ b).points = a.points ++ b.points :=
  points_ofPoints _

theorem plain_append (a b : String) :
    LooseText.plain a ++ LooseText.plain b = LooseText.plain (a ++ b) := by
  rw [← ofPoints_points (.plain (a ++ b)), LooseText.points, String.toList_append, List.map_append]
  rfl

theorem signs_whole {text left : List Char} (scanned : scanSigns noHalves opened text =
    .ok (signs, left)) : ∀ point, .point point ∈ signs → point.isHalf = false := by
  fun_induction scanSigns noHalves opened text generalizing signs with
  | case2 rest =>
      simp only [Except.ok.injEq, Prod.mk.injEq] at scanned
      simp [← scanned.1]
  | case4 _ _ _ _ _ _ _ _ ih =>
      obtain ⟨others, tail, rfl⟩ := scan_map.mp scanned
      simpa using ih tail
  | case7 c rest _ _ meant _ ih =>
      obtain ⟨others, tail, rfl⟩ := scan_map.mp scanned
      simpa [Point.isHalf] using ih tail
  | case10 c rest _ _ _ _ _ _ ih =>
      obtain ⟨others, tail, rfl⟩ := scan_map.mp scanned
      have whole : (noHalves.pointAt c rest).isHalf = false := by
        unfold Halves.pointAt
        split <;> rfl
      simpa [whole] using ih tail
  | case1 | case3 | case5 | case6 | case8 | case9 => simp at scanned

theorem code_ofCode (code : Nat) :
    Wide.isHigh (Point.ofCode code).code = Wide.isHigh code ∧
      Wide.isLow (Point.ofCode code).code = Wide.isLow code := by
  unfold Point.ofCode
  split
  case isTrue within =>
    have same : 0xd800 + (code - 0xd800) = code := by omega
    simp only [Point.code, same, and_self]
  case isFalse outside =>
    obtain ⟨_, high, low⟩ := char_bounds (Char.ofNat code)
    rw [Point.code, high, low]
    simp only [Wide.isHigh, Wide.isLow, Bool.false_eq, Bool.and_eq_false_iff,
      decide_eq_false_iff_not]
    omega

-- The first point joins with what stands before it only if the first sign does.
theorem pointsOf_head (whole : ∀ point, .point point ∈ signs → point.isHalf = false)
    (free : ∀ low ∈ signs.head?, ∀ second, low = .code second → Unjoined code second) :
    ∀ next ∈ (pointsOf signs).head?, Unjoined code next.code := by
  fun_cases pointsOf signs with
  | case1 => simp
  | case2 point rest =>
      rintro next ⟨⟩
      cases point with
      | char c => exact unjoined_before code c
      | half offset =>
          have half : (Point.half offset).isHalf = false := whole (.half offset) (by simp)
          contradiction
  | case3 =>
      rintro next ⟨⟩
      exact unjoined_before code _
  | case4 second | case5 second =>
      rintro next ⟨⟩
      have unjoined := free _ rfl second rfl
      rwa [Unjoined, (code_ofCode second).2]

theorem pointsOf_apart (whole : ∀ point, .point point ∈ signs → point.isHalf = false) :
    ((pointsOf signs).map Point.code).IsChain Unjoined := by
  have step {point : Point} {rest : List Sign}
      (tail : ((pointsOf rest).map Point.code).IsChain Unjoined)
      (next : ∀ next ∈ (pointsOf rest).head?, Unjoined point.code next.code) :
      ((point :: pointsOf rest).map Point.code).IsChain Unjoined := by
    rw [List.map_cons, List.isChain_cons]
    refine ⟨fun code head => ?_, tail⟩
    rw [List.head?_map, Option.mem_map] at head
    obtain ⟨found, head, rfl⟩ := head
    exact next found head
  fun_induction pointsOf signs with
  | case1 => exact .nil
  | case2 point rest ih =>
      have later := ih fun point member => whole point (List.mem_cons_of_mem _ member)
      cases point with
      | char c => exact step later fun _ _ => unjoined_char c _
      | half offset =>
          have half : (Point.half offset).isHalf = false := whole (.half offset) (by simp)
          contradiction
  | case3 high low rest joins ih =>
      exact step (ih fun point member => whole point (by simp [member]))
        fun _ _ => unjoined_char _ _
  | case4 high low rest separate ih =>
      have others : ∀ point, .point point ∈ Sign.code low :: rest → point.isHalf = false :=
        fun point member => whole point (List.mem_cons_of_mem _ member)
      refine step (ih others) (pointsOf_head others ?_)
      rintro _ ⟨⟩ _ ⟨⟩
      rw [Unjoined, (code_ofCode high).1]
      exact Bool.eq_false_of_not_eq_true separate
  | case5 code rest other ih =>
      have others : ∀ point, .point point ∈ rest → point.isHalf = false :=
        fun point member => whole point (List.mem_cons_of_mem _ member)
      refine step (ih others) (pointsOf_head others ?_)
      rintro low head second rfl
      obtain ⟨later, rfl⟩ := List.head?_eq_some_iff.mp head
      exact absurd rfl (other second later)

theorem printable_escape {code : Nat} (member : c ∈ unicodeEscape code) : IsPrintable c := by
  have digit : ∀ n < 16, IsPrintable (Text.hexDigit n) := by unfold IsPrintable; decide
  have digit (n : Nat) : IsPrintable (Text.hexDigit (n % 16)) := digit _ (Nat.mod_lt n (by decide))
  simp only [unicodeEscape, Text.hexDigits, List.nil_append, List.cons_append, List.mem_cons,
    List.not_mem_nil, or_false] at member
  rcases member with rfl | rfl | rfl | rfl | rfl | rfl
  · exact ⟨by decide, by decide⟩
  · exact ⟨by decide, by decide⟩
  all_goals exact digit _

theorem printable_char {character : Char} (member : c ∈ escapeChar true character) :
    IsPrintable c := by
  have form := escapeChar_escape true character
  generalize escapeChar true character = written at form member
  cases form with
  | letter apart meaning =>
      rename_i mark
      rcases List.mem_pair.mp member with rfl | rfl
      · exact ⟨by decide, by decide⟩
      · unfold simpleEscape? at meaning
        split at meaning
        case h_9 => contradiction
        all_goals exact ⟨by decide, by decide⟩
  | plain visible ascii quote backslash =>
      cases List.mem_singleton.mp member
      exact ⟨visible, ascii rfl⟩
  | code short => exact printable_escape member
  | halves ascii wide =>
      rcases List.mem_append.mp member with high | low
      · exact printable_escape high
      · exact printable_escape low

end Strings

end Json

end TenantApi
