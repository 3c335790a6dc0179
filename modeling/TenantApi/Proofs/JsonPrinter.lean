import TenantApi.Proofs.JsonStrings
import TenantApi.Proofs.NumberText
import TenantApi.Proofs.PlainData

/-!
Structured text that is read back. What the printer makes of a value is a derivation of the grammar
for that value, in every ASCII style that separates values by a comma and keys by a colon, as long
as the reader takes its integers and strings and no object has a key twice. Other values are never
read, from any text, and integers that were read can always be written.
-/

namespace TenantApi

namespace Json

/-! ## Values -/

mutual

/-- Values that a text can stand for: the integers do not have too many digits, no object has a key
twice, and no two halves of one character stand next to each other. -/
def Readable : Json → Prop
  | .int value => (Text.natDigits value.natAbs).length ≤ Decimal.digitLimit
  | .string text => Apart text
  | .array items => ReadableItems items
  | .object members => (members.map Prod.fst).Nodup ∧ ReadableMembers members
  | _ => True

def ReadableItems : List Json → Prop
  | [] => True
  | item :: rest => Readable item ∧ ReadableItems rest

def ReadableMembers : Members → Prop
  | [] => True
  | (key, value) :: rest => Apart key ∧ Readable value ∧ ReadableMembers rest

end

structure Style.Separates (style : Style) : Prop where
  ascii : style.asciiOnly = true
  comma : ∃ gaps, style.comma = ',' :: gaps ∧ ∀ c ∈ gaps, isGap c = true
  colon : ∃ gaps, style.colon = ':' :: gaps ∧ ∀ c ∈ gaps, isGap c = true

theorem separates_compact : compact.Separates :=
  ⟨rfl, ⟨[], rfl, by simp⟩, ⟨[], rfl, by simp⟩⟩

section Values
variable {halves : Halves} {style : Style} {text rest left : List Char} {parsed : Parsed}

theorem stops_mark (mark : Char) (apart : mark = ',' ∨ mark = ']' ∨ mark = '}') (rest : List Char) :
    Stops (mark :: rest) := by
  rintro c ⟨⟩
  rcases apart with rfl | rfl | rfl <;> decide

theorem begins_solid {c : Char} (good : begins c = true) : isGap c = false := by
  by_contra gap
  simp only [isGap, Bool.not_eq_false, Bool.or_eq_true, decide_eq_true_eq] at gap
  rcases gap with ((rfl | rfl) | rfl) | rfl
  all_goals exact absurd good (by decide)

-- No gap stands in front of what a derivation reads.
theorem Reads.ungapped (read : Reads halves text parsed left) {gaps : List Char}
    (gap : ∀ c ∈ gaps, isGap c = true) : skipGaps (gaps ++ text) = text := by
  obtain ⟨c, rest, rfl, good, _⟩ := read.begun
  rw [skipGaps, List.dropWhile_append_of_pos gap, List.dropWhile_cons_of_neg]
  simp [begins_solid good]

theorem Reads.tight (read : Reads halves text parsed left) : skipGaps text = text :=
  have none : ∀ c ∈ ([] : List Char), isGap c = true := by simp
  read.ungapped none

theorem collect_distinct {members : Members} (distinct : (members.map Prod.fst).Nodup) :
    collect members = members := by
  rw [collect_eq, Keyed.putAll_fresh distinct, List.nil_append]

def renderItems (style : Style) (items : List Json) : List Char :=
  (itemPoints style items).map Point.shown

def renderMembers (style : Style) (members : Members) : List Char :=
  (memberPoints style members).map Point.shown

def renderString (style : Style) (text : LooseText) : List Char :=
  (stringPoints style text).map Point.shown

theorem renderString_ascii (ascii : style.asciiOnly = true) (text : LooseText) :
    renderString style text = '"' :: (text.points.flatMap escaped ++ ['"']) := by
  have same : (text.points.flatMap (escapePoint true)).map Point.shown =
      text.points.flatMap escaped := by
    rw [List.map_flatMap]
    rfl
  rw [renderString, stringPoints, ascii, List.cons_append, List.map_cons, List.map_append, same]
  rfl

theorem renderItems_cons (item next : Json) (items : List Json) :
    renderItems style (item :: next :: items) =
      render style item ++ (style.comma ++ renderItems style (next :: items)) := by
  simp only [renderItems, itemPoints, List.map_append, shown_chars, render, List.append_assoc]

theorem renderMembers_single (key : LooseText) (value : Json) :
    renderMembers style [(key, value)] =
      renderString style key ++ (style.colon ++ render style value) := by
  simp only [renderMembers, memberPoints, List.map_append, shown_chars, render, renderString,
    List.append_assoc]

theorem renderMembers_cons (key : LooseText) (value : Json) (next : LooseText × Json)
    (members : Members) : renderMembers style ((key, value) :: next :: members) =
      renderMembers style [(key, value)] ++
        (style.comma ++ renderMembers style (next :: members)) := by
  simp only [renderMembers, memberPoints, List.map_append, shown_chars, List.append_assoc]

theorem render_int (value : Int) : render style (.int value) = Text.intDigits value := by
  rw [render, points, shown_chars]

theorem render_float (value : Float) :
    render style (.float value) = Decimal.render Decimal.structuredLayout value := by
  rw [render, points, shown_chars]

theorem render_string (text : LooseText) :
    render style (.string text) = renderString style text := by
  rw [render, points, renderString]

theorem render_array (items : List Json) :
    render style (.array items) = '[' :: (renderItems style items ++ [']']) := by
  simp [render, points, renderItems, Point.shown]

theorem render_object (members : Members) :
    render style (.object members) = '\x7b' :: (renderMembers style members ++ ['\x7d']) := by
  simp [render, points, renderMembers, Point.shown]

mutual

/-- What is written for a value is a derivation of it. -/
theorem reads_render (separates : style.Separates) : (value : Json) → value.Readable →
    ∀ {rest : List Char}, Stops rest → Reads halves (render style value ++ rest) (.value value) rest
  | .null, _, _, _ => .plain rfl
  | .bool true, _, _, _ => .plain rfl
  | .bool false, _, _, _ => .plain rfl
  | .int _, short, _, stops => by
      rw [render_int]
      exact .plain (scanPlain_int short stops)
  | .float value, _, _, stops => by
      rw [render_float]
      exact .plain (scanPlain_float value stops)
  | .string text, apart, rest, _ => by
      have read := scanString_text apart halves rest
      simpa [render_string, renderString_ascii separates.ascii] using Reads.string read
  | .array [], _, _, _ => .emptyArray rfl
  | .array (item :: items), readable, rest, _ => by
      have inside := reads_items separates (item :: items) (by simp) readable rest
      rw [← inside.tight] at inside
      simpa [render_array] using Reads.array inside
  | .object [], _, _, _ => .emptyObject rfl
  | .object (member :: members), readable, rest, _ => by
      have inside := reads_members separates (member :: members) (by simp) readable.2 rest
      rw [← inside.tight] at inside
      simpa [render_object, collect_distinct readable.1] using Reads.object inside

theorem reads_items (separates : style.Separates) : (items : List Json) → items ≠ [] →
    ReadableItems items → ∀ rest : List Char,
      Reads halves (renderItems style items ++ ']' :: rest) (.items items) rest
  | [], given, _, _ => absurd rfl given
  | [item], _, readable, rest => by
      have first := reads_render separates item readable.1 (stops_mark ']' (by simp) rest)
      exact .lastItem first rfl
  | item :: next :: items, _, readable, rest => by
      obtain ⟨gaps, comma, gap⟩ := separates.comma
      have others := reads_items separates (next :: items) (by simp) readable.2 rest
      have first := reads_render separates item readable.1 (stops_mark ',' (by simp)
        (gaps ++ (renderItems style (next :: items) ++ ']' :: rest)))
      rw [← others.ungapped gap] at others
      simpa [renderItems_cons, comma] using Reads.item first rfl others

theorem reads_members (separates : style.Separates) : (members : Members) → members ≠ [] →
    ReadableMembers members → ∀ rest : List Char,
      Reads halves (renderMembers style members ++ '}' :: rest) (.members members) rest
  | [], given, _, _ => absurd rfl given
  | [(key, value)], _, ⟨apart, readable, _⟩, rest => by
      obtain ⟨gaps, colon, gap⟩ := separates.colon
      have first := reads_render separates value readable (stops_mark '}' (by simp) rest)
      have name := scanString_text apart halves (':' :: gaps ++ (render style value ++ '}' :: rest))
      rw [← first.ungapped gap] at first
      simpa [renderMembers_single, renderString_ascii separates.ascii, colon] using
        Reads.lastMember name rfl first rfl
  | (key, value) :: next :: members, _, ⟨apart, readable, later⟩, rest => by
      obtain ⟨gaps, colon, gap⟩ := separates.colon
      obtain ⟨more, comma, moreGap⟩ := separates.comma
      have others := reads_members separates (next :: members) (by simp) later rest
      have first := reads_render separates value readable (stops_mark ',' (by simp)
        (more ++ (renderMembers style (next :: members) ++ '}' :: rest)))
      have name := scanString_text apart halves (':' :: gaps ++ (render style value ++
        ',' :: (more ++ (renderMembers style (next :: members) ++ '}' :: rest))))
      rw [← first.ungapped gap] at first
      rw [← others.ungapped moreGap] at others
      simpa [renderMembers_cons, renderMembers_single, renderString_ascii separates.ascii, colon,
        comma] using Reads.member name rfl first rfl others

end

end Values

/-! ## What is read -/

def Parsed.Readable : Parsed → Prop
  | .value read => read.Readable
  | .items read => ReadableItems read
  | .members read => ReadableMembers read

section Read
variable {halves : Halves} {style : Style} {text left : List Char} {value : Json} {parsed : Parsed}

theorem readableMembers_iff {members : Members} :
    ReadableMembers members ↔ ∀ member ∈ members, Apart member.1 ∧ member.2.Readable := by
  induction members with
  | nil => simp [ReadableMembers]
  | cons member rest ih => simp only [ReadableMembers, ih, List.forall_mem_cons, and_assoc]

theorem readable_collect {members : Members} (each : ReadableMembers members) :
    (object (collect members)).Readable := by
  refine ⟨collect_nodup members, readableMembers_iff.mpr fun member among => ?_⟩
  rw [collect_eq] at among
  exact readableMembers_iff.mp each member ((Keyed.mem_putAll among).resolve_left (by simp))

theorem scanString_apart {found : LooseText}
    (scanned : scanString noHalves text = .ok (found, left)) : Apart found := by
  rw [scanString, scan_map] at scanned
  obtain ⟨signs, scanned, rfl⟩ := scanned
  rw [Apart, points_ofPoints]
  exact pointsOf_apart (signs_whole scanned)

theorem scanWhole_digits {whole : List Char} (scanned : scanWhole text = some (whole, left)) :
    whole ≠ [] ∧ ∀ c ∈ whole, Text.isAsciiDigit c = true := by
  unfold scanWhole at scanned
  split at scanned
  case h_1 => contradiction
  case h_2 c rest =>
    split_ifs at scanned with zero digit
    case pos =>
      cases scanned
      exact ⟨by simp, by simp [Text.isAsciiDigit]⟩
    case pos =>
      cases scanned
      exact ⟨by simp [digit], fun c member => List.mem_takeWhile_imp member⟩

theorem scanNumber_readable (scanned : scanNumber text = .ok (value, left)) : value.Readable := by
  simp only [scanNumber] at scanned
  split at scanned
  case h_1 => contradiction
  case h_2 whole after spelled =>
    obtain ⟨given, digit⟩ := scanWhole_digits spelled
    split at scanned
    case h_1 =>
      split at scanned
      case isTrue => contradiction
      case isFalse within =>
        cases scanned
        have short := Text.natDigits_short digit given
        have magnitude (negative : Bool) :
            (Decimal.applySign negative (Text.natOfDigits whole)).natAbs =
              Text.natOfDigits whole := by
          cases negative <;> simp [Decimal.applySign]
        rw [Readable, magnitude]
        exact short.trans (not_lt.mp within)
    case h_2 =>
      cases scanned
      trivial

theorem scanPlain_readable (token : scanPlain text = .ok (value, left)) : value.Readable := by
  unfold scanPlain at token
  split at token
  case h_1 found word =>
    cases token
    obtain ⟨spelled, listed, taken⟩ := List.exists_of_findSome?_eq_some word
    obtain ⟨rest, _, same⟩ := Option.map_eq_some_iff.mp taken
    cases same
    simp only [words, List.mem_cons, List.not_mem_nil, or_false] at listed
    rcases listed with rfl | rfl | rfl | rfl | rfl | rfl <;> trivial
  case h_2 => exact scanNumber_readable token

theorem Reads.readable (read : Reads noHalves text parsed left) : parsed.Readable := by
  induction read with
  | string token => exact scanString_apart token
  | emptyArray => trivial
  | emptyObject => exact ⟨List.nodup_nil, trivial⟩
  | array inside ih => exact ih
  | object inside ih => exact readable_collect ih
  | plain token => exact scanPlain_readable token
  | lastItem first close ih => exact ⟨ih, trivial⟩
  | lastMember name colon first close ih => exact ⟨scanString_apart name, ih, trivial⟩
  | item first comma others ih tail => exact ⟨ih, tail⟩
  | member name colon first comma others ih tail => exact ⟨scanString_apart name, ih, tail⟩

theorem isText_render (separates : style.Separates) (readable : value.Readable) :
    IsText halves (render style value) value := by
  have ended : Stops [] := by simp [Stops]
  have read : Reads halves (render style value ++ []) (.value value) [] :=
    reads_render separates value readable ended
  rw [List.append_nil] at read
  exact ⟨[], read.tight.symm ▸ read, rfl⟩

theorem scanPlain_writable (token : scanPlain text = .ok (value, left)) :
    value.isWritable = true := by
  have readable := scanPlain_readable token
  cases value with
  | int value => exact decide_eq_true readable
  | array items => exact absurd rfl ((plain_flat token).1 items)
  | object members => exact absurd rfl ((plain_flat token).2 members)
  | null | bool | float | string => rfl

theorem membersWritable_iff {members : Members} :
    membersWritable members = true ↔ ∀ member ∈ members, member.2.isWritable = true := by
  induction members with
  | nil => simp [membersWritable]
  | cons member rest ih =>
      simp only [membersWritable, Bool.and_eq_true, ih, List.forall_mem_cons]

def Parsed.isWritable : Parsed → Bool
  | .value read => read.isWritable
  | .items read => areWritable read
  | .members read => membersWritable read

/-- An integer that was read can be written again. -/
theorem Reads.writable (read : Reads halves text parsed left) : parsed.isWritable = true := by
  induction read with
  | string | emptyArray | emptyObject => rfl
  | array inside ih => exact ih
  | object inside ih =>
      rw [Parsed.isWritable, membersWritable_iff] at ih
      rw [Parsed.isWritable, Json.isWritable, membersWritable_iff, collect_eq]
      exact fun member among => ih member ((Keyed.mem_putAll among).resolve_left (by simp))
  | plain token => exact scanPlain_writable token
  | lastItem first close ih | lastMember name colon first close ih =>
      simp only [Parsed.isWritable, areWritable, membersWritable, Bool.and_true]
      exact ih
  | item first comma others ih tail | member name colon first comma others ih tail =>
      simp only [Parsed.isWritable, areWritable, membersWritable, Bool.and_eq_true]
      exact ⟨ih, tail⟩

theorem IsText.writable (read : IsText halves text value) : value.isWritable = true := by
  obtain ⟨left, read, _⟩ := read
  exact read.writable

end Read

/-! ## One line of ASCII -/

structure Style.Printable (style : Style) : Prop where
  ascii : style.asciiOnly = true
  comma : ∀ c ∈ style.comma, IsPrintable c
  colon : ∀ c ∈ style.colon, IsPrintable c

section Printed
variable {style : Style}

theorem printable_digits {digits : List Char} (digit : ∀ c ∈ digits, Text.isAsciiDigit c = true) :
    ∀ c ∈ digits, IsPrintable c := by
  intro c member
  have among := digit c member
  simp only [Text.isAsciiDigit, Bool.and_eq_true, decide_eq_true_eq] at among
  have low : 48 ≤ c.toNat := among.1
  have high : c.toNat ≤ 57 := among.2
  exact ⟨by omega, by omega⟩

theorem printable_sign (negative : Bool) : ∀ c ∈ signText negative, IsPrintable c := by
  cases negative <;> simp [signText, IsPrintable]

theorem printable_spelled {text : List Char} {digits : Nat} {exponent : Int}
    (spells : Spells text digits exponent) : ∀ c ∈ text, IsPrintable c := by
  cases spells with
  | @numeral whole places power _ _ isWhole digit real value =>
      have point : ∀ c ∈ pointText places, IsPrintable c := by
        unfold pointText
        split
        case isTrue => simp
        case isFalse =>
          exact List.forall_mem_cons.mpr ⟨by simp [IsPrintable], printable_digits digit⟩
      have scaled : ∀ c ∈ powerText power, IsPrintable c := by
        cases power with
        | none => simp [powerText]
        | some power =>
            have sign : IsPrintable (if power < 0 then '-' else '+') := by
              split <;> simp [IsPrintable]
            have after := printable_digits (powerDigits_read power).2.1
            exact List.forall_mem_cons.mpr ⟨by simp [IsPrintable],
              List.forall_mem_cons.mpr ⟨sign, after⟩⟩
      exact List.forall_mem_append.mpr ⟨printable_digits isWhole.digit,
        List.forall_mem_append.mpr ⟨point, scaled⟩⟩

theorem printable_float (x : Float) :
    ∀ c ∈ Decimal.render Decimal.structuredLayout x, IsPrintable c := by
  have form := render_text x
  generalize Decimal.render Decimal.structuredLayout x = written at form
  cases form with
  | word listed =>
      have each : ∀ word ∈ words, ∀ c ∈ word.1, IsPrintable c := by
        simp [words, IsPrintable]
      exact each _ listed
  | numeral spells reads =>
      exact List.forall_mem_append.mpr ⟨printable_sign _, printable_spelled spells⟩

theorem printable_int (value : Int) : ∀ c ∈ Text.intDigits value, IsPrintable c := by
  have digits := printable_digits (natDigits_whole value.natAbs).digit
  unfold Text.intDigits
  split
  case isTrue => exact List.forall_mem_cons.mpr ⟨by simp [IsPrintable], digits⟩
  case isFalse => exact digits

theorem printable_string (printable : style.Printable) (text : LooseText) :
    ∀ c ∈ renderString style text, IsPrintable c := by
  have inside : ∀ c ∈ text.points.flatMap escaped, IsPrintable c := by
    intro c member
    obtain ⟨point, _, among⟩ := List.mem_flatMap.mp member
    cases point with
    | char character =>
        rw [escaped_char] at among
        exact printable_char among
    | half offset =>
        rw [escaped_half] at among
        exact printable_escape among
  have quote : IsPrintable '"' := by simp [IsPrintable]
  simpa [renderString_ascii printable.ascii, or_imp, forall_and, quote] using inside

mutual

/-- Whatever the value is, its text is one line of printable ASCII. -/
theorem printable_render (printable : style.Printable) :
    (value : Json) → ∀ c ∈ render style value, IsPrintable c
  | .null | .bool true | .bool false => by simp [render, points, Point.shown, IsPrintable]
  | .int value => by
      rw [render_int]
      exact printable_int value
  | .float value => by
      rw [render_float]
      exact printable_float value
  | .string text => by
      rw [render_string]
      exact printable_string printable text
  | .array items => by
      have inside := printable_items printable items
      have brackets : IsPrintable '[' ∧ IsPrintable ']' := by simp [IsPrintable]
      rw [render_array]
      simpa [or_imp, forall_and, brackets] using inside
  | .object members => by
      have inside := printable_members printable members
      have brackets : IsPrintable '\x7b' ∧ IsPrintable '\x7d' := by simp [IsPrintable]
      rw [render_object]
      simpa [or_imp, forall_and, brackets] using inside

theorem printable_items (printable : style.Printable) :
    (items : List Json) → ∀ c ∈ renderItems style items, IsPrintable c
  | [] => by simp [renderItems, itemPoints]
  | [item] => printable_render printable item
  | item :: next :: rest => by
      have first := printable_render printable item
      have others := printable_items printable (next :: rest)
      rw [renderItems_cons]
      simp only [List.forall_mem_append]
      exact ⟨first, printable.comma, others⟩

theorem printable_members (printable : style.Printable) :
    (members : Members) → ∀ c ∈ renderMembers style members, IsPrintable c
  | [] => by simp [renderMembers, memberPoints]
  | [(key, value)] => by
      have first := printable_render printable value
      rw [renderMembers_single]
      simp only [List.forall_mem_append]
      exact ⟨printable_string printable key, printable.colon, first⟩
  | (key, value) :: next :: rest => by
      have first := printable_render printable value
      have others := printable_members printable (next :: rest)
      rw [renderMembers_cons, renderMembers_single]
      simp only [List.forall_mem_append]
      exact ⟨⟨printable_string printable key, printable.colon, first⟩, printable.comma, others⟩

end

end Printed

end Json

end TenantApi
