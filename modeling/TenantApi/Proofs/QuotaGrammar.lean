import TenantApi.Proofs.QuotaSegments

/-!
What a quota segment says. A segment that can be read at all gives a limit exactly when its parts
describe one: a bucket and three counts, each under a key of its own. Neither the order of the parts
nor a part under a further key makes a difference, and a segment that describes nothing gives none.
-/

namespace TenantApi.Quota

open Fallible (bind_ok)

def requiredKeys : List (List Char) := [['b'], ['q'], ['r'], ['t']]

-- Zeros may stand in front, so the bound is on the number and not on the digits.
structure Counts (text : List Char) (n : Nat) : Prop where
  written : text ≠ []
  digits : ∀ c ∈ text, '0' ≤ c ∧ c ≤ '9'
  value : n = Nat.ofDigits 10 (text.reverse.map fun c => c.toNat - '0'.toNat)
  bounded : n ≤ 2 ^ 31 - 1

def Describes (segment : String) (limit : Limit) (bucket : String) : Prop :=
  ∃ parts quota remaining reset, IsSegment segment.toList parts ∧
    (['b'], bucket.toList) ∈ parts ∧
    (['q'], quota) ∈ parts ∧ Counts quota limit.quota ∧
    (['r'], remaining) ∈ parts ∧ Counts remaining limit.remaining ∧
    (['t'], reset) ∈ parts ∧ Counts reset limit.resetAfter

section Counting
variable {text : List Char} {n : Nat}

theorem numberLimit_eq : numberLimit = 2 ^ 31 - 1 := rfl

theorem number_iff (readable : ¬Overlong text) : number text = .ok (some n) ↔ Counts text n := by
  have value := Text.natOfDigits_eq text
  by_cases written : text = []
  · constructor
    · intro read
      simp [number, written] at read
    · intro counts
      exact absurd written counts.written
  by_cases digits : text.all Text.isAsciiDigit = true
  · have short : ¬Decimal.digitLimit < text.length := fun long => readable ⟨digits, long⟩
    simp only [number, List.isEmpty_iff, written, digits, short, Bool.not_true, Bool.or_false,
      ↓reduceIte, Except.ok.injEq]
    rw [Option.ite_none_right_eq_some, Option.some.injEq]
    constructor
    · rintro ⟨bounded, rfl⟩
      exact ⟨written, Text.digits_iff.mp digits, value, numberLimit_eq ▸ bounded⟩
    · rintro ⟨_, _, denoted, bounded⟩
      rw [← value] at denoted
      exact ⟨numberLimit_eq ▸ denoted ▸ bounded, denoted.symm⟩
  · constructor
    · intro read
      simp [number, digits] at read
    · intro counts
      exact absurd (Text.digits_iff.mpr counts.digits) digits

end Counting

section Reading
variable {segment left right : String} {limit : Limit} {bucket : String}
  {parts others : List (List Char × List Char)}

-- In a readable segment with all required parts, no count is too long.
theorem readable_counts (readable : ¬Unreadable segment) (formed : IsSegment segment.toList parts)
    {name quota remaining reset : List Char} (atB : (['b'], name) ∈ parts)
    (atQ : (['q'], quota) ∈ parts) (atR : (['r'], remaining) ∈ parts)
    (atT : (['t'], reset) ∈ parts) :
    ¬Overlong quota ∧ ¬Overlong remaining ∧ ¬Overlong reset := by
  have unread := fun overlong =>
    readable ⟨parts, name, quota, remaining, reset, formed, atB, atQ, atR, atT, overlong⟩
  exact ⟨fun long => unread (.inl long), fun long => unread (.inr (.inl long)),
    fun long => unread (.inr (.inr long))⟩

theorem readable_of_read {outcome : Option (Limit × String)}
    (read : parseSegment segment = .ok outcome) : ¬Unreadable segment := by
  rw [← parseSegment_error_iff]
  rintro ⟨fault, failed⟩
  rw [read] at failed
  contradiction

theorem parseSegment_some_iff (readable : ¬Unreadable segment) :
    parseSegment segment = .ok (some (limit, bucket)) ↔ Describes segment limit bucket := by
  constructor
  · intro read
    simp only [parseSegment] at read
    split at read
    case h_1 => simp [pure, Except.pure] at read
    case h_2 parts found =>
      have formed := parts_iff.mp found
      split at read
      case h_2 => simp [pure, Except.pure] at read
      case h_1 name quota remaining reset atB atQ atR atT =>
        rw [lookup_iff formed.distinct] at atB atQ atR atT
        obtain ⟨shortQ, shortR, shortT⟩ := readable_counts readable formed atB atQ atR atT
        simp only [bind_ok] at read
        obtain ⟨a, readA, b, readB, c, readC, made⟩ := read
        split at made
        case h_2 => simp [pure, Except.pure] at made
        case h_1 a b c =>
          simp only [pure, Except.pure, Except.ok.injEq, Option.some.injEq, Prod.mk.injEq] at made
          obtain ⟨rfl, rfl⟩ := made
          rw [number_iff] at readA readB readC
          · exact ⟨parts, quota, remaining, reset, formed, by simpa using atB, atQ, readA, atR,
              readB, atT, readC⟩
          all_goals assumption
  · rintro ⟨parts, quota, remaining, reset, formed, atB, atQ, isQ, atR, isR, atT, isT⟩
    obtain ⟨shortQ, shortR, shortT⟩ := readable_counts readable formed atB atQ atR atT
    have found {key value : List Char} : parts.lookup key = some value ↔ (key, value) ∈ parts :=
      lookup_iff formed.distinct
    simp only [parseSegment, parts_iff.mpr formed, found.mpr atB, found.mpr atQ, found.mpr atR,
      found.mpr atT, (number_iff shortQ).mpr isQ, (number_iff shortR).mpr isR,
      (number_iff shortT).mpr isT]
    simp [bind, Except.bind, pure, Except.pure]

theorem parseSegment_none_iff (readable : ¬Unreadable segment) :
    parseSegment segment = .ok none ↔ ¬∃ limit bucket, Describes segment limit bucket := by
  simp only [← parseSegment_some_iff readable]
  cases read : parseSegment segment with
  | error fault => exact absurd (parseSegment_error_iff.mp ⟨fault, read⟩) readable
  | ok outcome =>
      cases outcome with
      | none => simp
      | some found =>
          obtain ⟨limit, bucket⟩ := found
          simp

theorem parseSegment_malformed (malformed : ¬∃ parts, IsSegment segment.toList parts) :
    parseSegment segment = .ok none := by
  have unread : parts? segment.toList = none := by
    apply Option.eq_none_iff_forall_ne_some.mpr
    intro parts read
    exact malformed ⟨parts, parts_iff.mp read⟩
  simp [parseSegment, unread, pure, Except.pure]

-- Nothing but the required parts is looked at.
theorem parseSegment_congr (formed : IsSegment left.toList parts)
    (formedRight : IsSegment right.toList others)
    (agree : ∀ key ∈ requiredKeys, ∀ value, (key, value) ∈ parts ↔ (key, value) ∈ others) :
    parseSegment left = parseSegment right := by
  have same : ∀ key ∈ requiredKeys, parts.lookup key = others.lookup key := by
    intro key required
    apply Option.ext
    intro value
    rw [lookup_iff formed.distinct, lookup_iff formedRight.distinct]
    exact agree key required value
  have atB := same ['b'] (by simp [requiredKeys])
  have atQ := same ['q'] (by simp [requiredKeys])
  have atR := same ['r'] (by simp [requiredKeys])
  have atT := same ['t'] (by simp [requiredKeys])
  simp only [parseSegment, parts_iff.mpr formed, parts_iff.mpr formedRight, atB, atQ, atR, atT]

end Reading

section Arranging
variable {text other : List Char} {parts : List (List Char × List Char)}

theorem IsSegment.perm (formed : IsSegment text parts)
    (order : (Text.splitAt ';' other).Perm (Text.splitAt ';' text)) :
    ∃ others, IsSegment other others ∧ others.Perm parts := by
  obtain ⟨others, wellFormed, moved⟩ := List.perm_comp_forall₂ order formed.wellFormed
  exact ⟨others, ⟨wellFormed, (moved.map Prod.fst).nodup_iff.mpr formed.distinct⟩, moved⟩

theorem IsSegment.cons {piece : List Char} {part : List Char × List Char}
    (formed : IsSegment text parts) (free : ';' ∉ piece) (isPart : IsPart piece part)
    (fresh : part.1 ∉ parts.map Prod.fst) :
    IsSegment (piece ++ ';' :: text) (part :: parts) := by
  constructor
  · rw [Text.splitAt_append piece text free]
    exact .cons isPart formed.wellFormed
  · rw [List.map_cons, List.nodup_cons]
    exact ⟨fresh, formed.distinct⟩

theorem IsSegment.tail {piece : List Char} (formed : IsSegment (piece ++ ';' :: text) parts)
    (free : ';' ∉ piece) : ∃ rest, IsSegment text rest := by
  obtain ⟨wellFormed, distinct⟩ := formed
  rw [Text.splitAt_append piece text free] at wellFormed
  cases wellFormed with
  | cons first others =>
      rw [List.map_cons, List.nodup_cons] at distinct
      exact ⟨_, others, distinct.2⟩

theorem parseSegment_perm {segment arranged : String}
    (order : (Text.splitAt ';' arranged.toList).Perm (Text.splitAt ';' segment.toList)) :
    parseSegment arranged = parseSegment segment := by
  by_cases formed : ∃ parts, IsSegment segment.toList parts
  · obtain ⟨parts, formed⟩ := formed
    obtain ⟨others, formedOther, moved⟩ := formed.perm order
    apply parseSegment_congr formedOther formed
    intro key _ value
    exact moved.mem_iff
  · have unformed : ¬∃ parts, IsSegment arranged.toList parts := by
      rintro ⟨others, formedOther⟩
      obtain ⟨parts, again, _⟩ := formedOther.perm order.symm
      exact formed ⟨parts, again⟩
    rw [parseSegment_malformed formed, parseSegment_malformed unformed]

theorem parseSegment_extended {segment : String} {piece key value : List Char}
    (free : ';' ∉ piece) (isPart : IsPart piece (key, value)) (unknown : key ∉ requiredKeys)
    (fresh : ∀ parts, IsSegment segment.toList parts → key ∉ parts.map Prod.fst) :
    parseSegment (String.ofList (piece ++ ';' :: segment.toList)) = parseSegment segment := by
  have whole : (String.ofList (piece ++ ';' :: segment.toList)).toList =
      piece ++ ';' :: segment.toList := String.toList_ofList
  by_cases formed : ∃ parts, IsSegment segment.toList parts
  · obtain ⟨parts, formed⟩ := formed
    have extended := formed.cons free isPart (fresh parts formed)
    rw [← whole] at extended
    apply parseSegment_congr extended formed
    intro name required content
    have other : name ≠ key := fun same => unknown (same ▸ required)
    simp [other]
  · have unformed :
        ¬∃ parts, IsSegment (String.ofList (piece ++ ';' :: segment.toList)).toList parts := by
      rintro ⟨parts, extended⟩
      rw [whole] at extended
      exact formed (extended.tail free)
    rw [parseSegment_malformed formed, parseSegment_malformed unformed]

end Arranging

-- A part may be added in any place, since the order makes no difference.
theorem segment_grammar (segment : String) (readable : ¬Unreadable segment) :
    (∀ limit bucket, parseSegment segment = .ok (some (limit, bucket)) ↔
      Describes segment limit bucket) ∧
    (parseSegment segment = .ok none ↔ ¬∃ limit bucket, Describes segment limit bucket) ∧
    (∀ arranged : String,
      (Text.splitAt ';' arranged.toList).Perm (Text.splitAt ';' segment.toList) →
        parseSegment arranged = parseSegment segment) ∧
    ∀ (extended : String) (piece key value : List Char),
      IsPart piece (key, value) → key ∉ requiredKeys →
      (∀ parts, IsSegment segment.toList parts → key ∉ parts.map Prod.fst) →
      (Text.splitAt ';' extended.toList).Perm (piece :: Text.splitAt ';' segment.toList) →
        parseSegment extended = parseSegment segment := by
  refine ⟨fun limit bucket => parseSegment_some_iff readable, parseSegment_none_iff readable,
    fun arranged order => parseSegment_perm order, ?_⟩
  intro extended piece key value isPart unknown fresh order
  have free : ';' ∉ piece :=
    Text.splitAt_pieces_free extended.toList piece (order.mem_iff.mpr List.mem_cons_self)
  rw [← parseSegment_extended free isPart unknown fresh]
  apply parseSegment_perm
  rw [String.toList_ofList, Text.splitAt_append piece segment.toList free]
  exact order

section Example

def exampleUsage : String := "t=924;note=a=b;b=per=hour;q=0010;r=9"

theorem segment_grammar_example :
    ¬Unreadable exampleUsage ∧
      parseSegment exampleUsage = .ok (some (⟨10, 9, 924⟩, "per=hour")) ∧
        Describes exampleUsage ⟨10, 9, 924⟩ "per=hour" := by
  have read : parseSegment exampleUsage = .ok (some (⟨10, 9, 924⟩, "per=hour")) := by
    decide +kernel
  have readable := readable_of_read read
  exact ⟨readable, read, ((segment_grammar exampleUsage readable).1 _ _).mp read⟩

end Example

end TenantApi.Quota
