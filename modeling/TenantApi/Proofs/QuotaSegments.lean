import TenantApi.Proofs.Fallible
import TenantApi.Proofs.Text
import TenantApi.Quota

/-!
The grammar of quota segments. A segment is read exactly when it is a list of parts with distinct
keys. The numbers of its three counts are the one thing that can fail to be read at all, and they do
so exactly when one of them is a run of ASCII digits beyond the limit.
-/

namespace TenantApi.Quota

open Fallible (mapM_some_iff)

/-- A part of a segment: a key and a value, neither empty, with the first mark between them. -/
structure IsPart (text : List Char) (part : List Char × List Char) : Prop where
  text : text = part.1 ++ '=' :: part.2
  firstMark : '=' ∉ part.1
  named : part.1 ≠ []
  valued : part.2 ≠ []

structure IsSegment (segment : List Char) (parts : List (List Char × List Char)) : Prop where
  wellFormed : List.Forall₂ IsPart (Text.splitAt ';' segment) parts
  distinct : (parts.map Prod.fst).Nodup

section Grammar
variable {text segment : List Char} {parts : List (List Char × List Char)}

theorem part_iff {part : List Char × List Char} : part? text = some part ↔ IsPart text part := by
  obtain ⟨key, value⟩ := part
  simp only [part?]
  constructor
  · intro read
    split at read
    case h_2 => contradiction
    case h_1 left right cut =>
      split at read
      case isTrue => contradiction
      case isFalse full =>
        simp only [Option.some.injEq, Prod.mk.injEq] at read
        obtain ⟨rfl, rfl⟩ := read
        have first := Text.cutFirst_iff.mp cut
        simp only [Bool.or_eq_true, List.isEmpty_iff, not_or] at full
        exact ⟨first.1, first.2, full.1, full.2⟩
  · rintro ⟨whole, firstMark, named, valued⟩
    rw [Text.cutFirst_iff.mpr ⟨whole, firstMark⟩]
    simp only at named valued
    simp [named, valued]

theorem parts_iff : parts? segment = some parts ↔ IsSegment segment parts := by
  have wellFormed : (Text.splitAt ';' segment).mapM part? = some parts ↔
      List.Forall₂ IsPart (Text.splitAt ';' segment) parts := by
    simp only [mapM_some_iff, part_iff]
  simp only [parts?]
  constructor
  · intro read
    split at read
    case h_2 => contradiction
    case h_1 found split =>
      split at read
      case isFalse => contradiction
      case isTrue distinct =>
        simp only [Option.some.injEq] at read
        subst read
        exact ⟨mapM_some_iff.mp split |>.imp fun _ _ => part_iff.mp, distinct⟩
  · rintro ⟨formed, distinct⟩
    simp only [wellFormed.mpr formed, distinct, ↓reduceIte]

theorem lookup_iff {key value : List Char} (distinct : (parts.map Prod.fst).Nodup) :
    parts.lookup key = some value ↔ (key, value) ∈ parts := by
  induction parts with
  | nil => simp
  | cons part rest ih =>
      obtain ⟨name, content⟩ := part
      rw [List.map_cons, List.nodup_cons] at distinct
      rw [List.lookup_cons, List.mem_cons]
      by_cases same : key = name
      · subst same
        have absent : (key, value) ∉ rest := fun member =>
          distinct.1 (List.mem_map.mpr ⟨_, member, rfl⟩)
        simp [absent, eq_comm]
      · have other : (key == name) = false := beq_eq_false_iff_ne.mpr same
        simp [other, same, ih distinct.2]

end Grammar

def Overlong (text : List Char) : Prop :=
  text.all Text.isAsciiDigit = true ∧ Decimal.digitLimit < text.length

/-- A segment with the four parts that are needed, one of whose counts is too long to be read. -/
def Unreadable (segment : String) : Prop :=
  ∃ parts bucket quota remaining reset, IsSegment segment.toList parts ∧
    (['b'], bucket) ∈ parts ∧ (['q'], quota) ∈ parts ∧ (['r'], remaining) ∈ parts ∧
    (['t'], reset) ∈ parts ∧ (Overlong quota ∨ Overlong remaining ∨ Overlong reset)

section Refusing
variable {text : List Char} {segment : String}

theorem number_error_iff : (∃ fault, number text = .error fault) ↔ Overlong text := by
  simp only [number, Overlong]
  by_cases digits : text.all Text.isAsciiDigit = true
  · by_cases long : Decimal.digitLimit < text.length
    · have some : text ≠ [] := by
        rintro rfl
        contradiction
      simp [some, digits, long]
    · simp only [digits, long, Bool.not_true, Bool.or_false, ↓reduceIte, true_and, iff_false]
      split <;> simp
  · simp [digits]

-- The three counts are all read before any of them is looked at.
theorem counts_error_iff {quota remaining reset : List Char} {ε : Type}
    {next : Option Nat → Option Nat → Option Nat → Except TooManyDigits ε}
    (total : ∀ a b c, ∃ value, next a b c = .ok value) :
    (∃ fault, (do next (← number quota) (← number remaining) (← number reset)) = .error fault) ↔
      Overlong quota ∨ Overlong remaining ∨ Overlong reset := by
  simp only [← number_error_iff]
  cases first : number quota with
  | error fault => simp [bind, Except.bind]
  | ok a =>
      cases second : number remaining with
      | error fault => simp [bind, Except.bind]
      | ok b =>
          cases third : number reset with
          | error fault => simp [bind, Except.bind]
          | ok c =>
              obtain ⟨value, made⟩ := total a b c
              simp [bind, Except.bind, made]

theorem parseSegment_error_iff :
    (∃ fault, parseSegment segment = .error fault) ↔ Unreadable segment := by
  simp only [parseSegment]
  constructor
  · rintro ⟨fault, failed⟩
    split at failed
    case h_1 => contradiction
    case h_2 parts read =>
      have formed := parts_iff.mp read
      split at failed
      case h_2 => contradiction
      case h_1 bucket quota remaining reset atB atQ atR atT =>
        refine ⟨parts, bucket, quota, remaining, reset, formed, (lookup_iff formed.distinct).mp atB,
          (lookup_iff formed.distinct).mp atQ, (lookup_iff formed.distinct).mp atR,
          (lookup_iff formed.distinct).mp atT, ?_⟩
        refine (counts_error_iff ?_).mp ⟨fault, failed⟩
        intro a b c
        split <;> exact ⟨_, rfl⟩
  · rintro ⟨parts, bucket, quota, remaining, reset, formed, atB, atQ, atR, atT, overlong⟩
    have found {key value : List Char} : parts.lookup key = some value ↔ (key, value) ∈ parts :=
      lookup_iff formed.distinct
    simp only [parts_iff.mpr formed, found.mpr atB, found.mpr atQ, found.mpr atR, found.mpr atT]
    refine (counts_error_iff ?_).mpr overlong
    intro a b c
    split <;> exact ⟨_, rfl⟩

end Refusing

end TenantApi.Quota
