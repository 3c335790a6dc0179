import TenantApi.Proofs.AddressGrammar
import TenantApi.Proofs.Percent

/-!
What address literals consist of. Outside of a zone there are only hexadecimal digits, points and
colons; a zone is any text at all without a further percent sign or a slash, and every address of
version 6 takes every zone.
-/

namespace TenantApi

namespace Text

/-- A character of a well-formed field value: neither a blank, nor a control, nor beyond ASCII. -/
def IsVisible (c : Char) : Prop := 0x21 ≤ c.toNat ∧ c.toNat ≤ 0x7e

end Text

namespace IpAddress

open Text (IsVisible cutFirst_iff cutFirst_none_iff)

def IsAddressChar (c : Char) : Prop := (Text.hexValue? c).isSome = true ∨ c = '.' ∨ c = ':'

section Characters
variable {c : Char}

theorem address_visible (found : IsAddressChar c) : IsVisible c := by
  rcases found with hex | rfl | rfl
  · exact Url.unreserved_visible (Url.isHex_unreserved hex)
  · exact ⟨by decide, by decide⟩
  · exact ⟨by decide, by decide⟩

theorem address_unmarked (found : IsAddressChar c) : c ≠ '%' ∧ c ≠ '/' := by
  constructor
  · rintro rfl
    revert found
    simp [IsAddressChar, Text.hexValue?]
  · rintro rfl
    revert found
    simp [IsAddressChar, Text.hexValue?]

end Characters

section Addresses
variable {text : List Char}

theorem version4_address (four : IsVersion4 text) : ∀ c ∈ text, IsAddressChar c := by
  obtain ⟨octets, _, each, rfl⟩ := four
  intro c member
  rcases Text.mem_join member with rfl | ⟨octet, listed, inside⟩
  · exact .inr (.inl rfl)
  · exact .inl (hexValue_iff.mpr (.inl ((each octet listed).digits c inside)))

theorem group_address (group : IsGroup text) : ∀ c ∈ text, IsAddressChar c :=
  fun c member => .inl (hexValue_iff.mpr (group.digits c member))

theorem row_address {n : Nat} (row : Row ':' IsGroup n text) : ∀ c ∈ text, IsAddressChar c := by
  obtain ⟨groups, _, each, rfl⟩ := row
  intro c member
  rcases Text.mem_join member with rfl | ⟨group, listed, inside⟩
  · exact .inr (.inr rfl)
  · exact group_address (each group listed) c inside

theorem tail_address {n : Nat} (tail : IsTail n text) : ∀ c ∈ text, IsAddressChar c := by
  cases tail with
  | plain row => exact row_address row
  | mixed each four =>
      intro c member
      rcases Text.mem_join member with rfl | ⟨piece, listed, inside⟩
      · exact .inr (.inr rfl)
      · rcases List.mem_append.mp listed with early | late
        · exact group_address (each piece early) c inside
        · rw [List.mem_singleton.mp late] at inside
          exact version4_address four c inside

theorem version6_address (six : IsVersion6 text) : ∀ c ∈ text, IsAddressChar c := by
  cases six with
  | full tail => exact tail_address tail
  | gap front tail =>
      intro c member
      rw [List.mem_append, List.mem_cons, List.mem_cons] at member
      rcases member with early | rfl | rfl | late
      · exact row_address front c early
      · exact .inr (.inr rfl)
      · exact .inr (.inr rfl)
      · exact tail_address tail c late

end Addresses

section Literals
variable {text address zone : List Char}

theorem version6_plain (six : IsVersion6 address) : '%' ∉ address ∧ '/' ∉ address :=
  ⟨fun marked => (address_unmarked (version6_address six _ marked)).1 rfl,
    fun slashed => (address_unmarked (version6_address six _ slashed)).2 rfl⟩

theorem isVersion6_iff : isVersion6 text = true ↔
    IsVersion6 text ∨ ∃ address zone, text = address ++ '%' :: zone ∧
      IsVersion6 address ∧ IsZone zone := by
  simp only [isVersion6, Bool.and_eq_true, Bool.not_eq_true', List.contains_eq_mem,
    decide_eq_false_iff_not]
  constructor
  · rintro ⟨unslashed, accepted⟩
    split at accepted
    case h_1 => exact .inl (isVersion6Address_iff.mp accepted)
    case h_2 address zone cut =>
      simp only [Bool.and_eq_true, Bool.not_eq_true', decide_eq_false_iff_not,
        List.isEmpty_eq_false_iff, isVersion6Address_iff] at accepted
      obtain ⟨⟨named, unmarked⟩, six⟩ := accepted
      obtain ⟨rfl, _⟩ := cutFirst_iff.mp cut
      have free : '/' ∉ zone := fun slashed => unslashed (by simp [slashed])
      exact .inr ⟨address, zone, rfl, six, ⟨named, unmarked, free⟩⟩
  · rintro (six | ⟨address, zone, rfl, six, isZone⟩)
    · rw [cutFirst_none_iff.mpr (version6_plain six).1]
      exact ⟨(version6_plain six).2, isVersion6Address_iff.mpr six⟩
    · rw [cutFirst_iff.mpr ⟨rfl, (version6_plain six).1⟩]
      simp [isVersion6Address_iff.mpr six, isZone.named, isZone.unmarked, isZone.unslashed,
        (version6_plain six).2]

-- The readers accept the texts of the grammar and no others.
theorem literal_iff : isLiteral text = true ↔ IsLiteral text := by
  rw [isLiteral, Bool.or_eq_true, isVersion4_iff, isVersion6_iff]
  constructor
  · rintro (four | six | ⟨address, zone, rfl, six, isZone⟩)
    · exact .version4 four
    · exact .version6 six
    · exact .zoned six isZone
  · intro literal
    cases literal with
    | version4 four => exact .inl four
    | version6 six => exact .inr (.inl six)
    | zoned six isZone => exact .inr (.inr ⟨_, _, rfl, six, isZone⟩)

theorem literal_cases (accepted : isLiteral text = true) :
    (∀ c ∈ text, IsAddressChar c) ∨ ∃ address zone, text = address ++ '%' :: zone ∧
      (∀ c ∈ address, IsAddressChar c) ∧ IsZone zone ∧
        ∀ other, IsZone other → isLiteral (address ++ '%' :: other) = true := by
  cases literal_iff.mp accepted with
  | version4 four => exact .inl (version4_address four)
  | version6 six => exact .inl (version6_address six)
  | @zoned address zone six isZone =>
      refine .inr ⟨address, zone, rfl, version6_address six, isZone, fun other isOther => ?_⟩
      exact literal_iff.mpr (.zoned six isOther)

-- The zone is all that can be unfit.
theorem visible_iff (accepted : isLiteral text = true) : (∀ c ∈ text, IsVisible c) ↔
    ∀ front zone, text = front ++ '%' :: zone → ∀ c ∈ zone, IsVisible c := by
  constructor
  · rintro visible front zone rfl c member
    exact visible c (by simp [member])
  · intro zoned c member
    rcases literal_cases accepted with plain | ⟨address, zone, whole, plain, _⟩
    · exact address_visible (plain c member)
    · have rest := zoned address zone whole
      rw [whole, List.mem_append, List.mem_cons] at member
      rcases member with inside | rfl | inside
      · exact address_visible (plain c inside)
      · exact ⟨by decide, by decide⟩
      · exact rest c inside

theorem cut_unique {front : List Char} (before : '%' ∉ address) (after : '%' ∉ zone)
    (same : address ++ '%' :: zone = front ++ '%' :: text) : address = front ∧ zone = text := by
  have inFront : '%' ∉ front := by
    intro marked
    have counts := congrArg (List.count '%') same
    have none : List.count '%' address = 0 := List.count_eq_zero.mpr before
    have alone : List.count '%' zone = 0 := List.count_eq_zero.mpr after
    have more : 0 < List.count '%' front := List.count_pos_iff.mpr marked
    simp only [List.count_append, List.count_cons_self] at counts
    omega
  have cut := cutFirst_iff.mpr ⟨same, inFront⟩
  rw [cutFirst_iff.mpr ⟨rfl, before⟩] at cut
  simpa using cut

theorem zone_replaced {front other : List Char} (accepted : isLiteral (front ++ '%' :: zone) = true)
    (isOther : IsZone other) : isLiteral (front ++ '%' :: other) = true := by
  rcases literal_cases accepted with plain | ⟨address, named, whole, plain, isZone, every⟩
  · exact absurd rfl (address_unmarked (plain '%' (by simp))).1
  · have unmarked : '%' ∉ address := fun marked => (address_unmarked (plain _ marked)).1 rfl
    obtain ⟨rfl, rfl⟩ := cut_unique unmarked isZone.unmarked whole.symm
    exact every other isOther

end Literals

end IpAddress

end TenantApi
