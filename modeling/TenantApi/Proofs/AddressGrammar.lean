import Mathlib.Data.List.Basic
import Mathlib.Data.List.Nodup
import TenantApi.IpAddress
import TenantApi.Proofs.Text

/-!
The grammar of address literals. A version 4 address is four numbers between points. A version 6
address is eight groups between colons, or fewer around one gap, and its last two groups may be
written as a version 4 address. The readers cut a text at its marks and look at the pieces; the
grammar puts texts together from pieces, so that the two meet in lists of pieces.
-/

namespace TenantApi

namespace IpAddress

open Text (join splitAt splitAt_concat splitAt_free splitAt_separator splitAt_join join_splitAt
  splitAt_ne_nil)

/-- A number up to 255 in one to three digits, without zeros in front. -/
structure IsOctet (text : List Char) : Prop where
  length : 1 ≤ text.length ∧ text.length ≤ 3
  digits : ∀ c ∈ text, '0' ≤ c ∧ c ≤ '9'
  bare : text.head? = some '0' → text = ['0']
  bounded : Nat.ofDigits 10 (text.reverse.map fun c => c.toNat - '0'.toNat) ≤ 255

def IsHexDigit (c : Char) : Prop :=
  ('0' ≤ c ∧ c ≤ '9') ∨ ('a' ≤ c ∧ c ≤ 'f') ∨ ('A' ≤ c ∧ c ≤ 'F')

structure IsGroup (text : List Char) : Prop where
  length : 1 ≤ text.length ∧ text.length ≤ 4
  digits : ∀ c ∈ text, IsHexDigit c

/-- So many pieces in a row, with a mark between neighbours. -/
def Row (mark : Char) (IsPiece : List Char → Prop) (n : Nat) (text : List Char) : Prop :=
  ∃ pieces : List (List Char), pieces.length = n ∧ (∀ piece ∈ pieces, IsPiece piece) ∧
    text = join [mark] pieces

def IsVersion4 (text : List Char) : Prop := Row '.' IsOctet 4 text

/-- So many groups at the end of an address; the last two may be written as a version 4 address. -/
inductive IsTail : Nat → List Char → Prop where
  | plain {n : Nat} {text : List Char} (row : Row ':' IsGroup n text) : IsTail n text
  | mixed {groups : List (List Char)} {last : List Char} (each : ∀ group ∈ groups, IsGroup group)
      (version4 : IsVersion4 last) : IsTail (groups.length + 2) (join [':'] (groups ++ [last]))

/-- Eight groups, or fewer on both sides of a gap that stands for the others. -/
inductive IsVersion6 : List Char → Prop where
  | full {text : List Char} (tail : IsTail 8 text) : IsVersion6 text
  | gap {n m : Nat} {before after : List Char} (front : Row ':' IsGroup n before)
      (tail : IsTail m after) (room : n + m < 8) : IsVersion6 (before ++ ':' :: ':' :: after)

structure IsZone (zone : List Char) : Prop where
  named : zone ≠ []
  unmarked : '%' ∉ zone
  unslashed : '/' ∉ zone

inductive IsLiteral : List Char → Prop where
  | version4 {text : List Char} (four : IsVersion4 text) : IsLiteral text
  | version6 {text : List Char} (address : IsVersion6 text) : IsLiteral text
  | zoned {address zone : List Char} (version6 : IsVersion6 address) (isZone : IsZone zone) :
      IsLiteral (address ++ '%' :: zone)

/-! ## Numbers and groups -/

section Pieces
variable {text : List Char}

theorem isOctet_iff : isOctet text = true ↔ IsOctet text := by
  simp only [isOctet, Bool.and_eq_true, Bool.or_eq_true, Bool.not_eq_true', decide_eq_true_eq,
    List.isEmpty_eq_false_iff, Text.digits_iff, Text.natOfDigits_eq]
  constructor
  · rintro ⟨⟨⟨⟨written, short⟩, digits⟩, bare⟩, bounded⟩
    refine ⟨⟨List.length_pos_iff.mpr written, short⟩, digits, fun zero => ?_, bounded⟩
    exact bare.resolve_right fun other => other zero
  · rintro ⟨⟨written, short⟩, digits, bare, bounded⟩
    refine ⟨⟨⟨⟨List.length_pos_iff.mp written, short⟩, digits⟩, ?_⟩, bounded⟩
    by_cases zero : text.head? = some '0'
    · exact .inl (bare zero)
    · exact .inr zero

theorem hexValue_iff {c : Char} : (Text.hexValue? c).isSome = true ↔ IsHexDigit c := by
  simp only [Text.hexValue?, IsHexDigit, Bool.and_eq_true, decide_eq_true_eq]
  split
  case isTrue digit => simp [digit]
  case isFalse notDigit =>
    split
    case isTrue small => simp [small]
    case isFalse notSmall => split <;> simp_all

theorem isGroup_iff : isGroup text = true ↔ IsGroup text := by
  simp only [isGroup, Bool.and_eq_true, Bool.not_eq_true', decide_eq_true_eq,
    List.isEmpty_eq_false_iff, List.all_eq_true, hexValue_iff]
  constructor
  · rintro ⟨⟨written, short⟩, digits⟩
    exact ⟨⟨List.length_pos_iff.mpr written, short⟩, digits⟩
  · rintro ⟨⟨written, short⟩, digits⟩
    exact ⟨⟨List.length_pos_iff.mp written, short⟩, digits⟩

theorem octet_pointless (octet : IsOctet text) : '.' ∉ text := by
  intro inside
  exact absurd (octet.digits '.' inside).1 (by decide)

theorem group_free (group : IsGroup text) : ':' ∉ text ∧ '.' ∉ text := by
  constructor
  · intro inside
    exact absurd (hexValue_iff.mpr (group.digits ':' inside)) (by decide)
  · intro inside
    exact absurd (hexValue_iff.mpr (group.digits '.' inside)) (by decide)

theorem isVersion4_iff : isVersion4 text = true ↔ IsVersion4 text := by
  simp only [isVersion4, Bool.and_eq_true, decide_eq_true_eq, List.all_eq_true, isOctet_iff]
  constructor
  · rintro ⟨four, octets⟩
    exact ⟨splitAt '.' text, four, octets, (join_splitAt text).symm⟩
  · rintro ⟨pieces, four, octets, rfl⟩
    have written : pieces ≠ [] := List.ne_nil_of_length_pos (by omega)
    rw [splitAt_join pieces written fun piece listed => octet_pointless (octets piece listed)]
    exact ⟨four, octets⟩

end Pieces

/-! ## Pieces of a version 6 address -/

/-- What a run of groups is cut into at an end of the text: no group at all is one empty piece. -/
def edge (groups : List (List Char)) : List (List Char) :=
  if groups = [] then [[]] else groups

inductive IsGrouped : List (List Char) → Prop where
  | full {groups : List (List Char)} (eight : groups.length = 8)
      (each : ∀ group ∈ groups, IsGroup group) : IsGrouped groups
  | gap {before after : List (List Char)} (front : ∀ group ∈ before, IsGroup group)
      (back : ∀ group ∈ after, IsGroup group) (room : before.length + after.length < 8) :
      IsGrouped (edge before ++ [] :: edge after)

section Edges
variable {groups parts : List (List Char)} {text : List Char}

theorem edge_written (written : groups ≠ []) : edge groups = groups := if_neg written

theorem edge_ne_nil (groups : List (List Char)) : edge groups ≠ [] := by
  by_cases nothing : groups = []
  · simp [edge, nothing]
  · rwa [edge_written nothing]

theorem edge_length (groups : List (List Char)) : (edge groups).length = max 1 groups.length := by
  by_cases nothing : groups = []
  · simp [edge, nothing]
  · have := List.length_pos_iff.mpr nothing
    rw [edge_written nothing]
    omega

theorem edge_reverse (groups : List (List Char)) : (edge groups).reverse = edge groups.reverse := by
  by_cases nothing : groups = []
  · simp [edge, nothing]
  · simp [edge, nothing]

theorem group_written (group : IsGroup text) : text ≠ [] :=
  List.ne_nil_of_length_pos group.length.1

theorem splitAt_row (each : ∀ group ∈ groups, IsGroup group) :
    splitAt ':' (join [':'] groups) = edge groups := by
  by_cases nothing : groups = []
  · subst nothing
    rfl
  · rw [edge_written nothing]
    exact splitAt_join groups nothing fun group listed => (group_free (each group listed)).1

-- An empty piece is there only where no group is.
theorem edge_empty (each : ∀ group ∈ groups, IsGroup group) {place : Nat}
    (empty : (edge groups)[place]? = some []) : place = 0 ∧ (edge groups).length = 1 := by
  by_cases nothing : groups = []
  · subst nothing
    obtain ⟨bound, _⟩ := List.getElem?_eq_some_iff.mp empty
    exact ⟨Nat.lt_one_iff.mp bound, rfl⟩
  · rw [edge_written nothing] at empty
    exact absurd rfl (group_written (each [] (List.mem_of_getElem? empty)))

theorem dropEmptyFirst_iff (written : parts ≠ []) (each : ∀ group ∈ groups, IsGroup group) :
    dropEmptyFirst parts = some groups ↔ parts = edge groups := by
  cases parts with
  | nil => contradiction
  | cons first rest =>
      by_cases empty : first = []
      · subst empty
        cases rest with
        | nil =>
            by_cases nothing : groups = []
            · simp [dropEmptyFirst, edge, nothing]
            · have foreign : [[]] ≠ groups := by
                rintro rfl
                exact group_written (each [] List.mem_cons_self) rfl
              simp [dropEmptyFirst, edge_written nothing, foreign, Ne.symm nothing]
        | cons second others =>
            simp only [dropEmptyFirst, List.isEmpty_nil, List.isEmpty_cons, ↓reduceIte,
              Bool.false_eq_true, reduceCtorEq, false_iff]
            intro same
            have listed : (edge groups)[0]? = some [] := by simp [← same]
            have alone := (edge_empty each listed).2
            simp [← same] at alone
      · have kept : dropEmptyFirst (first :: rest) = some (first :: rest) := by
          simp [dropEmptyFirst, empty]
        rw [kept, Option.some.injEq]
        by_cases nothing : groups = []
        · simp [edge, nothing, empty]
        · rw [edge_written nothing]

end Edges

section Gaps
variable {parts before after : List (List Char)}

theorem mem_numbered {place : Nat} {part : List Char} :
    (place, part) ∈ (List.range parts.length).zip parts ↔ parts[place]? = some part := by
  rw [List.mem_iff_getElem?]
  constructor
  · rintro ⟨index, found⟩
    obtain ⟨counted, here⟩ := List.getElem?_zip_eq_some.mp found
    obtain ⟨_, same⟩ := List.getElem?_eq_some_iff.mp counted
    rw [List.getElem_range] at same
    rwa [same] at here
  · intro here
    refine ⟨place, List.getElem?_zip_eq_some.mpr ⟨?_, here⟩⟩
    exact List.getElem?_range (List.getElem?_eq_some_iff.mp here).1

theorem mem_innerGaps {gap : Nat} : gap ∈ innerGaps parts ↔
    gap ≠ 0 ∧ gap + 1 ≠ parts.length ∧ parts[gap]? = some [] := by
  simp only [innerGaps, List.mem_filterMap, Option.ite_none_right_eq_some, Option.some.injEq,
    Bool.and_eq_true, decide_eq_true_eq, List.isEmpty_iff, Prod.exists, mem_numbered]
  constructor
  · rintro ⟨_, _, here, ⟨⟨rfl, inside⟩, short⟩, rfl⟩
    exact ⟨inside, short, here⟩
  · rintro ⟨inside, short, here⟩
    exact ⟨gap, [], here, ⟨⟨rfl, inside⟩, short⟩, rfl⟩

theorem innerGaps_nodup (parts : List (List Char)) : (innerGaps parts).Nodup := by
  have numbered : ((List.range parts.length).zip parts).Pairwise
      fun left right => left.1 ≠ right.1 := by
    rw [← List.pairwise_map, List.map_fst_zip (by simp)]
    exact List.nodup_range
  apply numbered.filterMap
  rintro ⟨left, _⟩ ⟨right, _⟩ different gap found other same
  simp only [Option.ite_none_right_eq_some, Option.some.injEq] at found same
  rw [← found.2, ← same.2]
  exact different

-- The gap is the one empty piece inside, whatever the pieces at the ends are.
theorem innerGaps_gap (front : ∀ group ∈ before, IsGroup group)
    (back : ∀ group ∈ after, IsGroup group) :
    innerGaps (edge before ++ [] :: edge after) = [(edge before).length] := by
  apply List.perm_singleton.mp
  apply (List.perm_ext_iff_of_nodup (innerGaps_nodup _) (List.nodup_singleton _)).mpr
  intro gap
  have least := List.length_pos_iff.mpr (edge_ne_nil before)
  have more := List.length_pos_iff.mpr (edge_ne_nil after)
  rw [mem_innerGaps, List.mem_singleton, List.length_append, List.length_cons]
  constructor
  · rintro ⟨inside, short, empty⟩
    rcases Nat.lt_trichotomy gap (edge before).length with early | here | late
    · rw [List.getElem?_append_left early] at empty
      exact absurd (edge_empty front empty).1 inside
    · exact here
    · rw [List.getElem?_append_right (Nat.le_of_lt late), List.getElem?_cons,
        if_neg (by omega)] at empty
      obtain ⟨first, alone⟩ := edge_empty back empty
      omega
  · rintro rfl
    exact ⟨by omega, by omega, by simp⟩

theorem innerGaps_none (each : ∀ part ∈ parts, IsGroup part) : innerGaps parts = [] := by
  apply List.eq_nil_iff_forall_not_mem.mpr
  intro gap listed
  have empty := (mem_innerGaps.mp listed).2.2
  exact group_written (each [] (List.mem_of_getElem? empty)) rfl

-- A single gap has groups on both sides, or nothing but the end of the text.
theorem areGroups_sound (accepted : areGroups parts = true) : IsGrouped parts := by
  simp only [areGroups] at accepted
  split at accepted
  case h_1 =>
    simp only [Bool.and_eq_true, decide_eq_true_eq, List.all_eq_true, isGroup_iff] at accepted
    exact .full accepted.1 accepted.2
  case h_2 gap found =>
    split at accepted
    case h_2 => contradiction
    case h_1 before after front back =>
      simp only [Bool.and_eq_true, decide_eq_true_eq, List.all_eq_true, isGroup_iff] at accepted
      obtain ⟨⟨room, groupsBefore⟩, groupsAfter⟩ := accepted
      have listed : gap ∈ innerGaps parts := by simp [found]
      obtain ⟨inside, short, empty⟩ := mem_innerGaps.mp listed
      obtain ⟨bound, here⟩ := List.getElem?_eq_some_iff.mp empty
      have start : parts.take gap ≠ [] := List.ne_nil_of_length_pos (by simp; omega)
      have finish : (parts.drop (gap + 1)).reverse ≠ [] :=
        List.ne_nil_of_length_pos (by simp; omega)
      rw [dropEmptyFirst_iff start groupsBefore] at front
      rw [dropEmptyFirst_iff finish groupsAfter, List.reverse_eq_iff, edge_reverse] at back
      rw [← List.take_append_drop gap parts, ← List.getElem_cons_drop bound, here, front, back]
      exact .gap groupsBefore (by simpa using groupsAfter) (by simpa using room)
  case h_3 => contradiction

theorem areGroups_complete (grouped : IsGrouped parts) : areGroups parts = true := by
  cases grouped with
  | full eight each =>
      simp only [areGroups, innerGaps_none each, eight, Bool.and_eq_true, decide_eq_true_eq,
        List.all_eq_true, isGroup_iff]
      exact ⟨trivial, each⟩
  | @gap before after front back room =>
      have turned : ∀ group ∈ after.reverse, IsGroup group := by simpa using back
      have cut : ((edge before ++ [] :: edge after).drop ((edge before).length + 1)).reverse =
          edge after.reverse := by simp [edge_reverse]
      have first := (dropEmptyFirst_iff (edge_ne_nil before) front).mpr rfl
      have last := (dropEmptyFirst_iff (edge_ne_nil after.reverse) turned).mpr rfl
      simp only [areGroups, innerGaps_gap front back, List.take_left, cut, first, last,
        List.length_reverse, room, Bool.and_eq_true, decide_eq_true_eq, List.all_eq_true,
        isGroup_iff]
      exact ⟨⟨trivial, front⟩, turned⟩

end Gaps

/-! ## Tails -/

section Tails
variable {parts front before after : List (List Char)} {last text tail : List Char} {n : Nat}

theorem version4_free (four : IsVersion4 last) : ':' ∉ last := by
  obtain ⟨octets, _, each, rfl⟩ := four
  intro inside
  rcases Text.mem_join inside with mark | ⟨octet, listed, here⟩
  · exact absurd mark (by decide)
  · exact absurd ((each octet listed).digits ':' here).2 (by decide)

theorem version4_pointed (four : IsVersion4 last) : '.' ∈ last := by
  by_contra pointless
  have accepted := isVersion4_iff.mpr four
  simp [isVersion4, splitAt_free last pointless] at accepted

-- A version 4 address stands for two groups of no matter what value.
theorem expandTail_iff : expandTail (front ++ [last]) = some parts ↔
    '.' ∉ last ∧ parts = front ++ [last] ∨
      IsVersion4 last ∧ parts = front ++ [['0'], ['0']] := by
  simp only [expandTail, List.getLast?_concat, List.dropLast_concat, List.contains_eq_mem,
    decide_eq_true_eq]
  by_cases pointed : '.' ∈ last
  · rw [if_pos pointed, Option.ite_none_right_eq_some, isVersion4_iff, Option.some.injEq,
      @eq_comm _ _ parts]
    have mixed : ¬('.' ∉ last ∧ parts = front ++ [last]) := fun plain => plain.1 pointed
    exact (or_iff_right mixed).symm
  · have other : ¬IsVersion4 last := fun four => pointed (version4_pointed four)
    rw [if_neg pointed, Option.some.injEq, @eq_comm _ _ parts]
    exact ⟨fun same => .inl ⟨pointed, same⟩,
      fun found => (found.resolve_right fun mixed => other mixed.1).2⟩

theorem splitAt_mixed (each : ∀ group ∈ front, IsGroup group) (four : IsVersion4 last) :
    splitAt ':' (join [':'] (front ++ [last])) = front ++ [last] := by
  apply splitAt_join _ (by simp)
  simp only [List.mem_append, List.mem_singleton]
  rintro piece (listed | rfl)
  · exact (group_free (each piece listed)).1
  · exact version4_free four

theorem mem_edge {part : List Char} (listed : part ∈ edge parts) : part = [] ∨ part ∈ parts := by
  by_cases nothing : parts = []
  · exact .inl (by simpa [edge, nothing] using listed)
  · rw [edge_written nothing] at listed
    exact .inr listed

-- The tail becomes as many groups as it stands for, and what is in front of it stays.
theorem tail_expands (tail : IsTail n text) : ∃ groups : List (List Char), groups.length = n ∧
    (∀ group ∈ groups, IsGroup group) ∧ n ≤ (splitAt ':' text).length + 1 ∧
    ∀ front, expandTail (front ++ splitAt ':' text) = some (front ++ edge groups) := by
  cases tail with
  | plain row =>
      obtain ⟨groups, rfl, each, rfl⟩ := row
      rw [splitAt_row each]
      refine ⟨groups, rfl, each, by rw [edge_length]; omega, fun front => ?_⟩
      obtain ⟨init, last, cut⟩ :=
        (List.eq_nil_or_concat' (edge groups)).resolve_left (edge_ne_nil groups)
      have pointless : '.' ∉ last := by
        rcases mem_edge (show last ∈ edge groups by simp [cut]) with rfl | listed
        · exact List.not_mem_nil
        · exact (group_free (each last listed)).2
      rw [cut, ← List.append_assoc]
      exact expandTail_iff.mpr (.inl ⟨pointless, rfl⟩)
  | @mixed groups last each four =>
      have zero : IsGroup ['0'] := isGroup_iff.mp (by decide)
      have same : ∀ group ∈ [['0'], ['0']], group = ['0'] := by simp
      rw [splitAt_mixed each four]
      refine ⟨groups ++ [['0'], ['0']], by simp, ?_, by simp, fun front => ?_⟩
      · intro group listed
        rcases List.mem_append.mp listed with early | late
        · exact each group early
        · rwa [same group late]
      · rw [edge_written (by simp), ← List.append_assoc, ← List.append_assoc]
        exact expandTail_iff.mpr (.inr ⟨four, rfl⟩)

theorem version6_complete (address : IsVersion6 text) : isVersion6Address text = true := by
  simp only [isVersion6Address, Bool.and_eq_true, decide_eq_true_eq]
  cases address with
  | full tail =>
      obtain ⟨groups, eight, each, long, expands⟩ := tail_expands tail
      have whole : expandTail (splitAt ':' text) = some groups := by
        have plain := expands []
        rwa [edge_written (List.ne_nil_of_length_pos (by omega))] at plain
      rw [whole]
      exact ⟨by omega, by simp [eight, areGroups_complete (.full eight each)]⟩
  | @gap n m before after row tail room =>
      obtain ⟨front, rfl, start, rfl⟩ := row
      obtain ⟨back, rfl, finish, _, expands⟩ := tail_expands tail
      have ends := List.length_pos_iff.mpr (@splitAt_ne_nil ':' after)
      have starts := edge_length front
      have whole := expands (edge front ++ [[]])
      rw [List.append_assoc, List.append_assoc, List.singleton_append, List.singleton_append]
        at whole
      rw [splitAt_concat, splitAt_separator, splitAt_row start, whole]
      refine ⟨by simp; omega, ?_⟩
      have grouped := areGroups_complete (.gap start finish room)
      simp only [grouped, Bool.and_true, decide_eq_true_eq, List.length_append, List.length_cons,
        edge_length]
      omega

theorem splitAt_injective {left right : List Char}
    (same : splitAt ':' left = splitAt ':' right) : left = right := by
  rw [← @join_splitAt ':' left, same, join_splitAt]

-- The two groups of a version 4 address stand on the same side of the gap.
theorem gap_before {pair : List Char} (group : IsGroup pair)
    (same : front ++ [pair, pair] = edge before ++ [] :: edge after) :
    ∃ inner, after = inner ++ [pair, pair] ∧ front = edge before ++ [] :: inner := by
  have foreign : pair ≠ [] := group_written group
  rcases List.eq_nil_or_concat' after with rfl | ⟨rest, second, rfl⟩
  · have ends : [pair, pair] = [[], []] := List.append_inj_right' same rfl
    simp [foreign] at ends
  · have finish : edge (rest ++ [second]) = rest ++ [second] := edge_written (by simp)
    have outer : (front ++ [pair]) ++ [pair] = (edge before ++ [] :: rest) ++ [second] := by
      rw [finish] at same
      simpa using same
    obtain ⟨inside, ⟨⟩⟩ := List.append_inj' outer rfl
    rcases List.eq_nil_or_concat' rest with rfl | ⟨inner, first, rfl⟩
    · exact absurd (List.append_inj' inside rfl).2 (by simpa using foreign)
    · have inward : front ++ [pair] = (edge before ++ [] :: inner) ++ [first] := by
        simpa using inside
      obtain ⟨rfl, ⟨⟩⟩ := List.append_inj' inward rfl
      exact ⟨inner, by simp, rfl⟩

theorem version6_sound (expanded : expandTail (splitAt ':' text) = some parts)
    (grouped : IsGrouped parts) : IsVersion6 text := by
  obtain ⟨front, last, cut⟩ :=
    (List.eq_nil_or_concat' (splitAt ':' text)).resolve_left (splitAt_ne_nil text)
  rw [cut, expandTail_iff] at expanded
  rcases expanded with ⟨_, rfl⟩ | ⟨four, rfl⟩
  · rw [← cut] at grouped
    generalize same : splitAt ':' text = pieces at grouped
    cases grouped with
    | full eight each =>
        exact .full (.plain ⟨pieces, eight, each, by rw [← same, join_splitAt]⟩)
    | @gap before after start finish room =>
        have whole : text = join [':'] before ++ ':' :: ':' :: join [':'] after := by
          apply splitAt_injective
          rw [same, splitAt_concat, splitAt_separator, splitAt_row start, splitAt_row finish]
        rw [whole]
        exact .gap ⟨before, rfl, start, rfl⟩ (.plain ⟨after, rfl, finish, rfl⟩) room
  · generalize same : front ++ [['0'], ['0']] = pieces at grouped
    cases grouped with
    | full eight each =>
        subst same
        have six : front.length = 6 := by simpa using eight
        have groups : ∀ group ∈ front, IsGroup group :=
          fun group listed => each group (by simp [listed])
        have tail := IsTail.mixed groups four
        rw [six, ← cut, join_splitAt] at tail
        exact .full tail
    | @gap before after start finish room =>
        obtain ⟨inner, rfl, rfl⟩ := gap_before (isGroup_iff.mp (by decide)) same
        have each : ∀ group ∈ inner, IsGroup group :=
          fun group listed => finish group (by simp [listed])
        have whole : text = join [':'] before ++ ':' :: ':' :: join [':'] (inner ++ [last]) := by
          apply splitAt_injective
          rw [cut, splitAt_concat, splitAt_separator, splitAt_row start, splitAt_mixed each four,
            List.append_assoc, List.cons_append]
        rw [whole]
        exact .gap ⟨before, rfl, start, rfl⟩ (.mixed each four) (by simpa using room)

theorem isVersion6Address_iff : isVersion6Address text = true ↔ IsVersion6 text := by
  constructor
  · intro accepted
    simp only [isVersion6Address, Bool.and_eq_true] at accepted
    obtain ⟨_, accepted⟩ := accepted
    split at accepted
    case h_1 parts expanded =>
      rw [Bool.and_eq_true] at accepted
      exact version6_sound expanded (areGroups_sound accepted.2)
    case h_2 => contradiction
  · exact version6_complete

end Tails

end IpAddress

end TenantApi
