import TenantApi.Proofs.Fallible
import TenantApi.Proofs.Percent
import TenantApi.Proofs.Text

/-!
The path of an address that is put together from segments. Escaped segments are neither cut nor
escaped again when they are read as part of an address, so the one stage that can change a path is
the removal of dot segments, and that leaves alone every path without them.
-/

namespace TenantApi.Url

open Fallible (bind_ok)

variable {pieces : List (List Char)} {url base : Url}

def Escaped (pieces : List (List Char)) : Prop := ∀ piece ∈ pieces, Quoted isUnreserved piece

def pathOf (pieces : List (List Char)) : List Char := Text.join ['/'] pieces

section Segments

theorem pathOf_forall {property : Char → Prop} (escaped : Escaped pieces) (slash : property '/')
    (mark : property '%') (unreserved : ∀ c, isUnreserved c = true → property c) :
    ∀ c ∈ pathOf pieces, property c := by
  intro c member
  rcases Text.mem_join member with rfl | ⟨piece, inside, found⟩
  · exact slash
  · exact (escaped piece inside).forall mark unreserved c found

theorem pathOf_free {mark : Char} (escaped : Escaped pieces) (slash : mark ≠ '/')
    (escape : mark ≠ '%') (reserved : isUnreserved mark = false) : mark ∉ pathOf pieces := by
  intro member
  have different : ∀ c ∈ pathOf pieces, c ≠ mark :=
    pathOf_forall escaped slash.symm escape.symm fun c => unreserved_ne reserved
  exact different mark member rfl

theorem slashless (escaped : Escaped pieces) : ∀ piece ∈ pieces, '/' ∉ piece :=
  fun piece member => (escaped piece member).free (by decide) (by decide)

theorem pathOf_quoted (escaped : Escaped pieces) : Quoted isPathSafe (pathOf pieces) := by
  induction pieces with
  | nil => exact .nil
  | cons piece rest ih =>
      have head : Quoted isPathSafe piece :=
        (escaped piece List.mem_cons_self).mono fun c => unreserved_pathSafe
      have tail := ih fun p member => escaped p (List.mem_cons_of_mem piece member)
      cases rest with
      | nil => exact head
      | cons next others =>
          have slash : Quoted isPathSafe ['/'] := .plain (by decide) (by decide) .nil
          exact (head.append slash).append tail

theorem splitAt_pathOf (some : pieces ≠ []) (escaped : Escaped pieces) :
    Text.splitAt '/' (pathOf pieces) = pieces :=
  Text.splitAt_join pieces some (slashless escaped)

theorem splitAt_pathOf_length (escaped : Escaped pieces) :
    (Text.splitAt '/' (pathOf pieces)).length = max 1 pieces.length := by
  cases pieces with
  | nil => rfl
  | cons piece rest =>
      rw [splitAt_pathOf (by simp) escaped, List.length_cons]
      omega

theorem pathOf_cons (piece : List Char) (some : pieces ≠ []) :
    pathOf (piece :: pieces) = piece ++ '/' :: pathOf pieces := by
  cases pieces with
  | nil => contradiction
  | cons next others => simp [pathOf, Text.join]

theorem pathOf_head {piece : List Char} (some : piece ≠ []) (free : '/' ∉ piece) :
    ∃ c rest, pathOf (piece :: pieces) = c :: rest ∧ c ≠ '/' := by
  obtain ⟨c, rest, rfl⟩ := List.exists_cons_of_ne_nil some
  have head : c ≠ '/' := fun same => free (by simp [same])
  cases pieces with
  | nil => exact ⟨c, rest, rfl, head⟩
  | cons next others => exact ⟨c, _, pathOf_cons (c :: rest) (by simp), head⟩

theorem pathOf_append {root : List (List Char)} (below : root ≠ []) (some : pieces ≠ []) :
    pathOf (root ++ pieces) = pathOf root ++ '/' :: pathOf pieces := by
  induction root with
  | nil => contradiction
  | cons piece rest ih =>
      cases rest with
      | nil => exact pathOf_cons piece some
      | cons next others =>
          have tail := ih (by simp)
          rw [List.cons_append, pathOf_cons piece (by simp), tail, pathOf_cons piece (by simp)]
          simp

end Segments

section Dots

def isDot (segment : List Char) : Bool := segment = ['.'] || segment = ['.', '.']

theorem removeDots_sublist (done segments : List (List Char)) :
    List.Sublist (removeDots done segments) (done.reverse ++ segments) := by
  induction segments generalizing done with
  | nil => simp [removeDots]
  | cons segment rest ih =>
      simp only [removeDots]
      split
      case isTrue =>
        exact (ih done).trans (List.Sublist.append_left (List.sublist_cons_self segment rest) _)
      case isFalse =>
        split
        case isTrue =>
          refine (ih _).trans (List.Sublist.append ?_ (List.sublist_cons_self segment rest))
          split
          · exact List.Sublist.refl _
          · exact (List.tail_sublist done).reverse
        case isFalse =>
          have whole := ih (segment :: done)
          simpa using whole

def undot (pieces : List (List Char)) : List (List Char) :=
  if pieces.any isDot then removeDots [] pieces else pieces

theorem normalPath_pathOf (some : pieces ≠ []) (escaped : Escaped pieces) :
    normalPath (pathOf pieces) = pathOf (undot pieces) := by
  have dotted : (pieces.contains ['.'] || pieces.contains ['.', '.']) = pieces.any isDot := by
    rw [Bool.eq_iff_iff]
    simp only [Bool.or_eq_true, List.contains_eq_mem, decide_eq_true_eq, List.any_eq_true, isDot]
    constructor
    · rintro (single | double)
      · exact ⟨_, single, .inl rfl⟩
      · exact ⟨_, double, .inr rfl⟩
    · rintro ⟨segment, member, rfl | rfl⟩
      · exact .inl member
      · exact .inr member
  simp only [normalPath, splitAt_pathOf some escaped, dotted, undot]
  split <;> rfl

theorem undot_clean (undotted : ∀ piece ∈ pieces, isDot piece = false) : undot pieces = pieces := by
  have none : pieces.any isDot = false := by simpa using undotted
  rw [undot, if_neg (by simp [none])]

theorem removeDots_undotted {done segments : List (List Char)}
    (clean : ∀ segment ∈ done, isDot segment = false) :
    ∀ segment ∈ removeDots done segments, isDot segment = false := by
  induction segments generalizing done with
  | nil => simpa [removeDots] using clean
  | cons segment rest ih =>
      simp only [removeDots]
      split
      case isTrue => exact ih clean
      case isFalse single =>
        split
        case isTrue =>
          apply ih
          split
          · exact clean
          · exact fun s member => clean s (List.mem_of_mem_tail member)
        case isFalse double =>
          apply ih
          simp only [List.forall_mem_cons]
          exact ⟨by simp [isDot, single, double], clean⟩

-- Removing dot segments never keeps the number of segments.
theorem undot_shorter {piece : List Char} (member : piece ∈ pieces) (dotted : isDot piece = true) :
    (undot pieces).length < pieces.length := by
  have some : pieces.any isDot = true := List.any_eq_true.mpr ⟨piece, member, dotted⟩
  have part : List.Sublist (undot pieces) pieces := by
    rw [undot, if_pos some]
    exact removeDots_sublist [] pieces
  refine lt_of_le_of_ne part.length_le fun same => ?_
  have clean : ∀ segment ∈ undot pieces, isDot segment = false := by
    rw [undot, if_pos some]
    exact removeDots_undotted (by simp)
  rw [part.eq_of_length same] at clean
  rw [clean piece member] at dotted
  contradiction

theorem undot_escaped (escaped : Escaped pieces) : Escaped (undot pieces) := by
  intro piece member
  simp only [undot] at member
  split at member
  · exact escaped piece ((removeDots_sublist [] pieces).subset member)
  · exact escaped piece member

end Dots

section Splitting

-- A path without the marks of a query or a fragment reaches to the end of the text.
theorem pathEnd_free {path : List Char} (noQuery : '?' ∉ path) (noFragment : '#' ∉ path) :
    ∀ c ∈ path, (!(decide (c = '?') || decide (c = '#'))) = true := by
  intro c member
  simp only [Bool.not_eq_true', Bool.or_eq_false_iff, decide_eq_false_iff_not]
  exact ⟨fun same => noQuery (same ▸ member), fun same => noFragment (same ▸ member)⟩

theorem split_relative {first : Char} {rest : List Char} (single : first ≠ '/')
    (noQuery : '?' ∉ '/' :: first :: rest) (noFragment : '#' ∉ '/' :: first :: rest) :
    split ('/' :: first :: rest) = ⟨[], [], '/' :: first :: rest, none, none⟩ := by
  have schemeless : splitScheme ('/' :: first :: rest) = ([], '/' :: first :: rest) := rfl
  have whole := pathEnd_free noQuery noFragment
  have taken := List.takeWhile_eq_self_iff.mpr whole
  have dropped := List.dropWhile_eq_nil_iff.mpr whole
  simp only [split, schemeless]
  split
  case h_1 later double => simp_all
  case h_2 => simp only [taken, dropped]

theorem splitScheme_absolute {scheme rest : List Char}
    (letters : ∀ c ∈ scheme, isSchemeChar c = true)
    (name : scheme.head?.any Text.isAsciiLetter = true) :
    splitScheme (scheme ++ ':' :: rest) = (scheme, rest) := by
  have taken : (scheme ++ ':' :: rest).takeWhile isSchemeChar = scheme := by
    rw [List.takeWhile_append_of_pos letters]
    simp [show isSchemeChar ':' = false by decide]
  simp [splitScheme, taken, name]

theorem split_absolute {scheme host path : List Char}
    (letters : ∀ c ∈ scheme, isSchemeChar c = true)
    (name : scheme.head?.any Text.isAsciiLetter = true)
    (plain : ∀ mark ∈ ['/', '?', '#'], mark ∉ host)
    (rooted : ∀ c, path.head? = some c → c = '/') (noQuery : '?' ∉ path) (noFragment : '#' ∉ path) :
    split (scheme ++ ':' :: '/' :: '/' :: (host ++ path)) = ⟨scheme, host, path, none, none⟩ := by
  have inside : ∀ c ∈ host,
      (!(decide (c = '/') || decide (c = '?') || decide (c = '#'))) = true := by
    intro c member
    have outside (mark : Char) (listed : mark ∈ ['/', '?', '#']) : c ≠ mark :=
      fun same => plain mark listed (same ▸ member)
    simp [outside '/' (by simp), outside '?' (by simp), outside '#' (by simp)]
  have ends : path = [] ∨ ∃ rest, path = '/' :: rest := by
    cases path with
    | nil => exact .inl rfl
    | cons c rest => exact .inr ⟨rest, by rw [rooted c rfl]⟩
  have taken : (host ++ path).takeWhile
      (fun c => !(decide (c = '/') || decide (c = '?') || decide (c = '#'))) = host := by
    rw [List.takeWhile_append_of_pos inside]
    rcases ends with rfl | ⟨rest, rfl⟩ <;> simp
  have dropped : (host ++ path).dropWhile
      (fun c => !(decide (c = '/') || decide (c = '?') || decide (c = '#'))) = path := by
    rw [List.dropWhile_append_of_pos inside]
    rcases ends with rfl | ⟨rest, rfl⟩ <;> simp
  have whole := pathEnd_free noQuery noFragment
  simp only [split, splitScheme_absolute letters name, taken, dropped,
    List.takeWhile_eq_self_iff.mpr whole, List.dropWhile_eq_nil_iff.mpr whole]

end Splitting

section Reading
variable [Platform] {text target : List Char}

theorem ofParts_ok {parts : Parts} (absolute : parts.scheme ≠ []) (read : ofParts parts = .ok url) :
    url.scheme = Text.asciiLower parts.scheme ∧
      url.path = requote isPathSafe (normalPath parts.path) ∧
      url.query = parts.query.map (requote isQuerySafe) := by
  simp only [ofParts, bind_ok] at read
  obtain ⟨host, _, port, _, _, _, made⟩ := read
  simp only [pure, Except.pure, Except.ok.injEq] at made
  subst made
  simp [absolute]

theorem ofParts_relative {path : List Char} (read : ofParts ⟨[], [], path, none, none⟩ = .ok url) :
    url = ⟨[], [], [], none, requote isPathSafe path, none, none⟩ := by
  have nothing : splitAuthority [] = ([], [], []) := rfl
  have noUser : requote isUserInfoSafe [] = [] := rfl
  have noHost : normalHost [] = .ok [] := rfl
  have noPort : normalPort [] [] = .ok none := rfl
  simp only [ofParts, bind_ok, nothing, noUser, noHost, noPort, Except.ok.injEq] at read
  obtain ⟨host, rfl, port, rfl, _, _, made⟩ := read
  simpa [pure, Except.pure, Text.asciiLower, eq_comm] using made

theorem parse_ok (read : parse text = .ok url) : ofParts (split text) = .ok url := by
  simp only [parse] at read
  split at read
  case isTrue => contradiction
  case isFalse =>
    split at read
    case h_1 => contradiction
    case h_2 => exact read

theorem withTarget_path (absolute : base.scheme ≠ []) (noQuery : '?' ∉ target)
    (made : base.withTarget target = .ok url) :
    url.scheme = Text.asciiLower base.scheme ∧
      url.path = requote isPathSafe (normalPath target) ∧ url.query = none := by
  simp only [withTarget, Text.cutFirst_none_iff.mpr noQuery, assemble] at made
  split at made
  case h_1 => contradiction
  case h_2 =>
    obtain ⟨scheme, path, query⟩ := ofParts_ok absolute made
    exact ⟨scheme, path, query⟩

theorem withTarget_segments (absolute : base.scheme ≠ []) (some : pieces ≠ [])
    (escaped : Escaped pieces) (made : base.withTarget (pathOf pieces) = .ok url) :
    url.path = pathOf (undot pieces) := by
  have noQuery : '?' ∉ pathOf pieces :=
    pathOf_free escaped (by decide) (by decide) (by decide)
  rw [(withTarget_path absolute noQuery made).2.1, normalPath_pathOf some escaped]
  exact requote_quoted (pathOf_quoted (undot_escaped escaped))

end Reading

end TenantApi.Url
