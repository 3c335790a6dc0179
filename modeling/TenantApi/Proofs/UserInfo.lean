import TenantApi.Proofs.TenantBase

/-!
User information in addresses. It ends at the last `@` of an authority, and normalising a host never
writes one. An address without user information therefore stays without it when it is put together
again with another path or query, and so does every address below it.
-/

namespace TenantApi

open Fallible (bind_ok mapError_ok)

namespace Text

theorem toLower_at {c : Char} (lowered : c.toLower = '@') : c = '@' := by
  unfold Char.toLower at lowered
  split at lowered
  case isTrue capital =>
    have code := congrArg (fun c => c.val.toNat) lowered
    have low := UInt32.le_iff_toNat_le.mp capital.1
    have high := UInt32.le_iff_toNat_le.mp capital.2
    simp at code low high
    omega
  case isFalse => exact lowered

end Text

namespace Url

section Hosts
variable {safe : Char → Bool} {text host : List Char}

theorem escapeChar_free {c : Char} (plain : c ≠ '@') : '@' ∉ escapeChar safe c := by
  rw [escapeChar]
  split
  case isTrue => simpa using plain.symm
  case isFalse =>
    have quoted : Quoted isUnreserved ((Utf8.charBytes c).flatMap escapeByte) :=
      escapeBytes_quoted (Utf8.charBytes c)
    exact quoted.free (by decide) (by decide)

theorem requote_free (free : '@' ∉ text) : '@' ∉ requote safe text := by
  suffices ∀ skip, '@' ∉ requoteFrom safe skip text from this 0
  intro skip
  fun_induction requoteFrom safe skip text with
  | case1 => exact free
  | case2 skip c rest ih =>
      rw [List.mem_cons, not_or] at free ⊢
      exact ⟨free.1, ih free.2⟩
  | case3 a b rest hex ih =>
      rw [List.mem_cons, not_or] at free ⊢
      exact ⟨free.1, ih free.2⟩
  | case4 a b rest plain ih =>
      rw [List.mem_append, not_or]
      exact ⟨escapeChar_free (by decide), ih (List.not_mem_of_not_mem_cons free)⟩
  | case5 c rest _ ih =>
      rw [List.mem_cons, not_or] at free
      rw [List.mem_append, not_or]
      exact ⟨escapeChar_free (Ne.symm free.1), ih free.2⟩

variable [Platform]

theorem encodeHost_free {encoded : List Char} (made : Platform.encodeHost host = some encoded) :
    '@' ∉ encoded := by
  intro member
  exact absurd (List.all_eq_true.mp (Platform.encodeHost_plain made) _ member) (by decide)

theorem normalHost_free {normal : List Char} (free : '@' ∉ host)
    (made : normalHost host = .ok normal) : '@' ∉ normal := by
  simp only [normalHost] at made
  split at made
  case isTrue => cases made; simp
  case isFalse =>
    split at made
    case isTrue =>
      split at made
      case isTrue => cases made; exact free
      case isFalse => contradiction
    case isFalse =>
      split at made
      case isTrue =>
        split at made
        case isTrue =>
          cases made
          exact fun found => free (List.mem_of_mem_drop (List.mem_of_mem_dropLast found))
        case isFalse => contradiction
      case isFalse =>
        split at made
        case isTrue =>
          cases made
          refine requote_free fun found => free ?_
          obtain ⟨c, member, lowered⟩ := List.mem_map.mp found
          exact Text.toLower_at lowered ▸ member
        case isFalse =>
          split at made
          case h_1 encoded =>
            cases made
            exact encodeHost_free encoded
          case h_2 => contradiction

end Hosts

section Authorities
variable {text : List Char} {url base : Url} {parts : Parts}

/-- An address without user information, and without a mark that could be taken for some. -/
structure Anonymous (url : Url) : Prop where
  userInfo : url.userInfo = []
  host : '@' ∉ url.host

def hostText (rest : List Char) : List Char :=
  match rest with
  | '[' :: inside => match Text.cutLast ']' inside with
    | some (address, _) => '[' :: address ++ [']']
    | none => rest.takeWhile (· ≠ ':')
  | _ => rest.takeWhile (· ≠ ':')

theorem hostText_free (free : '@' ∉ text) : '@' ∉ hostText text := by
  have before (rest : List Char) (free : '@' ∉ rest) : '@' ∉ rest.takeWhile (· ≠ ':') :=
    fun found => free ((List.takeWhile_prefix _).subset found)
  unfold hostText
  split
  case h_1 inside =>
    split
    case h_1 address after cut =>
      have parts := (Text.cutLast_iff.mp cut).1
      rw [parts] at free
      simp only [List.mem_cons, List.mem_append, not_or] at free ⊢
      exact ⟨⟨free.1, free.2.1⟩, by decide, by simp⟩
    case h_2 => exact before _ free
  case h_2 => exact before _ free

def cutUserInfo (text : List Char) : List Char × List Char :=
  (Text.cutLast '@' text).getD ([], text)

theorem splitAuthority_eq (text : List Char) :
    (splitAuthority text).1 = (cutUserInfo text).1 ∧
      (splitAuthority text).2.1 = hostText (cutUserInfo text).2 := by
  unfold splitAuthority cutUserInfo
  cases Text.cutLast '@' text with
  | none =>
      simp only [Option.getD_none]
      split <;> exact ⟨rfl, rfl⟩
  | some cut =>
      simp only [Option.getD_some]
      split <;> exact ⟨rfl, rfl⟩

theorem cutUserInfo_free (text : List Char) : '@' ∉ (cutUserInfo text).2 := by
  unfold cutUserInfo
  cases cut : Text.cutLast '@' text with
  | none => exact Text.cutLast_none_iff.mp cut
  | some found => exact (Text.cutLast_iff.mp cut).2

theorem cutUserInfo_none (free : '@' ∉ text) : (cutUserInfo text).1 = [] := by
  rw [cutUserInfo, Text.cutLast_none_iff.mpr free]
  rfl

theorem intDigits_free (n : Int) : '@' ∉ Text.intDigits n := by
  have digits (n : Nat) : '@' ∉ Text.natDigits n := fun found =>
    absurd (Nat.isDigit_of_mem_toDigits (by decide) (by decide) found) (by decide)
  rw [Text.intDigits]
  split
  case isTrue =>
    rw [List.mem_cons, not_or]
    exact ⟨by decide, digits _⟩
  case isFalse => exact digits _

theorem Anonymous.authority (anonymous : Anonymous url) : '@' ∉ url.authority := by
  simp only [Url.authority, anonymous.userInfo, List.isEmpty_nil, ↓reduceIte, List.nil_append]
  rw [List.mem_append, not_or]
  constructor
  · split
    case isTrue => simpa using anonymous.host
    case isFalse => exact anonymous.host
  · split
    case h_1 => simp
    case h_2 port _ =>
      rw [List.mem_cons, not_or]
      exact ⟨by decide, intDigits_free port⟩

variable [Platform]

theorem ofParts_host (read : ofParts parts = .ok url) : '@' ∉ url.host := by
  simp only [ofParts, bind_ok] at read
  obtain ⟨host, normal, _, _, _, _, made⟩ := read
  simp only [pure, Except.pure, Except.ok.injEq] at made
  subst made
  rw [(splitAuthority_eq _).2] at normal
  exact normalHost_free (hostText_free (cutUserInfo_free _)) normal

theorem ofParts_anonymous (free : '@' ∉ parts.authority) (read : ofParts parts = .ok url) :
    Anonymous url := by
  refine ⟨?_, ofParts_host read⟩
  simp only [ofParts, bind_ok] at read
  obtain ⟨_, _, _, _, _, _, made⟩ := read
  simp only [pure, Except.pure, Except.ok.injEq] at made
  subst made
  rw [(splitAuthority_eq _).1, cutUserInfo_none free]
  rfl

theorem parse_anonymous (read : parse text = .ok url) (bare : url.userInfo = []) :
    Anonymous url :=
  ⟨bare, ofParts_host (parse_ok read)⟩

theorem Anonymous.assemble {path : List Char} {query : Option (List Char)} {made : Url}
    (anonymous : Anonymous url)
    (assembled : assemble ⟨url.scheme, url.authority, path, query, url.fragment⟩ = .ok made) :
    Anonymous made := by
  simp only [Url.assemble] at assembled
  split at assembled
  case h_1 => contradiction
  case h_2 => exact ofParts_anonymous anonymous.authority assembled

theorem Anonymous.withTarget {target : List Char} {made : Url} (anonymous : Anonymous url)
    (assembled : url.withTarget target = .ok made) : Anonymous made := by
  simp only [Url.withTarget] at assembled
  split at assembled <;> exact anonymous.assemble assembled

theorem Anonymous.asBase {made : Url} (anonymous : Anonymous url) (based : url.asBase = .ok made) :
    Anonymous made := by
  simp only [Url.asBase] at based
  split at based
  case isTrue => cases based; exact anonymous
  case isFalse => exact anonymous.withTarget based

theorem Anonymous.resolve {made : Url} (anonymous : Anonymous base)
    (given : url.isAbsolute = true → Anonymous url) (resolved : base.resolve url = .ok made) :
    Anonymous made := by
  simp only [Url.resolve] at resolved
  split at resolved
  case isTrue absolute => cases resolved; exact given absolute
  case isFalse => exact anonymous.withTarget resolved

end Authorities

end Url

namespace Request

variable [Platform] {base : Url} {own : Fields} {call : Call} {request : Request}

def IsBare (path : String) : Prop :=
  ∀ url, Url.parse path.toList = .ok url → url.isAbsolute = true → url.userInfo = []

theorem ofCall_anonymous (anonymous : base.Anonymous) (bare : IsBare call.path)
    (made : ofCall base own call = .ok request) : request.url.Anonymous := by
  simp only [ofCall, bind_ok, mapError_ok] at made
  obtain ⟨address, located, _, _, url, aimed, _, _, built⟩ := made
  simp only [pure, Except.pure, Except.ok.injEq] at built
  subst built
  obtain ⟨relative, read, resolved⟩ := bind_ok.mp located
  have placed : address.Anonymous := anonymous.resolve
    (fun absolute => Url.parse_anonymous read (bare relative read absolute)) resolved
  simp only [withParams] at aimed
  split at aimed
  case h_1 => cases aimed; exact placed
  case h_2 =>
    split at aimed
    case h_1 => contradiction
    case h_2 => exact placed.assemble (mapError_ok.mp aimed)

end Request

namespace Connection

variable [Platform] {settings : Settings} {runtimeVersion base : String} {token : Option String}
  {given : Fields} {timeout : Option Number} {connection : Connection}

theorem new_anonymous (bare : ∀ url, Url.parse base.toList = .ok url → url.userInfo = [])
    (made : new settings runtimeVersion base token given timeout = .ok connection) :
    connection.base.Anonymous := by
  obtain ⟨url, read, based⟩ := new_base made
  exact (Url.parse_anonymous read (bare url read)).asBase based

end Connection

end TenantApi
