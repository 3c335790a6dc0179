import TenantApi.Proofs.BaseForm

/-!
Hosts as domains and as addresses. A domain that is a host, with what may be around one, has the
same base however it is written, and the address read from this base consists of the host alone.
-/

namespace TenantApi

namespace Tenant

def IsHostChar (c : Char) : Prop :=
  ('a' ≤ c ∧ c ≤ 'z') ∨ ('0' ≤ c ∧ c ≤ '9') ∨ c = '-' ∨ c = '.'

structure IsHostName (host : String) : Prop where
  first : ∃ c rest, host.toList = c :: rest ∧ 'a' ≤ c ∧ c ≤ 'z'
  chars : ∀ c ∈ host.toList, IsHostChar c

/-- A domain that is a host, with what may be around one and with or without the scheme. -/
def Writes (domain host : String) : Prop :=
  ∃ before scheme slashes after,
    domain.toList = before ++ (scheme ++ host.toList ++ slashes) ++ after ∧
      scheme ∈ [[], "https://".toList] ∧ Around before slashes after

section Hosts
variable {host domain : String} {c : Char}

theorem IsHostChar.unreserved (char : IsHostChar c) : Url.isUnreserved c = true := by
  rcases char with letter | digit | rfl | rfl
  · simp [Url.isUnreserved, Text.isAsciiLetter, letter]
  · simp [Url.isUnreserved, Text.isAsciiDigit, digit]
  · decide
  · decide

theorem IsHostChar.ne {mark : Char} (char : IsHostChar c)
    (reserved : Url.isUnreserved mark = false) : c ≠ mark :=
  Url.unreserved_ne reserved char.unreserved

theorem IsHostChar.visible (char : IsHostChar c) : Text.isBlank c = false := by
  have range := Url.unreserved_visible char.unreserved
  simp [Text.isBlank, Text.isSpace, Text.inRanges, Text.spaceRanges]
  omega

theorem IsHostChar.small (char : IsHostChar c) : c.toLower = c := by
  unfold Char.toLower
  split
  case isFalse => rfl
  case isTrue capital =>
    have low : 65 ≤ c.toNat := capital.1
    have high : c.toNat ≤ 90 := capital.2
    rcases char with letter | digit | rfl | rfl
    · have small : 97 ≤ c.toNat := letter.1
      omega
    · have below : c.toNat ≤ 57 := digit.2
      omega
    · contradiction
    · contradiction

theorem IsHostName.ne_nil (name : IsHostName host) : host.toList ≠ [] := by
  obtain ⟨c, rest, text, _⟩ := name.first
  simp [text]

theorem IsHostName.free (name : IsHostName host) {mark : Char}
    (reserved : Url.isUnreserved mark = false) : mark ∉ host.toList :=
  fun member => (name.chars mark member).ne reserved rfl

theorem IsHostName.schemeless (name : IsHostName host) : hasScheme host.toList = false := by
  rw [← Bool.not_eq_true, hasScheme_iff]
  rintro ⟨rest, text | text⟩
  all_goals
    have colon : ':' ∈ host.toList := by simp [text]
    exact name.free (by decide) colon

theorem Writes.bare (name : IsHostName host) (writes : Writes domain host) :
    ∃ scheme ∈ [[], "https://".toList], bareDomain domain.toList = scheme ++ host.toList := by
  obtain ⟨before, scheme, slashes, after, text, known, around⟩ := writes
  refine ⟨scheme, known, bareDomain_iff.mpr ⟨before, slashes, after, text, around, ?_, ?_⟩⟩
  · refine Text.trimmed_of_kept fun c member => ?_
    rcases List.mem_append.mp member with front | slash
    · rcases List.mem_append.mp front with mark | char
      · rcases List.mem_pair.mp known with rfl | rfl
        · contradiction
        · exact secure_visible c mark
      · exact (name.chars c char).visible
    · rw [around.slashes c slash]
      exact slash_visible
  · intro c last
    rw [List.getLast?_append_of_ne_nil _ name.ne_nil] at last
    exact (name.chars c (List.mem_of_getLast? last)).ne (by decide)

theorem Writes.schemed (name : IsHostName host) (writes : Writes domain host) :
    Tenant.schemed (bareDomain domain.toList) = "https://".toList ++ host.toList := by
  obtain ⟨scheme, known, bare⟩ := writes.bare name
  rw [bare, Tenant.schemed]
  rcases List.mem_pair.mp known with rfl | rfl
  · rw [List.nil_append, name.schemeless, if_neg Bool.false_ne_true]
  · rw [if_pos (hasScheme_iff.mpr ⟨host.toList, .inr rfl⟩)]

end Hosts

theorem authenticationBase_host {settings : Settings} {domain : Option String} {host : String}
    (name : IsHostName host) (writes : Writes (Settings.orSetting domain settings.domain) host) :
    authenticationBase settings domain = .ok ("https://" ++ host) := by
  obtain ⟨scheme, _, bare⟩ := writes.bare name
  rw [authenticationBase_ok_iff, writes.schemed name, bare, String.toList_append]
  exact ⟨List.append_ne_nil_of_right_ne_nil scheme name.ne_nil, rfl⟩

end Tenant

namespace Url

def ofHost (host : List Char) : Url := ⟨"https".toList, [], host, none, [], none, none⟩

section Hosts
variable {host : String}

open Tenant (IsHostName)

theorem splitAuthority_host (name : IsHostName host) :
    splitAuthority host.toList = ([], host.toList, []) := by
  have noUser : Text.cutLast '@' host.toList = none :=
    Text.cutLast_none_iff.mpr (name.free (by decide))
  have whole : host.toList.takeWhile (fun c => !decide (c = ':')) = host.toList := by
    rw [List.takeWhile_eq_self_iff]
    intro c member
    have other : c ≠ ':' := (name.chars c member).ne (by decide)
    simpa using other
  obtain ⟨c, rest, text, _⟩ := name.first
  have unbracketed : c ≠ '[' := (name.chars c (by simp [text])).ne (by decide)
  rw [text] at noUser whole ⊢
  simp [splitAuthority, noUser, unbracketed, whole]

theorem normalHost_name [Platform] (name : IsHostName host) :
    normalHost host.toList = .ok host.toList := by
  obtain ⟨c, rest, text, letter⟩ := name.first
  have digitless : Text.isAsciiDigit c = false := by
    rw [← Bool.not_eq_true, Text.isAsciiDigit, between_iff]
    rintro ⟨_, high⟩
    have low : 97 ≤ c.toNat := letter.1
    have small : c.toNat ≤ 57 := high
    omega
  have noAddress : looksLikeVersion4 3 false host.toList = false := by
    simp [text, looksLikeVersion4, digitless]
  have bracketless : '[' ∉ host.toList := name.free (by decide)
  have unbracketed : host.toList.head? ≠ some '[' :=
    fun opened => bracketless (List.mem_of_head? opened)
  have ascii : Text.isAscii host.toList = true := by
    rw [Text.isAscii, List.all_eq_true]
    intro c member
    have range := unreserved_visible (name.chars c member).unreserved
    exact decide_eq_true (by omega)
  have lowered : Text.asciiLower host.toList = host.toList := by
    rw [Text.asciiLower, List.map_congr_left fun c member => (name.chars c member).small]
    exact List.map_id _
  have quoted : Quoted isHostSafe host.toList := by
    refine quoted_of_plain fun c member => ⟨?_, (name.chars c member).ne (by decide)⟩
    rw [isHostSafe, (name.chars c member).unreserved, Bool.true_or]
  rw [normalHost, if_neg (by simp [text]), if_neg (by simp [noAddress]),
    if_neg (by simp [unbracketed]), if_pos ascii, lowered, requote_quoted quoted]

theorem split_host (name : IsHostName host) :
    split ("https://" ++ host).toList = ⟨"https".toList, host.toList, [], none, none⟩ := by
  have plain : ∀ mark ∈ ['/', '?', '#'], mark ∉ host.toList := by
    have reserved : ['/', '?', '#'].all (!isUnreserved ·) = true := by decide
    intro mark listed
    exact name.free (by simpa using List.all_eq_true.mp reserved mark listed)
  have text : ("https://" ++ host).toList =
      "https".toList ++ ':' :: '/' :: '/' :: (host.toList ++ []) := by
    simp
  rw [text]
  exact split_absolute (List.all_eq_true.mp (by decide)) (by decide) plain (by simp) (by simp)
    (by simp)

theorem chars_host (name : IsHostName host) :
    (ofHost host.toList).chars = ("https://" ++ host).toList := by
  have bare : (ofHost host.toList).authority = host.toList := by
    have colonless : ':' ∉ host.toList := name.free (by decide)
    simp [ofHost, authority, colonless]
  simp only [chars, bare]
  simp [ofHost, name.ne_nil]

variable [Platform]

theorem ofParts_name (name : IsHostName host) :
    ofParts ⟨"https".toList, host.toList, [], none, none⟩ = .ok (ofHost host.toList) := by
  have noUser : requote isUserInfoSafe [] = [] := rfl
  have noPort : normalPort "https".toList [] = .ok none := rfl
  have given : host.toList.isEmpty = false := by simpa using name.ne_nil
  simp only [ofParts, splitAuthority_host name, normalHost_name name, noUser, noPort, bind,
    Except.bind, given]
  rfl

theorem parse_host (name : IsHostName host) :
    parse ("https://" ++ host).toList =
      if host.length ≤ 65528 then .ok (ofHost host.toList) else .error .tooLong := by
  have length : ("https://" ++ host).toList.length = 8 + host.length := by
    rw [String.toList_append, List.length_append]
    rfl
  have printable : ("https://" ++ host).toList.find? isControl = none := by
    have front : "https://".toList.find? isControl = none := by decide
    rw [String.toList_append, List.find?_append, front, Option.none_or, List.find?_eq_none]
    intro c member
    have range := unreserved_visible (name.chars c member).unreserved
    simp only [isControl, Bool.or_eq_true, decide_eq_true_eq]
    omega
  rw [parse, length, lengthLimit]
  by_cases short : host.length ≤ 65528
  · rw [if_neg (by omega), if_pos short]
    simp only [printable, split_host name, ofParts_name name]
  · rw [if_pos (by omega), if_neg short]

-- The path of the address is empty and is sent as a slash, so nothing is put after it.
theorem base_host (name : IsHostName host) :
    (parse ("https://" ++ host).toList).bind asBase =
      if host.length ≤ 65528 then .ok (ofHost host.toList) else .error .tooLong := by
  rw [parse_host name]
  split <;> rfl

end Hosts

end Url

end TenantApi
