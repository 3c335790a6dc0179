import TenantApi.Proofs.Address
import TenantApi.Proofs.SessionRun

/-!
The base address of a tenant. When the domain is a host alone, whatever is written before and after
it, the base is that host with a fixed path, and every path below it is put after this path.
-/

namespace TenantApi

open Fallible (map_ok)

theorem Settings.orSetting_some {text : String} (given : text ≠ "") (setting : String) :
    orSetting (some text) setting = text :=
  if_neg given

namespace Tenant

def withoutScheme (bare : List Char) : List Char :=
  match Text.dropPrefix? "http://".toList bare with
  | some host => host
  | none => (Text.dropPrefix? "https://".toList bare).getD bare

def hostOf (domain : String) : List Char := withoutScheme (bareDomain domain.toList)

def IsPlain (domain : String) : Prop := ∀ mark ∈ ['/', '?', '#'], mark ∉ hostOf domain

def schemed (bare : List Char) : List Char :=
  if hasScheme bare then bare else "https://".toList ++ bare

variable {settings : Settings} {domain : Option String} {base : String}

theorem schemed_text (bare : List Char) :
    ∃ scheme ∈ ["http".toList, "https".toList],
      schemed bare = scheme ++ ':' :: '/' :: '/' :: withoutScheme bare := by
  rw [schemed]
  cases bareScheme : Text.dropPrefix? "http://".toList bare with
  | some host =>
      have schemed : hasScheme bare = true := by
        simp only [hasScheme, Text.startsWith, bareScheme, Option.isSome_some, Bool.true_or]
      refine ⟨"http".toList, List.mem_cons_self, ?_⟩
      simp only [schemed, ↓reduceIte, withoutScheme, bareScheme]
      have text : bare = "http://".toList ++ host := Text.dropPrefix_iff.mp bareScheme
      exact text
  | none =>
      refine ⟨"https".toList, by simp, ?_⟩
      cases secure : Text.dropPrefix? "https://".toList bare with
      | some host =>
          have schemed : hasScheme bare = true := by
            simp only [hasScheme, Text.startsWith, secure, Option.isSome_some, Bool.or_true]
          simp only [schemed, ↓reduceIte, withoutScheme, bareScheme, secure, Option.getD_some]
          have text : bare = "https://".toList ++ host := Text.dropPrefix_iff.mp secure
          exact text
      | none =>
          have schemeless : hasScheme bare = false := by
            simp only [hasScheme, Text.startsWith, bareScheme, secure, Option.isSome_none,
              Bool.or_false]
          simp only [schemeless, Bool.false_eq_true, ↓reduceIte, withoutScheme, bareScheme, secure,
            Option.getD_none]
          rfl

theorem authenticationBase_ok_iff : authenticationBase settings domain = .ok base ↔
    bareDomain (Settings.orSetting domain settings.domain).toList ≠ [] ∧
      base.toList = schemed (bareDomain (Settings.orSetting domain settings.domain).toList) := by
  simp only [authenticationBase, schemed]
  split
  case isTrue empty =>
    have nothing := List.isEmpty_iff.mp empty
    simp only [nothing, ne_eq, not_true_eq_false, false_and, reduceCtorEq]
  case isFalse some =>
    rw [List.isEmpty_iff] at some
    rw [Except.ok.injEq, eq_comm, String.ext_iff, String.toList_ofList]
    exact (and_iff_right some).symm

theorem authenticationBase_text (made : authenticationBase settings domain = .ok base) :
    ∃ scheme ∈ ["http".toList, "https".toList],
      base.toList = scheme ++ ':' :: '/' :: '/' ::
        hostOf (Settings.orSetting domain settings.domain) := by
  obtain ⟨_, text⟩ := authenticationBase_ok_iff.mp made
  rw [text]
  exact schemed_text (bareDomain (Settings.orSetting domain settings.domain).toList)

-- The two addresses are made alike, each from the domain itself.
theorem managementBase_eq (settings : Settings) (domain : Option String) :
    managementBase settings domain =
      (authenticationBase settings domain).map (· ++ managementPath) := by
  simp only [managementBase, authenticationBase]
  split
  case isTrue => rfl
  case isFalse => rw [Except.map, String.ofList_append, String.ofList_toList]

theorem managementBase_text (made : managementBase settings domain = .ok base) :
    ∃ scheme ∈ ["http".toList, "https".toList],
      base.toList = scheme ++ ':' :: '/' :: '/' ::
        (hostOf (Settings.orSetting domain settings.domain) ++ "/api/v2".toList) := by
  rw [managementBase_eq] at made
  obtain ⟨front, authentication, rfl⟩ := map_ok.mp made
  obtain ⟨scheme, named, text⟩ := authenticationBase_text authentication
  exact ⟨scheme, named, by simp [text, managementPath]⟩

end Tenant

namespace Url

/-- An address below which paths are put: the segments of its path, with a slash after them. -/
structure Rooted (root : List (List Char)) (base : Url) : Prop where
  absolute : base.scheme ≠ []
  path : base.path = pathOf root ++ ['/']
  noQuery : base.query = none

theorem rooted_of_management [Platform] {scheme host : List Char} {url base : Url}
    (named : scheme ∈ ["http".toList, "https".toList])
    (plain : ∀ mark ∈ ['/', '?', '#'], mark ∉ host)
    (read : parse (scheme ++ ':' :: '/' :: '/' :: (host ++ "/api/v2".toList)) = .ok url)
    (made : url.asBase = .ok base) : Rooted [[], "api".toList, "v2".toList] base := by
  have letters : scheme.all isSchemeChar = true ∧ scheme.head?.any Text.isAsciiLetter = true ∧
      scheme ≠ [] ∧ Text.asciiLower scheme ≠ [] := by
    simp only [List.mem_cons, List.not_mem_nil, or_false] at named
    rcases named with rfl | rfl <;> decide
  obtain ⟨fits, name, given, lowered⟩ := letters
  have taken := parse_ok read
  have rooted : ∀ c, "/api/v2".toList.head? = some c → c = '/' := by
    rintro c ⟨⟩
    rfl
  rw [split_absolute (List.all_eq_true.mp fits) name plain rooted (by decide) (by decide)] at taken
  obtain ⟨lowerScheme, path, query⟩ := ofParts_ok given taken
  have fixed : requote isPathSafe (normalPath "/api/v2".toList) = "/api/v2".toList := by
    decide +kernel
  have front : url.path = "/api/v2".toList := path.trans fixed
  have target : url.target = "/api/v2".toList := by
    simp only [Url.target, front, query, Option.map_none, List.append_nil]
    rfl
  have absolute : url.scheme ≠ [] := by rwa [lowerScheme]
  simp only [asBase, target] at made
  rw [if_neg (by decide)] at made
  obtain ⟨baseScheme, basePath, baseQuery⟩ := withTarget_path absolute (by decide) made
  refine ⟨?_, ?_, baseQuery⟩
  · rw [baseScheme, lowerScheme]
    intro empty
    exact lowered (List.map_eq_nil_iff.mp empty)
  · exact basePath.trans (by decide +kernel)

end Url

namespace Connection

variable [Platform] {settings : Settings} {domain token : Option String}
  {runtimeVersion base : String} {given : Fields} {timeout : Option Number}
  {connection : Connection}

theorem new_base (made : new settings runtimeVersion base token given timeout = .ok connection) :
    ∃ url, Url.parse base.toList = .ok url ∧ url.asBase = .ok connection.base := by
  obtain ⟨url, _, read, based, rfl⟩ := new_made made
  exact ⟨url, read, based⟩

theorem management_rooted (plain : Tenant.IsPlain (Settings.orSetting domain settings.domain))
    (located : Tenant.managementBase settings domain = .ok base)
    (made : new settings runtimeVersion base token given timeout = .ok connection) :
    connection.base.Rooted [[], "api".toList, "v2".toList] := by
  obtain ⟨scheme, named, text⟩ := Tenant.managementBase_text located
  obtain ⟨url, read, based⟩ := new_base made
  rw [text] at read
  exact Url.rooted_of_management named plain read based

end Connection

end TenantApi
