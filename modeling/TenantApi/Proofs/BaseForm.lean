import TenantApi.Proofs.TenantBase

/-!
The form of a tenant's base address. The blanks around a domain are dropped and then the slashes
after it, once each. So a base has its scheme and no slash at its end, and it is its own base again
unless a blank stood right before those slashes. The two APIs refuse the same domains, and their
bases differ by a fixed path alone.
-/

namespace TenantApi.Tenant

open Text (Trimmed)

structure Around (before slashes after : List Char) : Prop where
  before : ∀ c ∈ before, Text.isBlank c = true
  slashes : ∀ c ∈ slashes, c = '/'
  after : ∀ c ∈ after, Text.isBlank c = true

def Nameless (domain : String) : Prop :=
  ∃ before slashes after, domain.toList = before ++ slashes ++ after ∧ Around before slashes after

/-- A blank inside a domain is the last character before the slashes that are dropped. -/
def BlankBeforeSlash (domain : String) : Prop :=
  ∃ front blank slashes after, domain.toList = front ++ blank :: '/' :: slashes ++ after ∧
    (∃ c ∈ front, Text.isBlank c = false) ∧ Text.isBlank blank = true ∧ Around [] slashes after

def EndsIn (kind : Char → Bool) (text : String) : Prop :=
  ∃ c, text.toList.getLast? = some c ∧ kind c = true

structure IsBase (base : String) : Prop where
  schemed : ∃ rest, base = "http://" ++ rest ∨ base = "https://" ++ rest
  noSlash : ¬EndsIn (· = '/') base

section Bare
variable {domain bare : List Char}

theorem bareDomain_iff : bareDomain domain = bare ↔
    ∃ before slashes after, domain = before ++ (bare ++ slashes) ++ after ∧
      Around before slashes after ∧ Trimmed Text.isBlank (bare ++ slashes) ∧
      ∀ c, bare.getLast? = some c → c ≠ '/' := by
  simp only [bareDomain, Text.trimEnd_iff, Text.trim_iff, decide_eq_true_eq,
    decide_eq_false_iff_not]
  constructor
  · rintro ⟨slashes, ⟨before, after, cut, blankBefore, blankAfter, ends⟩, dropped, last⟩
    exact ⟨before, slashes, after, cut, ⟨blankBefore, dropped, blankAfter⟩, ends, last⟩
  · rintro ⟨before, slashes, after, cut, around, ends, last⟩
    exact ⟨slashes, ⟨before, after, cut, around.before, around.after, ends⟩, around.slashes, last⟩

theorem slash_visible : Text.isBlank '/' = false := by decide

theorem bareDomain_nil_iff {text : String} : bareDomain text.toList = [] ↔ Nameless text := by
  rw [bareDomain_iff, Nameless]
  constructor
  · rintro ⟨before, slashes, after, cut, around, _⟩
    exact ⟨before, slashes, after, cut, around⟩
  · rintro ⟨before, slashes, after, cut, around⟩
    refine ⟨before, slashes, after, cut, around, Text.trimmed_of_kept fun c member => ?_, by simp⟩
    rw [around.slashes c member]
    exact slash_visible

-- What is dropped as a slash was followed by nothing but blanks, so a blank before it is kept.
theorem blank_last_iff {text : String} :
    (∃ c, (bareDomain text.toList).getLast? = some c ∧ Text.isBlank c = true) ↔
      BlankBeforeSlash text := by
  constructor
  · rintro ⟨blank, last, isBlank⟩
    have made : bareDomain text.toList = _ := rfl
    obtain ⟨before, slashes, after, cut, around, ends, _⟩ := bareDomain_iff.mp made
    obtain ⟨front, whole⟩ := List.getLast?_eq_some_iff.mp last
    rw [whole] at cut ends
    cases slashes with
    | nil =>
        have visible := ends.last blank (by simp)
        rw [isBlank] at visible
        contradiction
    | cons slash slashes =>
        cases front with
        | nil =>
            have visible := ends.first blank rfl
            rw [isBlank] at visible
            contradiction
        | cons c front =>
            obtain ⟨rfl, slashes⟩ := List.forall_mem_cons.mp around.slashes
            refine ⟨before ++ c :: front, blank, _, after, by simpa using cut,
              ⟨c, by simp, ends.first c rfl⟩, isBlank, by simp, slashes, around.after⟩
  · rintro ⟨front, blank, slashes, after, cut, ⟨seen, member, visible⟩, isBlank, around⟩
    have start : Text.trimStart Text.isBlank front = _ := rfl
    obtain ⟨before, whole, blankBefore, first⟩ := Text.trimStart_iff.mp start
    generalize Text.trimStart Text.isBlank front = rest at whole first
    subst whole
    have some : rest ≠ [] := by
      rintro rfl
      rw [List.append_nil] at member
      rw [blankBefore seen member] at visible
      contradiction
    have slashed : ∀ c ∈ '/' :: slashes, c = '/' :=
      List.forall_mem_cons.mpr ⟨rfl, around.slashes⟩
    have made : bareDomain text.toList = rest ++ [blank] := by
      refine bareDomain_iff.mpr ⟨before, '/' :: slashes, after, by simp [cut],
        ⟨blankBefore, slashed, around.after⟩, ⟨fun c here => ?_, fun c here => ?_⟩, ?_⟩
      · exact first c (by simpa [List.head?_append_of_ne_nil _ some] using here)
      · rw [List.getLast?_append_of_ne_nil _ (by simp)] at here
        rw [slashed c (List.mem_of_getLast? here)]
        exact slash_visible
      · rw [List.getLast?_concat]
        rintro _ ⟨⟩ rfl
        rw [slash_visible] at isBlank
        contradiction
    exact ⟨blank, by rw [made, List.getLast?_concat], isBlank⟩

end Bare

section Schemes
variable {bare text : List Char}

theorem hasScheme_iff : hasScheme text = true ↔
    ∃ rest, text = "http://".toList ++ rest ∨ text = "https://".toList ++ rest := by
  simp only [hasScheme, Text.startsWith, Bool.or_eq_true, Option.isSome_iff_exists,
    Text.dropPrefix_iff, exists_or]

theorem hasScheme_schemed (bare : List Char) : hasScheme (schemed bare) = true := by
  rw [schemed]
  split
  case isTrue given => exact given
  case isFalse => exact hasScheme_iff.mpr ⟨bare, .inr rfl⟩

theorem schemed_last (some : bare ≠ []) : (schemed bare).getLast? = bare.getLast? := by
  rw [schemed]
  split
  case isTrue => rfl
  case isFalse => exact List.getLast?_append_of_ne_nil _ some

theorem scheme_visible (given : hasScheme text = true) :
    ∀ c, text.head? = some c → Text.isBlank c = false := by
  obtain ⟨rest, rfl | rfl⟩ := hasScheme_iff.mp given
  all_goals
    rintro c ⟨⟩
    decide

theorem secure_visible : ∀ c ∈ "https://".toList, Text.isBlank c = false := by
  have visible : "https://".toList.all (!Text.isBlank ·) = true := by decide
  simpa only [List.all_eq_true, Bool.not_eq_true'] using visible

theorem bareDomain_prefix (first : ∀ c, text.head? = some c → Text.isBlank c = false) :
    bareDomain text <+: text := by
  have made : bareDomain text = _ := rfl
  obtain ⟨before, slashes, after, cut, around, _⟩ := bareDomain_iff.mp made
  cases before with
  | nil => exact ⟨slashes ++ after, by simpa using cut.symm⟩
  | cons c before =>
      have visible := first c (by rw [cut]; rfl)
      rw [around.before c List.mem_cons_self] at visible
      contradiction

theorem bareDomain_fixed_iff (first : ∀ c, text.head? = some c → Text.isBlank c = false)
    (noSlash : ∀ c, text.getLast? = some c → c ≠ '/') :
    bareDomain text = text ↔ ∀ c, text.getLast? = some c → Text.isBlank c = false := by
  rw [bareDomain_iff]
  constructor
  · rintro ⟨before, slashes, after, cut, _, ends, _⟩
    have nothing : slashes = [] := by
      have lengths := congrArg List.length cut
      simp only [List.length_append] at lengths
      exact List.length_eq_zero_iff.mp (by omega)
    rw [nothing, List.append_nil] at ends
    exact ends.last
  · intro last
    exact ⟨[], [], [], by simp, ⟨by simp, by simp, by simp⟩,
      ⟨by simpa using first, by simpa using last⟩, noSlash⟩

-- A scheme put before a bare part cannot make up for the blank that was dropped: text and bare part
-- begin alike, so a bare part without a scheme is a piece of the scheme.
theorem schemed_fixed_iff (given : hasScheme text = true)
    (noSlash : ∀ c, text.getLast? = some c → c ≠ '/') :
    schemed (bareDomain text) = text ↔ ∀ c, text.getLast? = some c → Text.isBlank c = false := by
  have first := scheme_visible given
  rw [← bareDomain_fixed_iff first noSlash]
  constructor
  · intro fixed
    have begins := bareDomain_prefix first
    rw [schemed] at fixed
    split at fixed
    case isTrue => exact fixed
    case isFalse bareName =>
      have named : "https://".toList <+: text := ⟨bareDomain text, fixed⟩
      rcases List.prefix_or_prefix_of_prefix named begins with ⟨rest, longer⟩ | ⟨rest, piece⟩
      · exact absurd (hasScheme_iff.mpr ⟨rest, .inr longer.symm⟩) bareName
      · refine (bareDomain_fixed_iff first noSlash).mpr fun c last => ?_
        rw [← fixed] at last
        rcases List.mem_append.mp (List.mem_of_getLast? last) with here | here
        · exact secure_visible c here
        · exact secure_visible c (by rw [← piece]; exact List.mem_append_left rest here)
  · intro same
    rw [same, schemed, if_pos given]

end Schemes

section Bases
variable {settings : Settings} {domain : Option String} {base : String}

theorem authenticationBase_error_iff {fault : Argument.Fault} :
    authenticationBase settings domain = .error fault ↔
      Nameless (Settings.orSetting domain settings.domain) ∧ fault = .noDomain := by
  rw [← bareDomain_nil_iff, ← List.isEmpty_iff]
  simp only [authenticationBase]
  split
  case isTrue empty => simp only [empty, true_and, Except.error.injEq, eq_comm]
  case isFalse some => simp only [some, reduceCtorEq, Bool.false_eq_true, false_and]

theorem managementBase_error_iff {fault : Argument.Fault} :
    managementBase settings domain = .error fault ↔
      authenticationBase settings domain = .error fault := by
  rw [managementBase_eq, Fallible.map_error]

theorem base_last (made : authenticationBase settings domain = .ok base) :
    base.toList.getLast? =
      (bareDomain (Settings.orSetting domain settings.domain).toList).getLast? := by
  obtain ⟨some, text⟩ := authenticationBase_ok_iff.mp made
  rw [text, schemed_last some]

theorem base_blank_iff (made : authenticationBase settings domain = .ok base) :
    EndsIn Text.isBlank base ↔ BlankBeforeSlash (Settings.orSetting domain settings.domain) := by
  rw [← blank_last_iff, EndsIn, base_last made]

theorem isBase_of_ok (made : authenticationBase settings domain = .ok base) : IsBase base := by
  obtain ⟨_, text⟩ := authenticationBase_ok_iff.mp made
  constructor
  · have given := hasScheme_schemed (bareDomain (Settings.orSetting domain settings.domain).toList)
    obtain ⟨rest, named⟩ := hasScheme_iff.mp given
    rw [← text] at named
    refine ⟨String.ofList rest, ?_⟩
    simpa only [String.ext_iff, String.toList_append, String.toList_ofList] using named
  · rintro ⟨c, last, slash⟩
    rw [base_last made] at last
    have bare : bareDomain (Settings.orSetting domain settings.domain).toList = _ := rfl
    obtain ⟨_, _, _, _, _, _, noSlash⟩ := bareDomain_iff.mp bare
    exact noSlash c last (decide_eq_true_eq.mp slash)

theorem base_fixed_iff (normal : IsBase base) (other : Settings) :
    authenticationBase other (some base) = .ok base ↔ ¬EndsIn Text.isBlank base := by
  have given : hasScheme base.toList = true := by
    obtain ⟨rest, named⟩ := normal.schemed
    refine hasScheme_iff.mpr ⟨rest.toList, ?_⟩
    simpa only [String.ext_iff, String.toList_append] using named
  have noSlash : ∀ c, base.toList.getLast? = some c → c ≠ '/' :=
    fun c last slash => normal.noSlash ⟨c, last, decide_eq_true slash⟩
  have unending : (∀ c, base.toList.getLast? = some c → Text.isBlank c = false) ↔
      ¬EndsIn Text.isBlank base := by
    simp only [EndsIn, not_exists, not_and, Bool.not_eq_true]
  have filled : base ≠ "" := by
    rintro rfl
    exact absurd given (by decide)
  rw [authenticationBase_ok_iff, Settings.orSetting_some filled, eq_comm,
    schemed_fixed_iff given noSlash, unending]
  refine and_iff_right_of_imp fun visible nothing => filled ?_
  have same := (bareDomain_fixed_iff (scheme_visible given) noSlash).mpr (unending.mpr visible)
  exact String.ext (same.symm.trans nothing)

/-- The two APIs refuse the same domains, those of which nothing is left, and their bases differ by
a fixed path. A base has a scheme and no slash at its end, whatever the domain. It ends in no blank,
and is its own base, unless the last character before the slashes of the domain is a blank: blanks
are dropped before slashes are, and not again. -/
theorem base_normal_iff (settings : Settings) (domain : Option String) :
    (∀ fault, managementBase settings domain = .error fault ↔
      authenticationBase settings domain = .error fault) ∧
    (∀ fault, authenticationBase settings domain = .error fault ↔
      Nameless (Settings.orSetting domain settings.domain) ∧ fault = .noDomain) ∧
    ∀ base, authenticationBase settings domain = .ok base →
      managementBase settings domain = .ok (base ++ "/api/v2") ∧ IsBase base ∧
      (EndsIn Text.isBlank base ↔ BlankBeforeSlash (Settings.orSetting domain settings.domain)) ∧
      ∀ other, authenticationBase other (some base) = .ok base ↔
        ¬BlankBeforeSlash (Settings.orSetting domain settings.domain) := by
  refine ⟨fun _ => managementBase_error_iff, fun _ => authenticationBase_error_iff, ?_⟩
  intro base made
  have normal := isBase_of_ok made
  have below : managementBase settings domain = .ok (base ++ managementPath) := by
    rw [managementBase_eq, made, Except.map]
  refine ⟨below, normal, base_blank_iff made, fun other => ?_⟩
  rw [base_fixed_iff normal other, base_blank_iff made]

theorem base_normal_iff_slashes :
    authenticationBase Settings.standard (some "\t//tenant.auth0.com// ") =
        .ok "https:////tenant.auth0.com" ∧
      managementBase Settings.standard (some "\t//tenant.auth0.com// ") =
        .ok "https:////tenant.auth0.com/api/v2" ∧
      IsBase "https:////tenant.auth0.com" := by
  have made : authenticationBase Settings.standard (some "\t//tenant.auth0.com// ") =
      .ok "https:////tenant.auth0.com" := by decide +kernel
  obtain ⟨below, normal, _⟩ := (base_normal_iff _ _).2.2 _ made
  exact ⟨made, below, normal⟩

theorem blank_before_slash_kept :
    authenticationBase Settings.standard (some "tenant.auth0.com /") =
        .ok "https://tenant.auth0.com " ∧
      EndsIn Text.isBlank "https://tenant.auth0.com " ∧
      authenticationBase Settings.standard (some "https://tenant.auth0.com ") =
        .ok "https://tenant.auth0.com" := by
  refine ⟨by decide +kernel, ⟨' ', by decide, by decide⟩, by decide +kernel⟩

end Bases

end TenantApi.Tenant
