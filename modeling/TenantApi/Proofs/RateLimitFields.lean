import TenantApi.Proofs.HeaderFields
import TenantApi.Proofs.IntegerText
import TenantApi.Proofs.QuotaSlots
import TenantApi.RateLimit

/-!
What the fields of a response say about rate limits. Each of the five parts of a rate limit is read
from the first field of its own header and from nothing else. There is no rate limit at all when no
count is an integer and no quota header says anything; a quota header of malformed segments does say
something.
-/

namespace TenantApi.RateLimit

open Header (firstValue?)

def counts : List (String × (RateLimit → Option Int)) := [
  ("x-ratelimit-limit", limit), ("x-ratelimit-remaining", remaining),
  ("x-ratelimit-reset", reset)]

def quotas : List (String × (RateLimit → Option Quota.Limits)) := [
  ("auth0-client-quota-limit", client), ("auth0-organization-quota-limit", organization)]

def headerNames : List String := counts.map Prod.fst ++ quotas.map Prod.fst

def unknown : RateLimit := ⟨none, none, none, none, none⟩

def Readable (fields : Fields) : Prop :=
  ∀ quota ∈ quotas, ∀ text, firstValue? fields quota.1 = some text → Quota.ReadableValue text

def count? (value : Option String) : Option Int :=
  value.bind fun text => Decimal.readInteger text.toList

def ofValues (value : String → Option String) : Quota.Reading (Option RateLimit) :=
  let client := Quota.readLimits (value "auth0-client-quota-limit")
  match client.result with
  | .error error => ⟨.error error, client.malformed⟩
  | .ok clientLimits =>
      let organization := Quota.readLimits (value "auth0-organization-quota-limit")
      match organization.result with
      | .error error => ⟨.error error, client.malformed ++ organization.malformed⟩
      | .ok organizationLimits =>
          let info : RateLimit :=
            ⟨count? (value "x-ratelimit-limit"), count? (value "x-ratelimit-remaining"),
              count? (value "x-ratelimit-reset"), clientLimits, organizationLimits⟩
          ⟨.ok (if info.isEmpty then none else some info),
            client.malformed ++ organization.malformed⟩

section Fields
variable {fields others : Fields}

theorem isEmpty_iff {info : RateLimit} : info.isEmpty = true ↔ info = unknown := by
  obtain ⟨limit, remaining, reset, client, organization⟩ := info
  simp [isEmpty, unknown, and_assoc]

theorem ofFields_eq (fields : Fields) : ofFields fields = ofValues (firstValue? fields) := by
  have named (title name : String) (same : title = Header.titleName name) :
      Header.first? (Header.grouped fields) title = firstValue? fields name := by
    rw [same, Header.first_grouped]
  have limit := named limitHeader "x-ratelimit-limit" (by decide)
  have remaining := named remainingHeader "x-ratelimit-remaining" (by decide)
  have reset := named resetHeader "x-ratelimit-reset" (by decide)
  have client := named Quota.clientHeader "auth0-client-quota-limit" (by decide)
  have organization := named Quota.organizationHeader "auth0-organization-quota-limit" (by decide)
  rw [ofFields, ofValues, ← limit, ← remaining, ← reset, ← client, ← organization]
  cases Header.grouped fields <;> rfl

theorem ofFields_congr
    (agree : ∀ name ∈ headerNames, firstValue? others name = firstValue? fields name) :
    ofFields others = ofFields fields := by
  simp only [headerNames, counts, quotas, List.map_cons, List.map_nil, List.cons_append,
    List.nil_append, List.forall_mem_cons, List.not_mem_nil, false_implies, implies_true,
    and_true] at agree
  obtain ⟨limit, remaining, reset, client, organization⟩ := agree
  simp only [ofFields_eq, ofValues, limit, remaining, reset, client, organization]

theorem quota_read (value : Option String)
    (readable : ∀ text, value = some text → Quota.ReadableValue text) :
    ∃ limits, (Quota.readLimits value).result = .ok limits ∧
      (limits = none ↔ ∀ text, value = some text → text = "") := by
  cases value with
  | none => exact ⟨none, rfl, by simp⟩
  | some text =>
      by_cases empty : text = ""
      · exact ⟨none, by simp [Quota.readLimits, empty], by simp [empty]⟩
      · obtain ⟨limits, read, _⟩ := Quota.readLimits_fills empty (readable text rfl)
        exact ⟨some limits, by rw [read], by simp [empty]⟩

-- No rate limit stands for one of which no part is known.
theorem shown_eq {info : RateLimit} {result : Option RateLimit}
    (shown : (if info.isEmpty then none else some info) = result) :
    result.getD unknown = info ∧ (result = none ↔ info = unknown) := by
  subst shown
  by_cases empty : info = unknown
  · subst empty
    rw [if_pos (isEmpty_iff.mpr rfl)]
    simp
  · simp [empty, Bool.eq_false_iff.mpr fun hidden => empty (isEmpty_iff.mp hidden)]

theorem parts_read {result : Option RateLimit} (read : (ofFields fields).result = .ok result) :
    (∀ count ∈ counts, count.2 (result.getD unknown) = count? (firstValue? fields count.1)) ∧
      (∀ quota ∈ quotas, (Quota.readLimits (firstValue? fields quota.1)).result =
        .ok (quota.2 (result.getD unknown))) ∧
      (result = none ↔ result.getD unknown = unknown) := by
  rw [ofFields_eq] at read
  simp only [ofValues] at read
  split at read
  case h_1 => simp at read
  case h_2 clientLimits client =>
    split at read
    case h_1 => simp at read
    case h_2 organizationLimits organization =>
      simp only [Except.ok.injEq] at read
      obtain ⟨whole, absent⟩ := shown_eq read
      rw [absent, whole]
      simp [counts, quotas, client, organization]

theorem ofFields_readable (readable : Readable fields) :
    ∃ result, (ofFields fields).result = .ok result := by
  have each (name : String) (part : RateLimit → Option Quota.Limits)
      (among : (name, part) ∈ quotas) :
      ∃ limits, (Quota.readLimits (firstValue? fields name)).result = .ok limits := by
    obtain ⟨limits, read, _⟩ := quota_read (firstValue? fields name) (readable (name, part) among)
    exact ⟨limits, read⟩
  obtain ⟨_, readClient⟩ := each "auth0-client-quota-limit" client (by simp [quotas])
  obtain ⟨_, readOrganization⟩ :=
    each "auth0-organization-quota-limit" organization (by simp [quotas])
  simp only [ofFields_eq, ofValues, readClient, readOrganization]
  exact ⟨_, rfl⟩

theorem count_iff (ascii : ∀ field ∈ fields, ∀ c ∈ field.2.toList, c.toNat < 128) (name : String)
    (n : Int) :
    count? (firstValue? fields name) = some n ↔
      ∃ text, firstValue? fields name = some text ∧ Decimal.IsInteger text.toList n := by
  simp only [count?, Option.bind_eq_some_iff]
  refine exists_congr fun text => and_congr_right fun found => ?_
  apply Decimal.readInteger_iff
  obtain ⟨field, first, rfl⟩ := Option.map_eq_some_iff.mp found
  exact ascii field (List.mem_of_find?_eq_some first)

theorem unknown_iff {info : RateLimit} :
    info = unknown ↔
      (∀ count ∈ counts, count.2 info = none) ∧ ∀ quota ∈ quotas, quota.2 info = none := by
  obtain ⟨limit, remaining, reset, client, organization⟩ := info
  simp [unknown, counts, quotas, and_assoc]

end Fields

-- Every part is settled by the first field of its own header, whatever the others say.
theorem ofFields_parts (fields : Fields)
    (ascii : ∀ field ∈ fields, ∀ c ∈ field.2.toList, c.toNat < 128) (readable : Readable fields) :
    ∃ result, (ofFields fields).result = .ok result ∧
      (result = none ↔
        (∀ count ∈ counts, ¬∃ text n, firstValue? fields count.1 = some text ∧
          Decimal.IsInteger text.toList n) ∧
        ∀ quota ∈ quotas, ∀ text, firstValue? fields quota.1 = some text → text = "") ∧
      (∀ count ∈ counts, ∀ n, count.2 (result.getD unknown) = some n ↔
        ∃ text, firstValue? fields count.1 = some text ∧ Decimal.IsInteger text.toList n) ∧
      (∀ quota ∈ quotas, (Quota.readLimits (firstValue? fields quota.1)).result =
        .ok (quota.2 (result.getD unknown))) ∧
      (∀ others, (∀ name ∈ headerNames, firstValue? others name = firstValue? fields name) →
        ofFields others = ofFields fields) ∧
      ∀ others other, (ofFields others).result = .ok other →
        (∀ count ∈ counts, firstValue? others count.1 = firstValue? fields count.1 →
          count.2 (other.getD unknown) = count.2 (result.getD unknown)) ∧
        ∀ quota ∈ quotas, firstValue? others quota.1 = firstValue? fields quota.1 →
          quota.2 (other.getD unknown) = quota.2 (result.getD unknown) := by
  obtain ⟨result, read⟩ := ofFields_readable readable
  obtain ⟨atCounts, atQuotas, absent⟩ := parts_read read
  refine ⟨result, read, ?absent, ?counted, atQuotas, fun others => ofFields_congr, ?apart⟩
  case absent =>
    rw [absent, unknown_iff]
    refine and_congr (forall₂_congr fun count among => ?_) (forall₂_congr fun quota among => ?_)
    · rw [atCounts count among, Option.eq_none_iff_forall_ne_some]
      simp only [ne_eq, count_iff ascii, not_exists]
      exact forall_comm
    · obtain ⟨limits, found, none⟩ := quota_read _ (readable quota among)
      rw [atQuotas quota among, Except.ok.injEq] at found
      rw [found, none]
  case counted =>
    intro count among n
    rw [atCounts count among, count_iff ascii]
  case apart =>
    intro others other readOther
    obtain ⟨otherCounts, otherQuotas, _⟩ := parts_read readOther
    refine ⟨fun count among same => ?_, fun quota among same => ?_⟩
    · rw [otherCounts count among, same, atCounts count among]
    · have both := otherQuotas quota among
      rw [same, atQuotas quota among, Except.ok.injEq] at both
      exact both.symm

section Example

-- A second field of a name, a malformed count and a malformed quota.
def exampleFields : Fields := [
  ("X-RATELIMIT-Remaining", " +1_0\t"), ("x-ratelimit-remaining", "7"),
  ("x-RateLimit-Limit", "1__0"), ("auth0-CLIENT-quota-limit", "bad")]

theorem ofFields_parts_example :
    ((∀ field ∈ exampleFields, ∀ c ∈ field.2.toList, c.toNat < 128) ∧ Readable exampleFields) ∧
      (ofFields exampleFields).result =
        .ok (some ⟨none, some 10, none, some ⟨none, none⟩, none⟩) ∧
      Decimal.IsInteger " +1_0\t".toList 10 := by
  have ascii : ∀ field ∈ exampleFields, ∀ c ∈ field.2.toList, c.toNat < 128 := by
    simp [exampleFields]
  have first : firstValue? exampleFields "auth0-client-quota-limit" = some "bad" ∧
      firstValue? exampleFields "auth0-organization-quota-limit" = none := by decide
  have readable : Readable exampleFields := by
    have bad : Quota.ReadableValue "bad" := Quota.readableValue_of_read (by decide +kernel)
    simp only [Readable, quotas, List.forall_mem_cons, first.1, first.2]
    simp [bad]
  have found : (ofFields exampleFields).result =
      .ok (some ⟨none, some 10, none, some ⟨none, none⟩, none⟩) := by decide +kernel
  obtain ⟨result, read, _, counted, _⟩ := ofFields_parts exampleFields ascii readable
  rw [found, Except.ok.injEq] at read
  subst read
  have among : ("x-ratelimit-remaining", remaining) ∈ counts := by simp [counts]
  obtain ⟨text, given, spelled⟩ := (counted _ among 10).mp rfl
  have value : firstValue? exampleFields "x-ratelimit-remaining" = some " +1_0\t" := by decide
  rw [value, Option.some.injEq] at given
  exact ⟨⟨ascii, readable⟩, found, given ▸ spelled⟩

end Example

end TenantApi.RateLimit
