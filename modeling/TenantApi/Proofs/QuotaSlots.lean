import TenantApi.Log.Event
import TenantApi.Proofs.QuotaGrammar

/-!
What a quota header says, however many segments it has. Each of the two slots holds the limit of the
last segment that fills it, and each malformed segment is reported once, in order. A value that
follows another therefore overrides it slot by slot, and neighbours that do not fill the same slot
can change places.
-/

namespace TenantApi.Quota

inductive Slot where
  | hour
  | day
  deriving DecidableEq

def Slot.ofBucket (bucket : String) : Slot := if bucket = "per_hour" then .hour else .day

def Fills (segment : String) (slot : Slot) (limit : Limit) : Prop :=
  ∃ bucket, parseSegment segment = .ok (some (limit, bucket)) ∧ Slot.ofBucket bucket = slot

def LastFills (list : List String) (slot : Slot) (limit : Limit) : Prop :=
  ∃ before segment after, list = before ++ segment :: after ∧ Fills segment slot limit ∧
    ∀ later ∈ after, ∀ other, ¬Fills later slot other

/-- Segments between which a reader need not tell which comes first. -/
def Independent (left right : String) : Prop :=
  ∀ slot limit other, Fills left slot limit → ¬Fills right slot other

def ReadableValue (value : String) : Prop := ∀ segment ∈ segments value, ¬Unreadable segment

def fill? (slot : Slot) (segment : String) : Option Limit :=
  match parseSegment segment with
  | .ok (some (limit, bucket)) => if Slot.ofBucket bucket = slot then some limit else none
  | _ => none

namespace Limits

def at? (limits : Limits) : Slot → Option Limit
  | .hour => limits.perHour
  | .day => limits.perDay

def override (earlier later : Limits) : Limits :=
  ⟨later.perHour.or earlier.perHour, later.perDay.or earlier.perDay⟩

variable (limits left right : Limits) (slot : Slot) (bucket : String) (limit : Limit)

theorem at_set : (limits.set bucket limit).at? slot =
    if Slot.ofBucket bucket = slot then some limit else limits.at? slot := by
  by_cases hourly : bucket = "per_hour"
  · cases slot <;> simp [set, hourlyBucket, Slot.ofBucket, at?, hourly]
  · cases slot <;> simp [set, hourlyBucket, Slot.ofBucket, at?, hourly]

theorem at_override : (left.override right).at? slot = (right.at? slot).or (left.at? slot) := by
  cases slot <;> rfl

theorem at_empty : empty.at? slot = none := by
  cases slot <;> rfl

theorem slots_ext (agree : ∀ slot, left.at? slot = right.at? slot) : left = right := by
  obtain ⟨hour, day⟩ := left
  obtain ⟨otherHour, otherDay⟩ := right
  have sameHour : hour = otherHour := agree .hour
  have sameDay : day = otherDay := agree .day
  rw [sameHour, sameDay]

end Limits

section Segments
variable {segment : String} {slot : Slot} {limit : Limit}

theorem fill_iff : fill? slot segment = some limit ↔ Fills segment slot limit := by
  simp only [fill?, Fills]
  cases parseSegment segment with
  | error fault => simp
  | ok outcome =>
      cases outcome with
      | none => simp
      | some found =>
          obtain ⟨found, bucket⟩ := found
          by_cases same : Slot.ofBucket bucket = slot
          · simp [same]
          · simp [same, Ne.symm]

theorem fill_none_iff : fill? slot segment = none ↔ ∀ limit, ¬Fills segment slot limit := by
  simp only [Option.eq_none_iff_forall_ne_some, ne_eq, fill_iff]

-- A run of the reader from any limits: what a slot holds afterwards was put there by the last
-- segment that fills it, or was there before.
theorem readSegments_fills (list : List String) (start : Limits)
    (readable : ∀ segment ∈ list, ¬Unreadable segment) :
    ∃ limits,
      readSegments list start = ⟨.ok limits, list.filter fun s => parseSegment s = .ok none⟩ ∧
        ∀ slot, limits.at? slot = (list.reverse.findSome? (fill? slot)).or (start.at? slot) := by
  induction list generalizing start with
  | nil => exact ⟨start, rfl, fun slot => rfl⟩
  | cons segment rest ih =>
      have later := fun s member => readable s (List.mem_cons_of_mem segment member)
      cases read : parseSegment segment with
      | error fault =>
          exact absurd (parseSegment_error_iff.mp ⟨fault, read⟩) (readable segment (by simp))
      | ok outcome =>
          cases outcome with
          | none =>
              obtain ⟨limits, run, slots⟩ := ih start later
              refine ⟨limits, ?_, ?_⟩
              · simp [readSegments, read, run]
              · intro slot
                simp [slots, fill?, read]
          | some found =>
              obtain ⟨limit, bucket⟩ := found
              obtain ⟨limits, run, slots⟩ := ih (start.set bucket limit) later
              refine ⟨limits, ?_, ?_⟩
              · simp [readSegments, read, run]
              · intro slot
                rw [slots, Limits.at_set, List.reverse_cons, List.findSome?_append, Option.or_assoc]
                by_cases same : Slot.ofBucket bucket = slot
                · simp [fill?, read, same]
                · simp [fill?, read, same]

theorem lastFills_iff {list : List String} :
    list.reverse.findSome? (fill? slot) = some limit ↔ LastFills list slot limit := by
  rw [List.findSome?_eq_some_iff]
  constructor
  · rintro ⟨after, segment, before, turned, filled, passed⟩
    refine ⟨before.reverse, segment, after.reverse, ?_, fill_iff.mp filled, ?_⟩
    · rw [← List.reverse_reverse list, turned]
      simp
    · intro later member
      exact fill_none_iff.mp (passed later (List.mem_reverse.mp member))
  · rintro ⟨before, segment, after, rfl, filled, passed⟩
    refine ⟨after.reverse, segment, before.reverse, by simp, fill_iff.mpr filled, ?_⟩
    intro later member
    exact fill_none_iff.mpr (passed later (List.mem_reverse.mp member))

theorem neighbours_swap {left right : String} (independent : Independent left right)
    (before after : List String) (slot : Slot) :
    (before ++ right :: left :: after).reverse.findSome? (fill? slot) =
      (before ++ left :: right :: after).reverse.findSome? (fill? slot) := by
  have either : fill? slot left = none ∨ fill? slot right = none := by
    by_cases filled : ∃ limit, Fills left slot limit
    · obtain ⟨limit, filled⟩ := filled
      exact .inr (fill_none_iff.mpr fun other => independent slot limit other filled)
    · exact .inl (fill_none_iff.mpr fun limit found => filled ⟨limit, found⟩)
  have pair :
      (fill? slot left).or (fill? slot right) = (fill? slot right).or (fill? slot left) := by
    rcases either with none | none <;> simp [none]
  have two (a b : String) : [a, b].findSome? (fill? slot) = (fill? slot a).or (fill? slot b) := by
    cases found : fill? slot a <;> cases other : fill? slot b <;> simp [found, other]
  have turned (a b : String) :
      (before ++ a :: b :: after).reverse = after.reverse ++ ([b, a] ++ before.reverse) := by simp
  rw [turned, turned, List.findSome?_append, List.findSome?_append, List.findSome?_append,
    List.findSome?_append, two, two, pair]

end Segments

section Values
variable {value : String}

theorem readableValue_of_read
    (read : ∀ segment ∈ segments value, (parseSegment segment).isOk = true) :
    ReadableValue value := by
  intro segment member
  have ok := read segment member
  cases outcome : parseSegment segment with
  | error fault =>
      rw [outcome] at ok
      contradiction
  | ok found => exact readable_of_read outcome

theorem segments_comma (left right : String) :
    segments (left ++ "," ++ right) = segments left ++ segments right := by
  have text : (left ++ "," ++ right).toList = left.toList ++ ',' :: right.toList := by simp
  rw [segments, text, Text.splitAt_concat, List.map_append]
  rfl

theorem readLimits_fills (given : value ≠ "") (readable : ReadableValue value) :
    ∃ limits,
      readLimits (some value) =
        ⟨.ok (some limits), (segments value).filter fun s => parseSegment s = .ok none⟩ ∧
        ∀ slot, limits.at? slot = (segments value).reverse.findSome? (fill? slot) := by
  obtain ⟨limits, run, slots⟩ := readSegments_fills (segments value) Limits.empty readable
  refine ⟨limits, ?_, ?_⟩
  · simp [readLimits, given, run, Except.map]
  · intro slot
    rw [slots, Limits.at_empty, Option.or_none]

theorem readLimits_comma {later : String} {limits laterLimits : Limits} {reports more : List String}
    (given : later ≠ "") (readable : ReadableValue value) (readableLater : ReadableValue later)
    (read : readLimits (some value) = ⟨.ok (some limits), reports⟩)
    (readLater : readLimits (some later) = ⟨.ok (some laterLimits), more⟩) (front : value ≠ "") :
    readLimits (some (value ++ "," ++ later)) =
      ⟨.ok (some (limits.override laterLimits)), reports ++ more⟩ := by
  have readableBoth : ReadableValue (value ++ "," ++ later) := by
    intro segment member
    rw [segments_comma, List.mem_append] at member
    rcases member with first | second
    · exact readable segment first
    · exact readableLater segment second
  have some : value ++ "," ++ later ≠ "" := by
    intro empty
    have length := congrArg String.length empty
    simp [String.length_append] at length
  obtain ⟨firstLimits, firstRun, firstSlots⟩ := readLimits_fills front readable
  obtain ⟨secondLimits, secondRun, secondSlots⟩ := readLimits_fills given readableLater
  obtain ⟨bothLimits, bothRun, bothSlots⟩ := readLimits_fills some readableBoth
  rw [read, Reading.mk.injEq, Except.ok.injEq, Option.some.injEq] at firstRun
  rw [readLater, Reading.mk.injEq, Except.ok.injEq, Option.some.injEq] at secondRun
  obtain ⟨rfl, rfl⟩ := firstRun
  obtain ⟨rfl, rfl⟩ := secondRun
  have slots : bothLimits = limits.override laterLimits := by
    apply Limits.slots_ext
    intro slot
    rw [bothSlots, Limits.at_override, firstSlots, secondSlots, segments_comma,
      List.reverse_append, List.findSome?_append]
  rw [bothRun, slots, segments_comma, List.filter_append]

theorem readLimits_swap {arranged left right : String} {before after : List String}
    (given : value ≠ "") (readable : ReadableValue value)
    (cut : segments value = before ++ left :: right :: after)
    (arrangedCut : segments arranged = before ++ right :: left :: after)
    (independent : Independent left right) :
    (readLimits (some arranged)).result = (readLimits (some value)).result := by
  have readableArranged : ReadableValue arranged := by
    intro segment member
    apply readable segment
    rw [arrangedCut] at member
    rw [cut]
    simp only [List.mem_append, List.mem_cons] at member ⊢
    tauto
  have some : arranged ≠ "" := by
    rintro rfl
    have alone : segments "" = [""] := by decide
    have length := congrArg List.length (alone.symm.trans arrangedCut)
    simp at length
    omega
  obtain ⟨limits, run, slots⟩ := readLimits_fills given readable
  obtain ⟨others, otherRun, otherSlots⟩ := readLimits_fills some readableArranged
  have same : others = limits := by
    apply Limits.slots_ext
    intro slot
    rw [slots, otherSlots, cut, arrangedCut, neighbours_swap independent]
  rw [run, otherRun, same]

end Values

theorem limits_law (value : String) (given : value ≠ "") (readable : ReadableValue value) :
    ∃ limits, (readLimits (some value)).result = .ok (some limits) ∧
      (∀ headers, Header.first? headers clientHeader = some value →
        clientLimits (some headers) = readLimits (some value)) ∧
      (∀ headers, Header.first? headers organizationHeader = some value →
        organizationLimits (some headers) = readLimits (some value)) ∧
      (∀ slot limit, limits.at? slot = some limit ↔ LastFills (segments value) slot limit) ∧
      (∀ slot, limits.at? slot = none ↔
        ∀ segment ∈ segments value, ∀ limit, ¬Fills segment slot limit) ∧
      (∀ created, ((readLimits (some value)).malformed.map fun segment =>
          (Log.Event.malformedQuota segment).record created) =
        ((segments value).filter fun segment => parseSegment segment = .ok none).map fun segment =>
          ⟨Log.debug, "auth0_sdk.core.quota",
            "Ignoring malformed quota segment " ++ Text.quotedString segment, created, [], none⟩) ∧
      (∀ later laterLimits, later ≠ "" → ReadableValue later →
        (readLimits (some later)).result = .ok (some laterLimits) →
        readLimits (some (value ++ "," ++ later)) =
          ⟨.ok (some (limits.override laterLimits)),
            (readLimits (some value)).malformed ++ (readLimits (some later)).malformed⟩) ∧
      ∀ arranged before left right after,
        segments value = before ++ left :: right :: after →
        segments arranged = before ++ right :: left :: after → Independent left right →
          (readLimits (some arranged)).result = .ok (some limits) := by
  obtain ⟨limits, run, slots⟩ := readLimits_fills given readable
  have result : (readLimits (some value)).result = .ok (some limits) := by rw [run]
  refine ⟨limits, result, ?_, ?_, ?_, ?_, ?_, ?_, ?_⟩
  · intro headers found
    simp only [clientLimits, Option.bind_some, found]
  · intro headers found
    simp only [organizationLimits, Option.bind_some, found]
  · intro slot limit
    rw [slots, lastFills_iff]
  · intro slot
    rw [slots, List.findSome?_eq_none_iff]
    simp only [List.mem_reverse, fill_none_iff]
  · intro created
    rw [run]
    rfl
  · intro later laterLimits givenLater readableLater resultLater
    refine readLimits_comma givenLater readable readableLater ?_ ?_ given
    · rw [← result]
    · rw [← resultLater]
  · intro arranged before left right after cut arrangedCut independent
    rw [readLimits_swap given readable cut arrangedCut independent, result]

section Example

def exampleEarlier : String := "b=per_hour;q=10;r=9;t=924,bad,b=weekly;q=7;r=7;t=7"

def exampleLater : String := ",b=per_day;q=100;r=99;t=924"

theorem limits_law_example :
    (exampleEarlier ≠ "" ∧ ReadableValue exampleEarlier) ∧
      readLimits (some (exampleEarlier ++ "," ++ exampleLater)) =
        ⟨.ok (some ⟨some ⟨10, 9, 924⟩, some ⟨100, 99, 924⟩⟩), ["bad", ""]⟩ := by
  have given : exampleEarlier ≠ "" := by decide
  have readable : ReadableValue exampleEarlier := readableValue_of_read (by decide +kernel)
  have readableLater : ReadableValue exampleLater := readableValue_of_read (by decide +kernel)
  have earlier : (readLimits (some exampleEarlier)).result =
      .ok (some ⟨some ⟨10, 9, 924⟩, some ⟨7, 7, 7⟩⟩) := by decide +kernel
  have later : (readLimits (some exampleLater)).result =
      .ok (some ⟨none, some ⟨100, 99, 924⟩⟩) := by decide +kernel
  have reports : (readLimits (some exampleEarlier)).malformed ++
      (readLimits (some exampleLater)).malformed = ["bad", ""] := by decide +kernel
  obtain ⟨limits, result, _, _, _, _, _, overridden, _⟩ :=
    limits_law exampleEarlier given readable
  have both := overridden exampleLater _ (by decide) readableLater later
  rw [earlier, Except.ok.injEq, Option.some.injEq] at result
  rw [reports, ← result] at both
  exact ⟨⟨given, readable⟩, both⟩

end Example

end TenantApi.Quota
