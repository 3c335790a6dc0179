import TenantApi.Connection
import TenantApi.Proofs.HeaderFields

/-!
Fields in layers. Of several lists of fields the first that has a name gives its value. Overriding
goes by names in any letter case and keeps to that; setting goes by the exact spelling and does so
only as long as nothing is respelled, else both values stay. Everything is said of one name at a
time, as all of these operations leave the other names alone.
-/

namespace TenantApi.Header

def Distinct (fields : Fields) : Prop := fields.Pairwise fun a b => sameName a.1 b.1 = false

def fieldsOf (fields : Fields) (name : String) : Fields :=
  fields.filter fun field => sameName field.1 name

def prevailing (layers : List Fields) (name : String) : Option String :=
  layers.findSome? (firstValue? · name)

/-- Fields with a name exactly once, with the value of the first layer that has it, or without the
name when no layer has it. -/
def Carries (fields : Fields) (layers : List Fields) (name : String) : Prop :=
  valuesOf fields name = (prevailing layers name).toList

def setAll (fields given : Fields) : Fields :=
  given.foldl (fun fields field => set field.1 field.2 fields) fields

def SpelledAlike (fields given : Fields) (name : String) : Prop :=
  ∀ own ∈ fields, ∀ field ∈ given, sameName own.1 name = true → sameName field.1 name = true →
    field.1 = own.1

section Names
variable {fields given : Fields} {name other : String}

theorem sameName_congr (same : sameName name other = true) (key : String) :
    sameName key name = sameName key other := by
  rw [Bool.eq_iff_iff, sameName_iff, sameName_iff, sameName_iff.mp same]

theorem has_congr (same : sameName name other = true) : has fields name = has fields other := by
  simp only [has, sameName_congr same]

theorem has_iff : has fields name = true ↔ ∃ field ∈ fields, sameName field.1 name = true := by
  simp [has]

theorem fieldsOf_eq_nil : fieldsOf fields name = [] ↔ has fields name = false := by
  rw [← Bool.not_eq_true, has_iff, fieldsOf, List.filter_eq_nil_iff]
  simp

theorem valuesOf_eq (fields : Fields) (name : String) :
    valuesOf fields name = (fieldsOf fields name).map Prod.snd := rfl

theorem firstValue_fieldsOf (fields : Fields) (name : String) :
    firstValue? fields name = ((fieldsOf fields name).head?).map Prod.snd := by
  rw [firstValue_eq, valuesOf_eq, List.head?_map]

theorem prevailing_cons (layer : Fields) (layers : List Fields) (name : String) :
    prevailing (layer :: layers) name = (firstValue? layer name).or (prevailing layers name) := by
  cases found : firstValue? layer name <;> simp [prevailing, found]

theorem prevailing_append (front back : List Fields) (name : String) :
    prevailing (front ++ back) name = (prevailing front name).or (prevailing back name) :=
  List.findSome?_append

theorem fieldsOf_member {field : String × String} {rest : Fields}
    (found : fieldsOf fields name = field :: rest) :
    field ∈ fields ∧ sameName field.1 name = true := by
  have member : field ∈ fieldsOf fields name := by simp [found]
  exact List.mem_filter.mp member

theorem valuesOf_eq_nil : valuesOf fields name = [] ↔ has fields name = false := by
  rw [← fieldsOf_eq_nil]
  exact List.map_eq_nil_iff

theorem carries_length {layers : List Fields} (carried : Carries fields layers name) :
    (valuesOf fields name).length ≤ 1 := by
  rw [carried]
  exact Option.length_toList_le

-- A name that is there at most once has its first value for its only one.
theorem Distinct.fieldsOf_cases (distinct : Distinct fields) (name : String) :
    fieldsOf fields name = [] ∨ ∃ field, fieldsOf fields name = [field] := by
  have apart := distinct.filter fun field => sameName field.1 name
  have named : ∀ field ∈ fieldsOf fields name, sameName field.1 name = true :=
    fun field member => (List.mem_filter.mp member).2
  match found : fieldsOf fields name with
  | [] => exact .inl rfl
  | [field] => exact .inr ⟨field, rfl⟩
  | first :: second :: rest =>
      rw [← fieldsOf, found] at apart
      have different := List.rel_of_pairwise_cons apart (List.mem_cons_self)
      have firstNamed := named first (by simp [found])
      have secondNamed := named second (by simp [found])
      rw [sameName_congr secondNamed, firstNamed] at different
      contradiction

theorem Distinct.fieldsOf_eq {field : String × String} (distinct : Distinct fields)
    (member : field ∈ fields) (named : sameName field.1 name = true) :
    fieldsOf fields name = [field] := by
  have there : field ∈ fieldsOf fields name := List.mem_filter.mpr ⟨member, named⟩
  rcases distinct.fieldsOf_cases name with none | ⟨only, one⟩
  · rw [none] at there
    contradiction
  · rw [one, List.mem_singleton] at there
    rw [one, there]

end Names

section Setting
variable {fields given : Fields} {name : String}

theorem fieldsOf_set (key value : String) (fields : Fields) (name : String) :
    fieldsOf (set key value fields) name =
      if sameName key name then set key value (fieldsOf fields name) else fieldsOf fields name := by
  induction fields with
  | nil => by_cases named : sameName key name = true <;> simp [set, fieldsOf, named]
  | cons field rest ih =>
      simp only [fieldsOf] at ih ⊢
      by_cases here : field.1 = key
      · by_cases named : sameName key name = true <;> simp [set, here, named]
      · by_cases named : sameName field.1 name = true
        · simp only [set, here, ↓reduceIte, named, List.filter_cons_of_pos, ih]
          split <;> rfl
        · simp [set, here, named, ih]

theorem fieldsOf_setAll (fields given : Fields) (name : String) :
    fieldsOf (setAll fields given) name =
      setAll (fieldsOf fields name) (fieldsOf given name) := by
  induction given generalizing fields with
  | nil => rfl
  | cons field rest ih =>
      have step : setAll fields (field :: rest) = setAll (set field.1 field.2 fields) rest := rfl
      rw [step, ih, fieldsOf_set]
      by_cases named : sameName field.1 name = true
      · simp [fieldsOf, named, setAll]
      · simp [fieldsOf, named, setAll]

-- A field takes the place of one that is spelled like it, and stands beside any other.
theorem setAll_carries (fieldsOnce : Distinct fields) (givenOnce : Distinct given)
    (alike : SpelledAlike fields given name) :
    Carries (setAll fields given) [given, fields] name := by
  rw [Carries, valuesOf_eq, fieldsOf_setAll, prevailing_cons, prevailing_cons, firstValue_fieldsOf,
    firstValue_fieldsOf]
  rcases givenOnce.fieldsOf_cases name with absent | ⟨field, new⟩
  · rcases fieldsOnce.fieldsOf_cases name with nothing | ⟨own, old⟩
    · simp [absent, nothing, setAll, prevailing]
    · simp [absent, old, setAll, prevailing]
  · rcases fieldsOnce.fieldsOf_cases name with nothing | ⟨own, old⟩
    · simp [new, nothing, setAll, set]
    · have spelled : field.1 = own.1 :=
        alike own (fieldsOf_member old).1 field (fieldsOf_member new).1 (fieldsOf_member old).2
          (fieldsOf_member new).2
      simp [new, old, setAll, set, spelled]

theorem valuesOf_respelled {own field : String × String} (fieldsOnce : Distinct fields)
    (givenOnce : Distinct given) (old : own ∈ fields) (new : field ∈ given)
    (named : sameName field.1 own.1 = true) (respelled : field.1 ≠ own.1) :
    valuesOf (setAll fields given) own.1 = [own.2, field.2] := by
  have self : sameName own.1 own.1 = true := sameName_iff.mpr rfl
  rw [valuesOf_eq, fieldsOf_setAll, fieldsOnce.fieldsOf_eq old self,
    givenOnce.fieldsOf_eq new named]
  simp [setAll, set, respelled.symm]

end Setting

section Overriding
variable {fields given : Fields} {layers : List Fields} {name : String}

theorem fieldsOf_override (fields given : Fields) (name : String) :
    fieldsOf (override fields given) name =
      if has given name then fieldsOf given name else fieldsOf fields name := by
  rw [override, fieldsOf, List.filter_append, List.filter_filter]
  split
  case isTrue there =>
    have dropped : ∀ field ∈ fields, ¬(sameName field.1 name && !has given field.1) = true := by
      intro field _ kept
      rw [Bool.and_eq_true, Bool.not_eq_true'] at kept
      rw [has_congr kept.1, there] at kept
      exact absurd kept.2 (by decide)
    rw [List.filter_eq_nil_iff.mpr dropped, List.nil_append]
    rfl
  case isFalse absent =>
    rw [Bool.not_eq_true] at absent
    have nothing : fieldsOf given name = [] := fieldsOf_eq_nil.mpr absent
    rw [← fieldsOf, nothing, List.append_nil]
    refine List.filter_congr fun field _ => ?_
    by_cases named : sameName field.1 name = true
    · simp [named, has_congr named, absent]
    · simp [named]

-- Where the given fields have the name, nothing need be known of the others.
theorem override_carries (givenOnce : Distinct given)
    (others : has given name = false → Carries fields layers name) :
    Carries (override fields given) (given :: layers) name := by
  rw [Carries, valuesOf_eq, fieldsOf_override, prevailing_cons]
  cases there : has given name with
  | true =>
      rw [if_pos rfl, firstValue_fieldsOf]
      rcases givenOnce.fieldsOf_cases name with absent | ⟨field, one⟩
      · rw [fieldsOf_eq_nil.mp absent] at there
        contradiction
      · simp [one]
  | false =>
      rw [firstValue_fieldsOf, fieldsOf_eq_nil.mpr there]
      exact others there

end Overriding

section Adding
variable {fields : Fields} {layers : List Fields} {field : String × String} {name : String}

theorem prevailing_field (field : String × String) (name : String) :
    prevailing [[field]] name = if sameName field.1 name then some field.2 else none := by
  by_cases named : sameName field.1 name = true <;> simp [prevailing, firstValue?, named]

theorem carries_none (carried : Carries fields layers name) :
    prevailing layers name = none ↔ has fields name = false := by
  rw [← valuesOf_eq_nil, carried, Option.toList_eq_nil_iff]

-- One more layer at the end counts for a name only if no other layer has it.
theorem append_carries (carried : Carries fields layers name)
    (absent : has fields field.1 = false) :
    Carries (fields ++ [field]) (layers ++ [[field]]) name := by
  rw [Carries, valuesOf_append, prevailing_append, prevailing_field]
  by_cases named : sameName field.1 name = true
  · have nothing : has fields name = false := (has_congr named).symm.trans absent
    rw [valuesOf_eq_nil.mpr nothing, (carries_none carried).mpr nothing, if_pos named, if_pos named]
    rfl
  · rw [if_neg named, if_neg named, List.append_nil, Option.or_none]
    exact carried

theorem keep_carries (carried : Carries fields layers name) (there : has fields field.1 = true) :
    Carries fields (layers ++ [[field]]) name := by
  rw [Carries, prevailing_append, prevailing_field]
  by_cases named : sameName field.1 name = true
  · have something : prevailing layers name ≠ none := by
      intro none
      rw [has_congr named, (carries_none carried).mp none] at there
      contradiction
    obtain ⟨value, found⟩ := Option.ne_none_iff_exists'.mp something
    rw [carried, found]
    rfl
  · rw [if_neg named, Option.or_none]
    exact carried

end Adding

end TenantApi.Header
