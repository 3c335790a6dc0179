import TenantApi.Header
import TenantApi.Proofs.Keyed

/-!
The grouped view of header fields. Two names have the same entry exactly when they differ in letter
case alone, and an entry holds the values of all fields of its name in their order.
-/

namespace TenantApi.Header

def valuesOf (fields : Fields) (name : String) : List String :=
  (fields.filter fun field => sameName field.1 name).map Prod.snd

def firstValue? (fields : Fields) (name : String) : Option String :=
  (fields.find? fun field => sameName field.1 name).map Prod.snd

section Names
variable {a b : String}

theorem sameName_iff : sameName a b = true ↔ lowerName a = lowerName b := by
  simp [sameName]

theorem titleFrom_lower (afterLetter : Bool) (text : List Char) :
    Text.asciiLower (Text.titleFrom afterLetter text) = Text.asciiLower text := by
  induction text generalizing afterLetter with
  | nil => rfl
  | cons c rest ih =>
      have tail := ih (Text.isAsciiLetter c)
      simp only [Text.asciiLower] at tail
      cases afterLetter <;> simp [Text.titleFrom, Text.asciiLower, tail]

-- Title-casing can be undone as far as letter case does not matter.
theorem lowerName_title (name : String) : lowerName (titleName name) = lowerName name := by
  simp only [lowerName, titleName, Text.title, String.toList_ofList, titleFrom_lower]
  simp [Text.asciiLower, Function.comp_def]

theorem titleName_iff : titleName a = titleName b ↔ lowerName a = lowerName b := by
  constructor
  · intro same
    rw [← lowerName_title a, same, lowerName_title]
  · intro same
    have spelled : Text.asciiLower a.toList = Text.asciiLower b.toList := String.ofList_inj.mp same
    simp only [titleName, spelled]

end Names

section Groups
variable {groups : List (String × List String)} {fields : Fields} {key : String}

theorem appendValue_eq_put (name value : String) (groups : List (String × List String)) :
    appendValue name value groups =
      Keyed.put name ((groups.lookup name).getD [] ++ [value]) groups := by
  induction groups with
  | nil => rfl
  | cons entry rest ih =>
      obtain ⟨found, values⟩ := entry
      by_cases here : found = name
      · subst here
        simp [appendValue, Keyed.put]
      · simp [appendValue, Keyed.put, Keyed.lookup_cons, here, Ne.symm here, ih]

theorem lookup_appendValue (name value : String) :
    (appendValue name value groups).lookup key =
      if key = name then some ((groups.lookup name).getD [] ++ [value]) else groups.lookup key := by
  rw [appendValue_eq_put, Keyed.lookup_put]

theorem group_append (front : Fields) (field : String × String) :
    group (front ++ [field]) = appendValue (titleName field.1) field.2 (group front) := by
  simp [group, List.foldl_append]

theorem mem_valuesOf {value name : String} :
    value ∈ valuesOf fields name ↔
      ∃ field ∈ fields, lowerName field.1 = lowerName name ∧ field.2 = value := by
  simp [valuesOf, sameName_iff, and_assoc]

theorem valuesOf_append (front : Fields) (field : String × String) (name : String) :
    valuesOf (front ++ [field]) name =
      valuesOf front name ++ if sameName field.1 name then [field.2] else [] := by
  by_cases same : sameName field.1 name = true
  · simp [valuesOf, List.filter_append, same]
  · simp [valuesOf, List.filter_append, same]

theorem lookup_group (fields : Fields) (name : String) :
    (group fields).lookup (titleName name) =
      if valuesOf fields name = [] then none else some (valuesOf fields name) := by
  induction fields using List.reverseRecOn with
  | nil => rfl
  | append_singleton front field ih =>
      rw [group_append, lookup_appendValue, valuesOf_append]
      by_cases same : sameName field.1 name = true
      · have titled : titleName field.1 = titleName name := titleName_iff.mpr (sameName_iff.mp same)
        rw [titled, ih]
        by_cases before : valuesOf front name = [] <;> simp [same, before]
      · have apart : titleName name ≠ titleName field.1 := by
          intro titled
          exact same (sameName_iff.mpr (titleName_iff.mp titled.symm))
        simp [apart, same, ih]

theorem lookup_grouped (fields : Fields) :
    (grouped fields).lookup key = ((group fields).lookup key).map .many :=
  Keyed.lookup_map FieldValues.many (group fields)

theorem firstValue_eq (fields : Fields) (name : String) :
    firstValue? fields name = (valuesOf fields name).head? := by
  rw [valuesOf, List.head?_map, List.head?_filter, firstValue?]

-- The first of the values under a key, and the first field whose name is the key's.
theorem first_grouped (fields : Fields) (name : String) :
    first? (grouped fields) (titleName name) = firstValue? fields name := by
  rw [first?, lookup_grouped, lookup_group, firstValue_eq]
  cases valuesOf fields name <;> simp

end Groups

end TenantApi.Header
