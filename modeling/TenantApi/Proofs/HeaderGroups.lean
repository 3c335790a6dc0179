import TenantApi.Proofs.HeaderFields

/-!
The grouped view of header fields keeps them apart and keeps them all. It has one entry for each
name, whatever its letter case; an entry holds the values of the fields of its name and no others;
and its key, in small letters, is their name again.
-/

namespace TenantApi.Header

def ungrouped (groups : List (String × List String)) : Fields :=
  groups.flatMap fun entry => entry.2.map fun value => (entry.1, value)

def lowered (field : String × String) : String × String := (lowerName field.1, field.2)

def KeptIn (entry : String × List String) (field : String × String) : Prop :=
  entry.1 = titleName field.1 ∧ field.2 ∈ entry.2

/-- What a grouped view makes of fields: entries with distinct keys that hold these fields, each one
under its own name, and nothing else. -/
structure Grouping (fields : Fields) (groups : List (String × List String)) : Prop where
  distinct : (groups.map Prod.fst).Nodup
  complete : ((ungrouped groups).map lowered).Perm (fields.map lowered)
  counted : (groups.map fun entry => entry.2.length).sum = fields.length
  held : ∀ field ∈ fields, (titleName field.1, valuesOf fields field.1) ∈ groups
  named : ∀ entry ∈ groups, ∃ field ∈ fields,
    lowerName entry.1 = lowerName field.1 ∧ entry.2 = valuesOf fields field.1
  together : ∀ a ∈ fields, ∀ b ∈ fields,
    (∃ entry ∈ groups, KeptIn entry a ∧ KeptIn entry b) ↔ lowerName a.1 = lowerName b.1

theorem ungrouped_appendValue (key value : String) (groups : List (String × List String)) :
    (ungrouped (appendValue key value groups)).Perm (ungrouped groups ++ [(key, value)]) := by
  induction groups with
  | nil => exact .refl _
  | cons entry rest ih =>
      simp only [ungrouped] at ih
      by_cases here : entry.1 = key
      · subst here
        simp only [ungrouped, appendValue, ↓reduceIte, List.flatMap_cons, List.map_append,
          List.map_cons, List.map_nil, List.append_assoc]
        exact List.perm_append_comm.append_left _
      · simp only [ungrouped, appendValue, here, ↓reduceIte, List.flatMap_cons, List.append_assoc]
        exact ih.append_left _

section Whole
variable {fields : Fields} {key : String} {values : List String}

theorem group_nodup (fields : Fields) : ((group fields).map Prod.fst).Nodup := by
  induction fields using List.reverseRecOn with
  | nil => exact List.nodup_nil
  | append_singleton front field ih =>
      rw [group_append, appendValue_eq_put]
      exact Keyed.nodup_put ih

theorem group_key (member : key ∈ (group fields).map Prod.fst) :
    ∃ field ∈ fields, key = titleName field.1 := by
  induction fields using List.reverseRecOn with
  | nil => contradiction
  | append_singleton front field ih =>
      have known : key ∈ (group front).map Prod.fst ∨ key = titleName field.1 := by
        rw [group_append, appendValue_eq_put, Keyed.keys_put] at member
        split at member
        case isTrue => exact .inl member
        case isFalse => simpa using member
      rcases known with before | last
      · obtain ⟨found, among, same⟩ := ih before
        exact ⟨found, List.mem_append_left _ among, same⟩
      · exact ⟨field, by simp, last⟩

theorem ungrouped_group (fields : Fields) :
    (ungrouped (group fields)).Perm (fields.map fun field => (titleName field.1, field.2)) := by
  induction fields using List.reverseRecOn with
  | nil => exact .refl _
  | append_singleton front field ih =>
      rw [group_append, List.map_append]
      exact (ungrouped_appendValue _ _ _).trans (ih.append_right _)

theorem mem_group_iff : (key, values) ∈ group fields ↔
    ∃ field ∈ fields, key = titleName field.1 ∧ values = valuesOf fields field.1 := by
  constructor
  · intro member
    obtain ⟨field, among, rfl⟩ := group_key (List.mem_map.mpr ⟨_, member, rfl⟩)
    have found := Keyed.mem_lookup (group_nodup fields) member
    rw [lookup_group] at found
    split at found
    case isTrue => contradiction
    case isFalse => exact ⟨field, among, rfl, (Option.some.inj found).symm⟩
  · rintro ⟨field, among, rfl, rfl⟩
    have some : valuesOf fields field.1 ≠ [] :=
      List.ne_nil_of_mem (mem_valuesOf.mpr ⟨field, among, rfl, rfl⟩)
    apply Keyed.lookup_mem
    rw [lookup_group, if_neg some]

theorem length_ungrouped (groups : List (String × List String)) :
    (ungrouped groups).length = (groups.map fun entry => entry.2.length).sum := by
  simp [ungrouped, List.length_flatMap]

/-- The view is a grouping of the fields, and the key of a name is that of no other name. -/
theorem group_grouping (fields : Fields) :
    Grouping fields (group fields) ∧
      (∀ name, lowerName (titleName name) = lowerName name) ∧
      ∀ a b, titleName a = titleName b ↔ lowerName a = lowerName b := by
  refine ⟨⟨group_nodup fields, ?_, ?_, ?_, ?_, ?_⟩, lowerName_title, fun _ _ => titleName_iff⟩
  · have relabelled := (ungrouped_group fields).map lowered
    simp only [List.map_map, Function.comp_def, lowered, lowerName_title] at relabelled
    exact relabelled
  · rw [← length_ungrouped, (ungrouped_group fields).length_eq, List.length_map]
  · intro field among
    exact mem_group_iff.mpr ⟨field, among, rfl, rfl⟩
  · rintro ⟨key, values⟩ member
    obtain ⟨field, among, rfl, rfl⟩ := mem_group_iff.mp member
    exact ⟨field, among, lowerName_title field.1, rfl⟩
  · intro a here b there
    constructor
    · rintro ⟨entry, _, ⟨left, _⟩, right, _⟩
      exact titleName_iff.mp (left.symm.trans right)
    · intro same
      refine ⟨_, mem_group_iff.mpr ⟨a, here, rfl, rfl⟩, ⟨rfl, ?_⟩, titleName_iff.mpr same, ?_⟩
      · exact mem_valuesOf.mpr ⟨a, here, rfl, rfl⟩
      · exact mem_valuesOf.mpr ⟨b, there, same.symm, rfl⟩

end Whole

end TenantApi.Header
