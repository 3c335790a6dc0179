import TenantApi.Http.Request
import TenantApi.Proofs.Keyed

/-!
The parameters that are sent. Nulls are left out and truth values become words; all else goes along
as it is and in its order, zeros and empty values too. A null inside a list is no null parameter.
What was cleaned once is clean, and in the query the words are those that truth values have anyway.
-/

namespace TenantApi.Query

structure Settled (value : Json) : Prop where
  given : value ≠ .null
  flagless : ∀ flag, value ≠ .bool flag

inductive SentAs : Json → Json → Prop
  | affirmed : SentAs (.bool true) (.string "true")
  | denied : SentAs (.bool false) (.string "false")
  | same {value : Json} (settled : Settled value) : SentAs value value

inductive Cleaning : Members → Members → Prop
  | nil : Cleaning [] []
  | passed {name : LooseText} {given kept : Members} (rest : Cleaning given kept) :
      Cleaning ((name, .null) :: given) kept
  | sent {name : LooseText} {value after : Json} {given kept : Members} (first : SentAs value after)
      (rest : Cleaning given kept) : Cleaning ((name, value) :: given) ((name, after) :: kept)

/-- What cleaning makes of a mapping: a mapping again, of the names whose values are not null, in
their order, to what these values are sent as. -/
structure IsCleaned (given kept : Members) : Prop where
  distinct : (kept.map Prod.fst).Nodup
  names : kept.map Prod.fst = (given.filter fun param => param.2 ≠ .null).map Prod.fst
  values : ∀ name after, kept.lookup name = some after ↔
    ∃ value, given.lookup name = some value ∧ SentAs value after
  settled : ∀ param ∈ kept, Settled param.2

section Values
variable {value after other : Json}

theorem SentAs.given (sent : SentAs value after) : value ≠ .null := by
  cases sent with
  | affirmed | denied => simp
  | same settled => exact settled.given

theorem SentAs.settled (sent : SentAs value after) : Settled after := by
  cases sent with
  | affirmed | denied => exact ⟨by simp, by simp⟩
  | same settled => exact settled

theorem SentAs.unique (sent : SentAs value after) (again : SentAs value other) :
    after = other := by
  cases sent with
  | affirmed =>
      cases again with
      | affirmed => rfl
      | same settled => exact absurd rfl (settled.flagless true)
  | denied =>
      cases again with
      | denied => rfl
      | same settled => exact absurd rfl (settled.flagless false)
  | same settled =>
      cases again with
      | affirmed => exact absurd rfl (settled.flagless true)
      | denied => exact absurd rfl (settled.flagless false)
      | same => rfl

end Values

section Cleaning
variable {given kept params : Members} {name : LooseText} {after : Json}

theorem cleaning_clean (params : Members) : Cleaning params (clean params) := by
  induction params with
  | nil => exact .nil
  | cons param rest ih =>
      obtain ⟨name, value⟩ := param
      cases value with
      | null => exact .passed ih
      | bool flag => cases flag with
        | true => exact .sent .affirmed ih
        | false => exact .sent .denied ih
      | int | float | string | array | object => exact .sent (.same ⟨by simp, by simp⟩) ih

theorem Cleaning.unique {other : Members} (cleaning : Cleaning given kept)
    (again : Cleaning given other) : kept = other := by
  induction cleaning generalizing other with
  | nil =>
      cases again
      rfl
  | passed rest ih =>
      cases again with
      | passed others => exact ih others
      | sent null others => exact absurd rfl null.given
  | sent first rest ih =>
      cases again with
      | passed others => exact absurd rfl first.given
      | sent same others => rw [first.unique same, ih others]

theorem cleaning_iff : Cleaning given kept ↔ clean given = kept := by
  constructor
  · exact fun cleaning => (cleaning_clean given).unique cleaning
  · rintro rfl
    exact cleaning_clean given

theorem Cleaning.names (cleaning : Cleaning given kept) :
    kept.map Prod.fst = (given.filter fun param => param.2 ≠ .null).map Prod.fst := by
  induction cleaning with
  | nil => rfl
  | passed rest ih => simpa using ih
  | sent first rest ih => simp [first.given, ih]

theorem Cleaning.names_sublist (cleaning : Cleaning given kept) :
    (kept.map Prod.fst).Sublist (given.map Prod.fst) := by
  rw [cleaning.names]
  exact List.filter_sublist.map Prod.fst

theorem Cleaning.settled (cleaning : Cleaning given kept) : ∀ param ∈ kept, Settled param.2 := by
  induction cleaning with
  | nil => simp
  | passed rest ih => exact ih
  | sent first rest ih => exact List.forall_mem_cons.mpr ⟨first.settled, ih⟩

-- A null hides nothing behind it only because no name comes twice.
theorem Cleaning.values (cleaning : Cleaning given kept) (distinct : (given.map Prod.fst).Nodup) :
    kept.lookup name = some after ↔
      ∃ value, given.lookup name = some value ∧ SentAs value after := by
  induction cleaning with
  | nil => simp
  | @passed here given kept rest ih =>
      rw [List.map_cons, List.nodup_cons] at distinct
      by_cases same : name = here
      · subst same
        have absent : kept.lookup name = none := by
          rw [← Option.not_isSome_iff_eq_none, Keyed.lookup_isSome]
          exact fun member => distinct.1 (rest.names_sublist.subset member)
        have unsent : ¬SentAs .null after := fun sent => sent.given rfl
        simp [absent, unsent]
      · simpa [Keyed.lookup_cons, same] using ih distinct.2
  | @sent here value found given kept first rest ih =>
      rw [List.map_cons, List.nodup_cons] at distinct
      by_cases same : name = here
      · subst same
        simp only [Keyed.lookup_cons, ↓reduceIte, Option.some.injEq, exists_eq_left']
        constructor
        · rintro rfl
          exact first
        · exact first.unique
      · simpa [Keyed.lookup_cons, same] using ih distinct.2

theorem Cleaning.isCleaned (cleaning : Cleaning given kept)
    (distinct : (given.map Prod.fst).Nodup) : IsCleaned given kept :=
  ⟨distinct.sublist cleaning.names_sublist, cleaning.names,
    fun _ _ => cleaning.values distinct, cleaning.settled⟩

/-- Parameters stay as they are exactly when there is nothing to leave out or to put into words. -/
theorem clean_fixed_iff : clean params = params ↔ ∀ param ∈ params, Settled param.2 := by
  rw [← cleaning_iff]
  constructor
  · exact Cleaning.settled
  · intro settled
    induction params with
    | nil => exact .nil
    | cons param rest ih =>
        obtain ⟨first, others⟩ := List.forall_mem_cons.mp settled
        exact .sent (.same first) (ih others)

theorem cleaned_again (params : Option Members) : cleaned (cleaned params) = cleaned params := by
  have again (given : Members) : clean (clean given) = clean given :=
    clean_fixed_iff.mpr (cleaning_clean given).settled
  simp only [cleaned, Option.map_map, Function.comp_def, again]

end Cleaning

section Queries
variable {given kept : Members}

theorem SentAs.texts {value after : Json} (sent : SentAs value after) :
    (valueItems after).map valueText = (valueItems value).map valueText := by
  cases sent with
  | affirmed | denied | same => rfl

theorem Cleaning.pairs_eq (cleaning : Cleaning given kept) :
    pairs kept = pairs (given.filter fun param => param.2 ≠ .null) := by
  induction cleaning with
  | nil => rfl
  | passed rest ih => simpa using ih
  | @sent name value after given kept first rest ih =>
      have texts : (valueItems after).map (fun item => (name, valueText item)) =
          (valueItems value).map fun item => (name, valueText item) := by
        have paired := congrArg (List.map (Prod.mk name)) first.texts
        simpa only [List.map_map, Function.comp_def] using paired
      simp only [pairs, ne_eq, decide_not] at ih
      simp [pairs, first.given, texts, ih]

/-- The query is that of the parameters without the nulls: a null would be sent as an empty text,
but a truth value is written as the same word whether or not it was put into one. -/
theorem encode_clean (params : Members) :
    encode (clean params) = encode (params.filter fun param => param.2 ≠ .null) := by
  rw [encode, encode, (cleaning_clean params).pairs_eq]

end Queries

/-- A call has parameters to send exactly when it has parameters; these are cleaned as a mapping,
and cleaning them again changes nothing. -/
theorem cleaned_exact (params : Option Members)
    (mapping : ∀ given ∈ params, (given.map Prod.fst).Nodup) :
    (cleaned params = none ↔ params = none) ∧
      cleaned (cleaned params) = cleaned params ∧
      ∀ given ∈ params, ∃ kept ∈ cleaned params, IsCleaned given kept := by
  refine ⟨Option.map_eq_none_iff, cleaned_again params, fun given member => ?_⟩
  have isCleaned := (cleaning_clean given).isCleaned (mapping given member)
  exact ⟨clean given, Option.mem_map_of_mem clean member, isCleaned⟩

def faintParams : Members := [
  ("page", .null), ("totals", .bool true), ("sort", .bool false), ("from", .int 0),
  ("take", .int 1), ("ratio", .float 0.0), ("search", .string ""), ("fields", .array []),
  ("flags", .array [.null, .bool true, .array []]), ("limit", .null)]

theorem cleaned_exact_faint :
    (faintParams.map Prod.fst).Nodup ∧
      IsCleaned faintParams [
        ("totals", .string "true"), ("sort", .string "false"), ("from", .int 0), ("take", .int 1),
        ("ratio", .float 0.0), ("search", .string ""), ("fields", .array []),
        ("flags", .array [.null, .bool true, .array []])] := by
  have distinct : (faintParams.map Prod.fst).Nodup := by decide
  have mapping : ∀ given ∈ some faintParams, (given.map Prod.fst).Nodup := by
    rintro given ⟨⟩
    exact distinct
  obtain ⟨_, _, each⟩ := cleaned_exact (some faintParams) mapping
  obtain ⟨kept, ⟨⟩, isCleaned⟩ := each faintParams rfl
  exact ⟨distinct, isCleaned⟩

end TenantApi.Query

namespace TenantApi.Request

/-- Parameters that were cleaned before make the same address. -/
theorem withParams_cleaned [Platform] (url : Url) (params : Option Members) :
    withParams url (Query.cleaned params) = withParams url params := by
  rw [withParams, Query.cleaned_again, withParams]

end TenantApi.Request
