import TenantApi.Proofs.SchemaRecords

/-!
Checked data can be checked again. What a kind makes of structured values is unchanged when it is
viewed and read by the same kind once more: reading a lenient spelling gives a strict one, defaults
pass their own checks, and the entries that no field is read from come back in their places.
-/

namespace TenantApi.Schema

mutual

/-- Kinds whose data can be read back: each field has its own name, no name stands for two fields,
and each default passes the check of its field. -/
def Kind.Settled : Kind → Prop
  | .list item => Kind.Settled item
  | .optional kind => Kind.Settled kind
  | .model _ fields => (names fields).Nodup ∧ Unaliased fields ∧ FieldsSettled fields
  | _ => True

def FieldsSettled : List (FieldHead × Kind) → Prop
  | [] => True
  | (head, kind) :: rest =>
      (∀ fallback, head.fallback = some fallback → kind.read fallback.view = .ok fallback) ∧
        Kind.Settled kind ∧ FieldsSettled rest

end

section Declaring
variable {name : String} {kind : Kind} {fallback : Datum} {rest : List (FieldHead × Kind)}

@[simp] theorem nothing_settled : FieldsSettled [] := trivial

@[simp] theorem required_settled :
    FieldsSettled (required name kind :: rest) ↔ kind.Settled ∧ FieldsSettled rest := by
  simp [required, FieldsSettled]

-- Null passes the check of every field that may be null.
@[simp] theorem nullable_settled :
    FieldsSettled (nullable name kind :: rest) ↔ kind.Settled ∧ FieldsSettled rest := by
  simp [nullable, FieldsSettled, Kind.Settled, Kind.read, Datum.view]

@[simp] theorem defaulted_settled :
    FieldsSettled (defaulted name fallback kind :: rest) ↔
      kind.read fallback.view = .ok fallback ∧ kind.Settled ∧ FieldsSettled rest := by
  simp [defaulted, FieldsSettled]

theorem Model.settled {model : Model} (apart : (names model.fields).Nodup)
    (unaliased : Unaliased model.fields) (each : FieldsSettled model.fields) :
    model.kind.Settled := ⟨apart, unaliased, each⟩

theorem Model.apart {model : Model} (settled : model.kind.Settled) :
    (names model.fields).Nodup := settled.1

theorem Model.unaliased {model : Model} (settled : model.kind.Settled) :
    Unaliased model.fields := settled.2.1

end Declaring

section Scalars
variable {value result : Datum}

theorem integer_result (read : readInteger value = .ok result) : ∃ n, result = .int n := by
  unfold readInteger fail at read
  split at read
  · exact ⟨_, (Except.ok.inj read).symm⟩
  · exact ⟨_, (Except.ok.inj read).symm⟩
  · split at read
    · contradiction
    · split at read
      · contradiction
      · split at read
        · exact ⟨_, (Except.ok.inj read).symm⟩
        · contradiction
  · contradiction
  · split at read
    · contradiction
    · split at read
      · exact ⟨_, (Except.ok.inj read).symm⟩
      · contradiction
  · split at read
    · exact ⟨_, (Except.ok.inj read).symm⟩
    · contradiction
  · contradiction

theorem truth_result (read : readTruth value = .ok result) : ∃ b, result = .bool b := by
  unfold readTruth fail at read
  split at read
  · exact ⟨_, (Except.ok.inj read).symm⟩
  · exact ⟨_, (Except.ok.inj read).symm⟩
  · exact ⟨_, (Except.ok.inj read).symm⟩
  · split at read <;> contradiction
  · split at read
    · exact ⟨_, (Except.ok.inj read).symm⟩
    · exact ⟨_, (Except.ok.inj read).symm⟩
    · split at read <;> contradiction
    · contradiction
  · contradiction
  · dsimp only at read
    split at read
    · exact ⟨_, (Except.ok.inj read).symm⟩
    · split at read
      · exact ⟨_, (Except.ok.inj read).symm⟩
      · contradiction
  · contradiction

theorem moment_result (read : readMoment value = .ok result) : ∃ m, result = .moment m := by
  have counted {found : Except Time.MomentFault Time.Moment} (same : ofMoment found = .ok result) :
      ∃ m, result = .moment m := by
    cases found with
    | ok moment => exact ⟨moment, (Except.ok.inj same).symm⟩
    | error fault => contradiction
  unfold readMoment fail at read
  split at read
  · exact ⟨_, (Except.ok.inj read).symm⟩
  · contradiction
  · exact counted read
  · split at read
    · exact counted read
    · split at read <;> contradiction
  · exact counted read
  · contradiction

theorem text_result (read : Kind.text.read value = .ok result) : ∃ t, result = .text t := by
  cases value with
  | text t => exact ⟨t, (Except.ok.inj read).symm⟩
  | choice member => exact ⟨.plain member.wire, (Except.ok.inj read).symm⟩
  | _ => contradiction

theorem choice_result {e : WireEnum} (read : readChoice e value = .ok result) :
    ∃ member, result = .choice member ∧ e.ofWire? member.wire = some member := by
  have again {wire : String} {member : Member} (found : e.ofWire? wire = some member) :
      e.ofWire? member.wire = some member := by
    have same : (member.wire == wire) = true := by simpa using List.find?_some found
    rw [beq_iff_eq.mp same, found]
  unfold readChoice fail at read
  split at read
  · contradiction
  · split at read
    · next found => exact ⟨_, (Except.ok.inj read).symm, again found⟩
    · contradiction
  · split at read
    · next found => exact ⟨_, (Except.ok.inj read).symm, again found⟩
    · contradiction
  · contradiction

end Scalars

theorem made_of_item {α β : Type} {made : α → β → Prop} {items : List α} {values : List β}
    (each : List.Forall₂ made items values) {value : β} (member : value ∈ values) :
    ∃ given ∈ items, made given value := by
  induction each with
  | nil => contradiction
  | cons first tail ih =>
      rcases List.mem_cons.mp member with rfl | later
      · exact ⟨_, List.mem_cons_self, first⟩
      · obtain ⟨given, among, made⟩ := ih later
        exact ⟨given, List.mem_cons_of_mem _ among, made⟩

section Records
variable {fields : List (FieldHead × Kind)} {entries checked : Entries}

theorem view_null {value : Datum} (null : value.view.isNull = true) : value = .null := by
  cases value with
  | null => rfl
  | _ => contradiction

def viewed (checked kept : Entries) : Entries :=
  (checked.map fun entry => (entry.1, entry.2.view)) ++ kept

theorem viewed_keys (checked kept : Entries) :
    (viewed checked kept).map Prod.fst = checked.map Prod.fst ++ kept.map Prod.fst := by
  simp [viewed, Function.comp_def]

-- The fields have names of their own and what is kept has other keys, so no key stands twice.
theorem viewed_nodup (plain : Unaliased fields) (apart : (names fields).Nodup)
    (given : List.Forall₂ (Gives entries) fields checked)
    (distinct : (entries.map Prod.fst).Nodup) (isOpen : Bool) :
    ((viewed checked (if isOpen then extras fields entries else [])).map Prod.fst).Nodup := by
  rw [viewed_keys, names_checked given, List.nodup_append]
  have separate := keys_nodup.mpr apart
  cases isOpen with
  | false => simp [separate]
  | true =>
      rw [if_pos rfl, extras_eq plain]
      refine ⟨separate, (List.filter_sublist.map Prod.fst).nodup distinct, ?_⟩
      rintro name declared other among rfl
      obtain ⟨entry, kept, named⟩ := List.mem_map.mp among
      have outside : entry.1 ∉ keys fields := by simpa using (List.mem_filter.mp kept).2
      exact outside (named ▸ declared)

theorem record_view (plain : Unaliased fields) (apart : (names fields).Nodup)
    (given : List.Forall₂ (Gives entries) fields checked) (isPlain : (Datum.mapping entries).Plain)
    (isOpen : Bool) :
    (Datum.record checked (if isOpen then extras fields entries else [])).view =
      .mapping (viewed checked (if isOpen then extras fields entries else [])) := by
  have distinct := viewed_nodup plain apart given isPlain.1 isOpen
  have kept : Datum.viewEntries (if isOpen then extras fields entries else []) =
      if isOpen then extras fields entries else [] := by
    apply Datum.viewEntries_plain
    rw [Datum.plainEntries_iff]
    intro entry member
    cases isOpen with
    | true => exact Datum.plainEntries_iff.mp isPlain.2 entry (List.mem_of_mem_filter member)
    | false => contradiction
  rw [Datum.view, kept, Datum.viewEntries_eq_map, Datum.insertAll_eq, Keyed.putAll_fresh distinct,
    viewed]

theorem keys_whole (fields : List (FieldHead × Kind)) :
    ∀ key ∈ keys fields, key.isRagged = false := by
  intro key member
  obtain ⟨name, _, rfl⟩ := List.mem_map.mp member
  rfl

theorem viewed_whole (given : List.Forall₂ (Gives entries) fields checked)
    (whole : Whole entries) : Whole (viewed checked (extras fields entries)) := by
  refine List.forall_mem_append.mpr ⟨List.forall_mem_map.mpr fun entry among => ?_, ?_⟩
  · exact keys_whole fields _ (names_checked given ▸ List.mem_map.mpr ⟨entry, among, rfl⟩)
  · exact fun entry kept => whole entry (List.mem_of_mem_filter kept)

theorem extras_viewed (plain : Unaliased fields)
    (given : List.Forall₂ (Gives entries) fields checked) :
    extras fields (viewed checked (extras fields entries)) = extras fields entries := by
  have declared : (checked.map fun entry => (entry.1, entry.2.view)).filter
      (fun entry => decide (entry.1 ∉ keys fields)) = [] := by
    rw [List.filter_eq_nil_iff]
    intro entry member
    obtain ⟨found, among, rfl⟩ := List.mem_map.mp member
    have named : found.1 ∈ keys fields :=
      names_checked given ▸ List.mem_map.mpr ⟨found, among, rfl⟩
    simp [named]
  rw [extras_eq plain, viewed, List.filter_append, declared, List.nil_append, extras_eq plain,
    List.filter_filter]
  simp

end Records

mutual

theorem read_view : (kind : Kind) → kind.Settled → ∀ {value result : Datum}, value.Plain →
    kind.read value = .ok result → kind.read result.view = .ok result
  | .text, _, _, _, _, read => by
      obtain ⟨t, rfl⟩ := text_result read
      rfl
  | .integer, _, _, _, _, read => by
      obtain ⟨n, rfl⟩ := integer_result (by rwa [Kind.read] at read)
      rfl
  | .truth, _, _, _, _, read => by
      obtain ⟨b, rfl⟩ := truth_result (by rwa [Kind.read] at read)
      rfl
  | .moment, _, _, _, _, read => by
      obtain ⟨m, rfl⟩ := moment_result (by rwa [Kind.read] at read)
      rfl
  | .anything, _, _, _, plain, read => by
      cases read
      rw [Datum.view_plain plain, Kind.read]
  | .mapping, _, value, _, plain, read => by
      cases value with
      | mapping entries =>
          cases read
          rw [Datum.view_plain plain, Kind.read]
      | _ => contradiction
  | .choice e, _, _, _, _, read => by
      obtain ⟨member, rfl, known⟩ := choice_result (by rwa [Kind.read] at read)
      simp [Datum.view, Kind.read, readChoice, known]
  | .list item, settled, _, _, plain, read => by
      obtain ⟨items, rfl⟩ := list_reads_list read
      obtain ⟨values, rfl, each⟩ := list_read_iff.mp read
      rw [Datum.view, Datum.viewItems_eq_map, list_read_iff]
      refine ⟨values, rfl, List.forall₂_map_left_iff.mpr (List.forall₂_same.mpr ?_)⟩
      intro made member
      obtain ⟨given, among, first⟩ := made_of_item each member
      exact read_view item settled (Datum.plainItems_iff.mp plain given among) first
  | .optional kind, settled, value, _, plain, read => by
      rw [optional_read] at read
      split at read
      · cases read
        rfl
      · have again := read_view kind settled plain read
        rw [optional_read]
        split
        · next null => rw [view_null null]
        · exact again
  | .model isOpen fields, settled, _, _, plain, read => by
      obtain ⟨entries, checked, rfl, whole, given, rfl⟩ := model_read_iff.mp read
      obtain ⟨apart, unaliased, each⟩ := settled
      have distinct := viewed_nodup unaliased apart given plain.1 isOpen
      rw [record_view unaliased apart given plain, model_read_iff]
      refine ⟨_, checked, rfl, ?_, ?_, ?_⟩
      · rintro rfl
        exact viewed_whole given (whole rfl)
      · apply fields_view fields each unaliased plain.2 given
        intro entry member
        apply Keyed.mem_lookup distinct
        exact List.mem_append_left _ (List.mem_map.mpr ⟨entry, member, rfl⟩)
      · cases isOpen with
        | true => simp only [↓reduceIte, extras_viewed unaliased given]
        | false => rfl

theorem fields_view : (fields : List (FieldHead × Kind)) → FieldsSettled fields →
    Unaliased fields → ∀ {entries view checked : Entries}, Datum.PlainEntries entries →
    List.Forall₂ (Gives entries) fields checked →
    (∀ entry ∈ checked, view.lookup entry.1 = some entry.2.view) →
    List.Forall₂ (Gives view) fields checked
  | [], _, _, _, _, _, _, given, _ => by
      cases given
      exact .nil
  | (head, kind) :: rest, settled, unaliased, entries, view, _, plain, given, found => by
      obtain ⟨passes, inside, others⟩ := settled
      cases given with
      | @cons _ entry _ checked first tail =>
          have alone : head.otherName = none := unaliased _ List.mem_cons_self
          have again : kind.read entry.2.view = .ok entry.2 := by
            rcases (readField_iff alone).mp first.2 with ⟨value, present, read⟩ | ⟨_, fallback⟩
            · have isPlain := Datum.plainEntries_iff.mp plain _ (Keyed.lookup_mem present)
              exact read_view kind inside isPlain read
            · exact passes entry.2 fallback
          refine .cons ⟨first.1, ?_⟩ ?_
          · apply (readField_iff alone).mpr
            refine .inl ⟨entry.2.view, ?_, again⟩
            rw [← first.1]
            exact found entry List.mem_cons_self
          · exact fields_view rest others
              (fun field member => unaliased field (List.mem_cons_of_mem _ member)) plain tail
              fun entry member => found entry (List.mem_cons_of_mem _ member)

end

end TenantApi.Schema
