import TenantApi.Proofs.Fallible
import TenantApi.Schema.Reader

/-!
When checking succeeds. Two checks made together succeed when both do, and where an issue is
reported has no part in it; so a list is read exactly when each of its items is, in their order.
-/

namespace TenantApi.Schema

section Combining
variable {α β : Type} {first : Except (List Issue) α} {second : Except (List Issue) β}

theorem both_ok {a : α} {b : β} :
    both first second = .ok (a, b) ↔ first = .ok a ∧ second = .ok b := by
  cases first <;> cases second <;> simp [both]

theorem within_ok {step : Step} {a : α} : within step first = .ok a ↔ first = .ok a :=
  Fallible.mapError_ok

end Combining

section Items
variable {read : Datum → Except (List Issue) Datum} {items : List Datum}

theorem readItems_iff {index : Nat} {values : List Datum} :
    readItems read index items = .ok values ↔
      List.Forall₂ (fun item value => read item = .ok value) items values := by
  induction items generalizing index values with
  | nil => simp [readItems, eq_comm]
  | cons item rest ih =>
      rw [readItems, List.forall₂_cons_left_iff]
      constructor
      · intro good
        split at good
        · next value others together =>
            cases good
            obtain ⟨first, tail⟩ := both_ok.mp together
            exact ⟨value, others, within_ok.mp first, ih.mp tail, rfl⟩
        · simp at good
      · rintro ⟨value, others, first, tail, rfl⟩
        have together : both (within (.index index) (read item)) (readItems read (index + 1) rest) =
            .ok (value, others) := both_ok.mpr ⟨within_ok.mpr first, ih.mpr tail⟩
        rw [together]

theorem list_read_iff {item : Kind} {result : Datum} :
    (Kind.list item).read (.list items) = .ok result ↔
      ∃ values, result = .list values ∧
        List.Forall₂ (fun given value => item.read given = .ok value) items values := by
  rw [Kind.read, Fallible.map_ok]
  constructor
  · rintro ⟨values, good, rfl⟩
    exact ⟨values, rfl, readItems_iff.mp good⟩
  · rintro ⟨values, rfl, good⟩
    exact ⟨values, readItems_iff.mpr good, rfl⟩

end Items

theorem ofItems_eq_map (items : List Json) : Datum.ofItems items = items.map Datum.ofJson := by
  induction items with
  | nil => rfl
  | cons item rest ih => rw [Datum.ofItems, ih, List.map_cons]

end TenantApi.Schema
