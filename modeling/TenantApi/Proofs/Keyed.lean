import Mathlib

/-!
Lists of values with keys. The first value under a key is the one that counts, so what is found
depends only on the entries of that key. Putting values in one after another keeps one entry for
each key, with the last of its values.
-/

namespace TenantApi.Keyed

variable {α β γ : Type} [DecidableEq α] {key name : α} {value : β} {list added : List (α × β)}

section Finding

theorem lookup_cons (name : α) (value : β) (rest : List (α × β)) :
    ((name, value) :: rest).lookup key = if key = name then some value else rest.lookup key := by
  by_cases same : key = name
  · simp [same]
  · simp [List.lookup_cons, same, beq_eq_false_iff_ne.mpr same]

theorem lookup_map (change : β → γ) (list : List (α × β)) :
    (list.map fun entry => (entry.1, change entry.2)).lookup key =
      (list.lookup key).map change := by
  induction list with
  | nil => rfl
  | cons entry rest ih =>
      obtain ⟨name, value⟩ := entry
      rw [List.map_cons, lookup_cons, lookup_cons, ih, apply_ite (Option.map change)]
      rfl

theorem lookup_isSome : (list.lookup key).isSome = true ↔ key ∈ list.map Prod.fst := by
  induction list with
  | nil => simp
  | cons entry rest ih =>
      obtain ⟨name, value⟩ := entry
      by_cases same : key = name <;> simp [lookup_cons, same, ← ih]

theorem lookup_mem (found : list.lookup key = some value) : (key, value) ∈ list := by
  obtain ⟨before, after, rfl, _⟩ := List.lookup_eq_some_iff.mp found
  simp

theorem mem_lookup (distinct : (list.map Prod.fst).Nodup) (member : (key, value) ∈ list) :
    list.lookup key = some value := by
  induction list with
  | nil => contradiction
  | cons entry rest ih =>
      obtain ⟨name, content⟩ := entry
      rw [List.map_cons, List.nodup_cons] at distinct
      rcases List.mem_cons.mp member with here | later
      · cases here
        simp
      · have apart : key ≠ name := by
          rintro rfl
          exact distinct.1 (List.mem_map.mpr ⟨_, later, rfl⟩)
        rw [lookup_cons, if_neg apart, ih distinct.2 later]

theorem lookup_filter (keep : α → Bool) (list : List (α × β)) :
    (list.filter fun entry => keep entry.1).lookup key =
      if keep key then list.lookup key else none := by
  induction list with
  | nil => simp
  | cons entry rest ih =>
      obtain ⟨name, value⟩ := entry
      by_cases same : key = name
      · subst same
        by_cases kept : keep key = true <;> simp [kept, ih]
      · by_cases kept : keep name = true <;> simp [lookup_cons, same, kept, ih]

theorem lookup_reverse (distinct : (list.map Prod.fst).Nodup) :
    list.reverse.lookup key = list.lookup key := by
  have turned : (list.reverse.map Prod.fst).Nodup := by
    rwa [List.map_reverse, List.nodup_reverse]
  ext value
  constructor
  · exact fun found => mem_lookup distinct (List.mem_reverse.mp (lookup_mem found))
  · exact fun found => mem_lookup turned (List.mem_reverse.mpr (lookup_mem found))

end Finding

section Putting

def put (key : α) (value : β) : List (α × β) → List (α × β)
  | [] => [(key, value)]
  | entry :: rest => if entry.1 = key then (key, value) :: rest else entry :: put key value rest

def putAll (list added : List (α × β)) : List (α × β) :=
  added.foldl (fun list entry => put entry.1 entry.2 list) list

theorem lookup_put (name : α) (value : β) (list : List (α × β)) :
    (put name value list).lookup key = if key = name then some value else list.lookup key := by
  induction list with
  | nil => simp [put, lookup_cons]
  | cons entry rest ih =>
      obtain ⟨found, content⟩ := entry
      by_cases here : found = name
      · subst here
        by_cases same : key = found <;> simp [put, lookup_cons, same]
      · simp only [put, here, ↓reduceIte, lookup_cons, ih]
        by_cases named : key = found
        · simp [named, here]
        · simp [named]

theorem put_fresh (fresh : name ∉ list.map Prod.fst) :
    put name value list = list ++ [(name, value)] := by
  induction list with
  | nil => rfl
  | cons entry rest ih =>
      rw [List.map_cons, List.mem_cons, not_or] at fresh
      rw [put, if_neg (Ne.symm fresh.1), ih fresh.2, List.cons_append]

theorem keys_put (name : α) (value : β) (list : List (α × β)) :
    (put name value list).map Prod.fst =
      if name ∈ list.map Prod.fst then list.map Prod.fst else list.map Prod.fst ++ [name] := by
  induction list with
  | nil => simp [put]
  | cons entry rest ih =>
      obtain ⟨found, content⟩ := entry
      by_cases here : found = name
      · simp [put, here]
      · simp only [put, here, ↓reduceIte, List.map_cons, ih, List.mem_cons, Ne.symm here, false_or]
        split <;> simp

theorem nodup_put (distinct : (list.map Prod.fst).Nodup) :
    ((put name value list).map Prod.fst).Nodup := by
  rw [keys_put]
  split
  case isTrue => exact distinct
  case isFalse fresh =>
    refine List.nodup_append.mpr ⟨distinct, List.nodup_singleton name, ?_⟩
    rintro found member other among rfl
    exact fresh (List.mem_singleton.mp among ▸ member)

theorem mem_put {entry : α × β} (member : entry ∈ put name value list) :
    entry = (name, value) ∨ entry ∈ list := by
  induction list with
  | nil => exact .inl (List.mem_singleton.mp member)
  | cons first rest ih =>
      rw [put] at member
      split at member
      · rcases List.mem_cons.mp member with new | old
        · exact .inl new
        · exact .inr (List.mem_cons_of_mem first old)
      · rcases List.mem_cons.mp member with same | later
        · exact .inr (same ▸ List.mem_cons_self)
        · exact (ih later).imp_right (List.mem_cons_of_mem first)

theorem lookup_putAll (list added : List (α × β)) :
    (putAll list added).lookup key = (added.reverse.lookup key).or (list.lookup key) := by
  induction added generalizing list with
  | nil => rfl
  | cons entry rest ih =>
      obtain ⟨name, value⟩ := entry
      have step : putAll list ((name, value) :: rest) = putAll (put name value list) rest := rfl
      rw [step, ih, lookup_put, List.reverse_cons, List.lookup_append, lookup_cons, Option.or_assoc]
      by_cases same : key = name <;> simp [same]

theorem nodup_putAll (distinct : (list.map Prod.fst).Nodup) :
    ((putAll list added).map Prod.fst).Nodup := by
  induction added generalizing list with
  | nil => exact distinct
  | cons entry rest ih => exact ih (nodup_put distinct)

theorem mem_putAll {entry : α × β} (member : entry ∈ putAll list added) :
    entry ∈ list ∨ entry ∈ added := by
  induction added generalizing list with
  | nil => exact .inl member
  | cons first rest ih =>
      rcases ih member with before | later
      · rcases mem_put before with new | old
        · exact .inr (new ▸ List.mem_cons_self)
        · exact .inl old
      · exact .inr (List.mem_cons_of_mem first later)

theorem putAll_fresh (distinct : ((list ++ added).map Prod.fst).Nodup) :
    putAll list added = list ++ added := by
  induction added generalizing list with
  | nil => simp [putAll]
  | cons entry rest ih =>
      have step : putAll list (entry :: rest) = putAll (put entry.1 entry.2 list) rest := rfl
      have fresh : entry.1 ∉ list.map Prod.fst := by
        rw [List.map_append, List.nodup_append] at distinct
        exact fun member => distinct.2.2 _ member _ List.mem_cons_self rfl
      have whole : list ++ [entry] ++ rest = list ++ entry :: rest := by simp
      rw [step, put_fresh fresh, ih (by rw [whole]; exact distinct), whole]

end Putting

end TenantApi.Keyed
