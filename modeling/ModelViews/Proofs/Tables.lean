import ModelViews.Keyed

namespace ModelViews.Keyed

variable {κ α : Type} {key : κ} {value : α} {table pairs : List (κ × α)}

section Keys

variable [DecidableEq κ]

private theorem keys_put (key : κ) (value : α) (table : List (κ × α)) :
    (put key value table).map Prod.fst =
      if key ∈ table.map Prod.fst then table.map Prod.fst else table.map Prod.fst ++ [key] := by
  induction table with
  | nil => rfl
  | cons pair rest ih =>
      obtain ⟨first, old⟩ := pair
      rw [put]
      by_cases here : first = key
      · simp [here]
      · have apart : key ≠ first := fun same => here same.symm
        rw [if_neg here, List.map_cons, List.map_cons, ih]
        by_cases present : key ∈ rest.map Prod.fst
        · rw [if_pos present, if_pos (List.mem_cons_of_mem _ present)]
        · rw [if_neg present, if_neg fun member => (List.mem_cons.mp member).elim apart present]
          rfl

theorem mem_keys_put {other : κ} :
    other ∈ (put key value table).map Prod.fst ↔ other ∈ table.map Prod.fst ∨ other = key := by
  rw [keys_put]
  by_cases present : key ∈ table.map Prod.fst
  · rw [if_pos present]
    exact ⟨.inl, fun either => either.elim id (· ▸ present)⟩
  · rw [if_neg present, List.mem_append, List.mem_singleton]

theorem keys_put_nodup (distinct : (table.map Prod.fst).Nodup) :
    ((put key value table).map Prod.fst).Nodup := by
  rw [keys_put]
  by_cases present : key ∈ table.map Prod.fst
  · rwa [if_pos present]
  · rw [if_neg present, List.nodup_append]
    refine ⟨distinct, by simp, ?_⟩
    intro first member last single same
    rw [same, List.mem_singleton.mp single] at member
    exact present member

theorem keys_putAll_nodup (distinct : (table.map Prod.fst).Nodup) (pairs : List (κ × α)) :
    ((putAll table pairs).map Prod.fst).Nodup := by
  induction pairs generalizing table with
  | nil => exact distinct
  | cons pair rest ih => exact ih (keys_put_nodup distinct)

private theorem put_new (absent : key ∉ table.map Prod.fst) :
    put key value table = table ++ [(key, value)] := by
  induction table with
  | nil => rfl
  | cons pair rest ih =>
      obtain ⟨first, old⟩ := pair
      simp only [List.map_cons, List.mem_cons, not_or] at absent
      rw [put, if_neg fun same => absent.1 same.symm, ih absent.2]
      rfl

private theorem putAll_distinct (distinct : ((table ++ pairs).map Prod.fst).Nodup) :
    putAll table pairs = table ++ pairs := by
  induction pairs generalizing table with
  | nil => simp [putAll]
  | cons pair rest ih =>
      have absent : pair.1 ∉ table.map Prod.fst := by
        rw [List.map_append, List.nodup_append] at distinct
        exact fun member => distinct.2.2 pair.1 member pair.1 (by simp) rfl
      rw [List.append_cons] at distinct
      change putAll (put pair.1 pair.2 table) rest = _
      rw [put_new absent, ih distinct, List.append_assoc]
      rfl

theorem ofPairs_distinct (distinct : (pairs.map Prod.fst).Nodup) : ofPairs pairs = pairs :=
  putAll_distinct distinct

private theorem of_mem_put {pair : κ × α} (member : pair ∈ put key value table) :
    pair = (key, value) ∨ pair ∈ table := by
  induction table with
  | nil => exact .inl (List.mem_singleton.mp member)
  | cons first rest ih =>
      rw [put] at member
      split at member
      · rename_i here
        rcases List.mem_cons.mp member with rfl | later
        · exact .inl rfl
        · exact .inr (List.mem_cons_of_mem first later)
      · rcases List.mem_cons.mp member with rfl | later
        · exact .inr List.mem_cons_self
        · exact (ih later).imp_right (List.mem_cons_of_mem first)

theorem of_mem_putAll {pair : κ × α} (member : pair ∈ putAll table pairs) :
    pair ∈ pairs ∨ pair ∈ table := by
  induction pairs generalizing table with
  | nil => exact .inr member
  | cons first rest ih =>
      have split : pair ∈ rest ∨ pair ∈ put first.1 first.2 table := ih member
      rcases split with later | before
      · exact .inl (List.mem_cons_of_mem first later)
      · rcases of_mem_put before with rfl | old
        · exact .inl List.mem_cons_self
        · exact .inr old

theorem mem_keys_putAll (table pairs : List (κ × α)) :
    key ∈ (putAll table pairs).map Prod.fst ↔ key ∈ table.map Prod.fst ∨ key ∈ pairs.map Prod.fst := by
  induction pairs generalizing table with
  | nil => simp [putAll]
  | cons first rest ih =>
      change key ∈ (putAll (put first.1 first.2 table) rest).map Prod.fst ↔ _
      rw [ih, mem_keys_put, List.map_cons, List.mem_cons, or_assoc]

end Keys

section Lookup

variable [BEq κ] [LawfulBEq κ]

theorem lookup_cons_ite [DecidableEq κ] (first : κ) (old : α) :
    ((first, old) :: table).lookup key = if key = first then some old else table.lookup key := by
  rw [List.lookup_cons]
  by_cases here : key = first
  · rw [if_pos here, beq_iff_eq.mpr here]
  · rw [if_neg here, beq_eq_false_iff_ne.mpr here]

theorem lookup_around [DecidableEq κ] (other : κ) (before after : List (κ × α)) :
    (before ++ (key, value) :: after).lookup other =
      (before.lookup other).or (if other = key then some value else after.lookup other) := by
  rw [List.lookup_append, lookup_cons_ite]

theorem lookup_beside {other : κ} (apart : other ≠ key) (before after : List (κ × α)) :
    (before ++ (key, value) :: after).lookup other = (before ++ after).lookup other := by
  classical
  rw [lookup_around, if_neg apart, List.lookup_append]

theorem lookup_put [DecidableEq κ] (other : κ) :
    (put key value table).lookup other =
      if other = key then some value else table.lookup other := by
  induction table with
  | nil => exact lookup_cons_ite key value
  | cons pair rest ih =>
      obtain ⟨first, old⟩ := pair
      rw [put]
      by_cases here : first = key
      · subst here
        rw [if_pos rfl, lookup_cons_ite, lookup_cons_ite]
        by_cases same : other = first
        · rw [if_pos same, if_pos same]
        · rw [if_neg same, if_neg same, if_neg same]
      · rw [if_neg here, lookup_cons_ite, lookup_cons_ite, ih]
        by_cases same : other = first
        · rw [if_pos same, if_pos same, if_neg (same ▸ here)]
        · rw [if_neg same, if_neg same]

theorem lookup_eq_some (distinct : (table.map Prod.fst).Nodup) :
    table.lookup key = some value ↔ (key, value) ∈ table := by
  classical
  induction table with
  | nil => simp
  | cons pair rest ih =>
      obtain ⟨first, old⟩ := pair
      obtain ⟨absent, others⟩ := List.nodup_cons.mp distinct
      rw [lookup_cons_ite, List.mem_cons, Prod.mk.injEq, ← ih others]
      by_cases here : key = first
      · subst here
        have missing : rest.lookup key ≠ some value := fun found =>
          absent (List.mem_map.mpr ⟨_, (ih others).mp found, rfl⟩)
        simp [missing, eq_comm]
      · simp [here]

theorem mem_put [DecidableEq κ] (distinct : (table.map Prod.fst).Nodup) {other : κ} {found : α} :
    (other, found) ∈ put key value table ↔
      if other = key then found = value else (other, found) ∈ table := by
  rw [← lookup_eq_some (keys_put_nodup distinct), lookup_put, ← lookup_eq_some distinct]
  by_cases same : other = key
  · rw [if_pos same, if_pos same, Option.some.injEq, eq_comm]
  · rw [if_neg same, if_neg same]

theorem lookup_filter (keep : κ → Bool) :
    (table.filter fun pair => keep pair.1).lookup key =
      if keep key then table.lookup key else none := by
  classical
  induction table with
  | nil => simp
  | cons pair rest ih =>
      obtain ⟨first, old⟩ := pair
      rw [List.filter_cons, lookup_cons_ite]
      by_cases here : key = first
      · subst here
        by_cases kept : keep key
        · simp only [kept, ↓reduceIte, lookup_cons_ite]
        · simp only [kept, Bool.false_eq_true, ↓reduceIte, ih]
      · by_cases kept : keep first
        · simp only [kept, ↓reduceIte, lookup_cons_ite, here, ih]
        · simp only [kept, Bool.false_eq_true, ↓reduceIte, here, ih]

private theorem lookup_putAll_other [DecidableEq κ] (apart : ∀ pair ∈ pairs, pair.1 ≠ key) :
    (putAll table pairs).lookup key = table.lookup key := by
  induction pairs generalizing table with
  | nil => rfl
  | cons pair rest ih =>
      obtain ⟨first, others⟩ := List.forall_mem_cons.mp apart
      change (putAll (put pair.1 pair.2 table) rest).lookup key = _
      rw [ih others, lookup_put, if_neg first.symm]

/-- The value that is found under a key is the last one that was put there. -/
theorem lookup_ofPairs_last [DecidableEq κ] {before after : List (κ × α)}
    (last : ∀ pair ∈ after, pair.1 ≠ key) :
    (ofPairs (before ++ (key, value) :: after)).lookup key = some value := by
  have split : ofPairs (before ++ (key, value) :: after) =
      putAll (put key value (ofPairs before)) after := by
    rw [ofPairs, putAll, List.foldl_append]
    rfl
  rw [split, lookup_putAll_other last, lookup_put, if_pos rfl]

theorem lookup_map_values {β : Type} (give : α → β) :
    (table.map fun (name, value) => (name, give value)).lookup key =
      (table.lookup key).map give := by
  classical
  induction table with
  | nil => rfl
  | cons pair rest ih =>
      obtain ⟨first, old⟩ := pair
      rw [List.map_cons, lookup_cons_ite, lookup_cons_ite, ih]
      split <;> rfl

end Lookup

end ModelViews.Keyed
