import BearerProxy.Keyed

/-!
The order of keyed values. Whatever list they are made from, they are in increasing order of their names, and a
list that is in that order already stays as it is.
-/

namespace BearerProxy.Keyed

def Sorted (entries : List (String × α)) : Prop :=
  entries.Pairwise fun one other => one.1 < other.1

theorem Sorted.filter {entries : List (String × α)} (sorted : Sorted entries)
    (keeps : String × α → Bool) : Sorted (entries.filter keeps) :=
  List.Pairwise.filter keeps sorted

theorem isSome_lookup?_iff (key : String) (entries : List (String × α)) :
    (lookup? key entries).isSome ↔ ∃ entry ∈ entries, entry.1 = key := by
  induction entries with
  | nil => simp [lookup?]
  | cons entry rest induction =>
      by_cases same : entry.1 = key
      · simp [lookup?, same]
      · simp [lookup?, same, induction]

/-! Insertion. -/

theorem eq_or_mem_of_mem_insert {key : String} {value : α} {entries : List (String × α)}
    {entry : String × α} (isEntry : entry ∈ insert key value entries) :
    entry = (key, value) ∨ entry ∈ entries := by
  induction entries with
  | nil => simpa [insert] using isEntry
  | cons first rest induction =>
      rw [insert] at isEntry
      split at isEntry
      · rcases List.mem_cons.mp isEntry with isNew | later
        · exact .inl isNew
        · exact .inr (List.mem_cons_of_mem _ later)
      · split at isEntry
        · exact List.mem_cons.mp isEntry
        · rcases List.mem_cons.mp isEntry with isFirst | later
          · exact .inr (List.mem_cons.mpr (.inl isFirst))
          · exact (induction later).imp_right (List.mem_cons_of_mem _)

theorem lt_of_not_lt {key other : String} (different : key ≠ other) (notBelow : ¬key < other) :
    other < key := by
  apply Classical.byContradiction
  intro notAbove
  exact different (String.le_antisymm (String.not_lt.mp notAbove) (String.not_lt.mp notBelow))

theorem Sorted.insert {entries : List (String × α)} (sorted : Sorted entries) (key : String)
    (value : α) : Sorted (insert key value entries) := by
  induction entries with
  | nil => exact List.pairwise_singleton _ _
  | cons first rest induction =>
      rcases List.pairwise_cons.mp sorted with ⟨below, others⟩
      rw [Keyed.insert]
      split
      · rename_i same
        apply List.pairwise_cons.mpr
        refine ⟨fun entry later => ?_, others⟩
        change key < entry.1
        rw [same]
        exact below entry later
      · rename_i different
        split
        · rename_i less
          apply List.pairwise_cons.mpr
          refine ⟨fun entry isEntry => ?_, sorted⟩
          rcases List.mem_cons.mp isEntry with isFirst | later
          · rw [isFirst]
            exact less
          · exact String.lt_trans less (below entry later)
        · rename_i notLess
          apply List.pairwise_cons.mpr
          refine ⟨fun entry isEntry => ?_, induction others⟩
          rcases eq_or_mem_of_mem_insert isEntry with isNew | later
          · rw [isNew]
            exact lt_of_not_lt different notLess
          · exact below entry later

theorem insert_of_forall_lt {key : String} {entries : List (String × α)}
    (above : ∀ entry ∈ entries, entry.1 < key) (value : α) :
    insert key value entries = entries ++ [(key, value)] := by
  induction entries with
  | nil => rfl
  | cons first rest induction =>
      have less := above first List.mem_cons_self
      have different : key ≠ first.1 := fun same => String.lt_irrefl key (by rwa [← same] at less)
      rw [insert, if_neg different, if_neg (String.lt_asymm less),
        induction fun entry later => above entry (List.mem_cons_of_mem _ later)]
      rfl

/-! Lists in any order. -/

theorem sorted_foldl_insert (entries : List (String × α)) {sorted : List (String × α)}
    (start : Sorted sorted) :
    Sorted (entries.foldl (fun sorted entry => insert entry.1 entry.2 sorted) sorted) := by
  induction entries generalizing sorted with
  | nil => exact start
  | cons entry rest induction => exact induction (start.insert entry.1 entry.2)

theorem sorted_ofList (entries : List (String × α)) : Sorted (ofList entries) :=
  sorted_foldl_insert entries List.Pairwise.nil

theorem mem_foldl_insert {entries sorted : List (String × α)} {entry : String × α}
    (isEntry : entry ∈ entries.foldl (fun sorted entry => insert entry.1 entry.2 sorted) sorted) :
    entry ∈ sorted ∨ entry ∈ entries := by
  induction entries generalizing sorted with
  | nil => exact .inl isEntry
  | cons first rest induction =>
      rcases induction isEntry with early | late
      · rcases eq_or_mem_of_mem_insert early with isFirst | earlier
        · exact .inr (List.mem_cons.mpr (.inl isFirst))
        · exact .inl earlier
      · exact .inr (List.mem_cons_of_mem _ late)

theorem mem_of_mem_ofList {entries : List (String × α)} {entry : String × α}
    (isEntry : entry ∈ ofList entries) : entry ∈ entries :=
  (mem_foldl_insert isEntry).resolve_left List.not_mem_nil

/-! Lists with each name once, in any order. -/

theorem lookup?_eq_none_iff (key : String) (entries : List (String × α)) :
    lookup? key entries = none ↔ ∀ entry ∈ entries, entry.1 ≠ key := by
  rw [← Option.not_isSome_iff_eq_none, isSome_lookup?_iff]
  simp only [not_exists, not_and, ne_eq]

theorem mem_of_lookup? {key : String} {value : α} {entries : List (String × α)}
    (found : lookup? key entries = some value) : (key, value) ∈ entries := by
  induction entries with
  | nil => cases found
  | cons entry rest induction =>
      rw [lookup?] at found
      split at found
      · rename_i same
        rw [← same, ← Option.some.inj found]
        exact List.mem_cons_self
      · exact List.mem_cons_of_mem _ (induction found)

theorem lookup?_of_mem {entries : List (String × α)} (distinct : (entries.map Prod.fst).Nodup)
    {entry : String × α} (isEntry : entry ∈ entries) : lookup? entry.1 entries = some entry.2 := by
  induction entries with
  | nil => cases isEntry
  | cons first rest induction =>
      rcases List.nodup_cons.mp distinct with ⟨once, others⟩
      rcases List.mem_cons.mp isEntry with isFirst | later
      · rw [isFirst, lookup?, if_pos rfl]
      · have different : first.1 ≠ entry.1 := fun same =>
          once (same ▸ List.mem_map_of_mem later)
        rw [lookup?, if_neg different, induction others later]

theorem lookup?_foldl_insert {entries : List (String × α)} (distinct : (entries.map Prod.fst).Nodup)
    (key : String) (sorted : List (String × α)) :
    lookup? key (entries.foldl (fun sorted entry => insert entry.1 entry.2 sorted) sorted) =
      (lookup? key entries).or (lookup? key sorted) := by
  induction entries generalizing sorted with
  | nil => rfl
  | cons first rest induction =>
      rcases List.nodup_cons.mp distinct with ⟨once, others⟩
      rw [List.foldl_cons, induction others, lookup?_insert, lookup?]
      by_cases same : first.1 = key
      · have absent : lookup? key rest = none := (lookup?_eq_none_iff key rest).mpr
          fun entry isEntry equal => once (by rw [same, ← equal]; exact List.mem_map_of_mem isEntry)
        simp [same, absent]
      · simp [same, Ne.symm same]

theorem lookup?_ofList {entries : List (String × α)} (distinct : (entries.map Prod.fst).Nodup)
    (key : String) : lookup? key (ofList entries) = lookup? key entries := by
  rw [ofList, lookup?_foldl_insert distinct]
  exact Option.or_none

theorem mem_ofList_iff {entries : List (String × α)} (distinct : (entries.map Prod.fst).Nodup)
    (entry : String × α) : entry ∈ ofList entries ↔ entry ∈ entries := by
  constructor
  · exact mem_of_mem_ofList
  · intro isEntry
    apply mem_of_lookup?
    rw [lookup?_ofList distinct, lookup?_of_mem distinct isEntry]

/-! Lists in order. -/

theorem foldl_insert_of_sorted (entries sorted : List (String × α))
    (all : Sorted (sorted ++ entries)) :
    entries.foldl (fun sorted entry => insert entry.1 entry.2 sorted) sorted = sorted ++ entries := by
  induction entries generalizing sorted with
  | nil => exact (List.append_nil sorted).symm
  | cons first rest induction =>
      have above := (List.pairwise_append.mp all).2.2
      have inserted := insert_of_forall_lt
        (fun entry early => above entry early first List.mem_cons_self) first.2
      rw [← List.singleton_append, ← List.append_assoc] at all
      rw [List.foldl_cons, inserted, induction _ all, List.append_assoc, List.singleton_append]

theorem Sorted.ofList_eq {entries : List (String × α)} (sorted : Sorted entries) :
    ofList entries = entries :=
  foldl_insert_of_sorted entries [] sorted

end BearerProxy.Keyed
