/-!
Values by name, as lists of pairs in increasing order of the names, each name once. A look-up after an
insertion or a removal differs from the one before at that name only.
-/

namespace BearerProxy.Keyed

def lookup? (key : String) : List (String × α) → Option α
  | [] => none
  | (other, value) :: rest => if other = key then some value else lookup? key rest

def insert (key : String) (value : α) : List (String × α) → List (String × α)
  | [] => [(key, value)]
  | (other, kept) :: rest =>
      if key = other then (key, value) :: rest
      else if key < other then (key, value) :: (other, kept) :: rest
      else (other, kept) :: insert key value rest

def erase (key : String) (entries : List (String × α)) : List (String × α) :=
  entries.filter fun entry => entry.1 ≠ key

/-- The values of a list in any order; of those under one name the last counts. -/
def ofList (entries : List (String × α)) : List (String × α) :=
  entries.foldl (fun sorted entry => insert entry.1 entry.2 sorted) []

theorem lookup?_insert_self (key : String) (value : α) (entries : List (String × α)) :
    lookup? key (insert key value entries) = some value := by
  induction entries with
  | nil => simp [insert, lookup?]
  | cons entry rest ih =>
      obtain ⟨other, kept⟩ := entry
      by_cases equal : key = other
      · simp [insert, lookup?, equal]
      · by_cases less : key < other
        · simp [insert, lookup?, equal, less]
        · simp [insert, lookup?, equal, less, Ne.symm equal, ih]

theorem lookup?_insert_of_ne {key other : String} (different : other ≠ key) (value : α)
    (entries : List (String × α)) :
    lookup? other (insert key value entries) = lookup? other entries := by
  induction entries with
  | nil => simp [insert, lookup?, Ne.symm different]
  | cons entry rest ih =>
      obtain ⟨name, kept⟩ := entry
      by_cases equal : key = name
      · subst equal
        simp [insert, lookup?, Ne.symm different]
      · by_cases less : key < name
        · simp [insert, lookup?, equal, less, Ne.symm different]
        · simp [insert, lookup?, equal, less, ih]

theorem lookup?_insert (key other : String) (value : α) (entries : List (String × α)) :
    lookup? other (insert key value entries) =
      if other = key then some value else lookup? other entries := by
  by_cases equal : other = key
  · simp [equal, lookup?_insert_self]
  · simp [equal, lookup?_insert_of_ne equal]

end BearerProxy.Keyed
