/-!
Entries under text keys, as lists in the order of their keys with each key once.
-/

namespace PackageRegistry.Keyed

variable {α : Type}

/-- Puts an entry in its place, instead of an earlier one under the same key. -/
def insert (key : String) (value : α) : List (String × α) → List (String × α)
  | [] => [(key, value)]
  | (k, v) :: rest =>
    if key < k then (key, value) :: (k, v) :: rest
    else if key = k then (key, value) :: rest
    else (k, v) :: insert key value rest

/-- The entries in key order, where the last one under a repeated key counts. -/
def sort (entries : List (String × α)) : List (String × α) :=
  entries.foldl (fun acc e => insert e.1 e.2 acc) []

/-- The value of the first entry under a key. -/
def find? (key : String) : List (String × α) → Option α
  | [] => none
  | (k, v) :: rest => if k = key then some v else find? key rest

/-- An entry is found under its own key, and every other key finds what it found before. -/
theorem find?_insert (key k : String) (value : α) (entries : List (String × α)) :
    find? k (insert key value entries) = if k = key then some value else find? k entries := by
  induction entries with
  | nil => simp [insert, find?, eq_comm]
  | cons e rest ih =>
    obtain ⟨k', v⟩ := e
    unfold insert
    split
    · simp [find?, eq_comm]
    · split
      · rename_i h
        subst h
        by_cases hk : k = key
        · simp [find?, hk]
        · simp [find?, hk, Ne.symm hk]
      · rename_i h
        by_cases hk : k' = k
        · subst hk
          simp [find?, Ne.symm h]
        · simp [find?, hk, ih]

end PackageRegistry.Keyed
