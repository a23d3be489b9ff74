/-
# Dictionaries

A dictionary is a list of entries with pairwise distinct keys, in the order in which the entries are
visited. Looking a key up does not depend on that order, so two dictionaries hold the same when they
give the same answer to every look-up.

`get?_insert` and `get?_erase` say what a look-up answers after a write, and `insert_distinct`,
`erase_distinct` that writes keep the keys apart.
-/

namespace AzureProvisioning

/-- Entries by key, in the order in which they are visited. -/
abbrev Dictionary (κ α : Type) := List (κ × α)

namespace Dictionary

variable {κ α : Type} [DecidableEq κ]

/-- The value stored under a key. -/
def get? (d : Dictionary κ α) (k : κ) : Option α :=
  d.lookup k

/-- Whether the key has a value. -/
def contains (d : Dictionary κ α) (k : κ) : Bool :=
  (d.get? k).isSome

omit [DecidableEq κ] in
/-- The keys, in the order of the entries. -/
def keys (d : Dictionary κ α) : List κ :=
  d.map Prod.fst

omit [DecidableEq κ] in
/-- No key has two entries. -/
def Distinct (d : Dictionary κ α) : Prop :=
  d.keys.Nodup

/-- Stores a value: in the place of the value that the key had, else at the end. -/
def insert : Dictionary κ α → κ → α → Dictionary κ α
  | [], k, v => [(k, v)]
  | e :: d, k, v => if e.1 = k then (k, v) :: d else e :: insert d k v

/-- Removes a key and its value. -/
def erase (d : Dictionary κ α) (k : κ) : Dictionary κ α :=
  d.filter fun e => e.1 ≠ k

/-- The dictionary of a list of entries: the last value given to a key stays. -/
def ofEntries (entries : List (κ × α)) : Dictionary κ α :=
  entries.foldl (fun d e => insert d e.1 e.2) []

theorem get?_nil (k : κ) : get? ([] : Dictionary κ α) k = none := rfl

theorem get?_cons (e : κ × α) (d : Dictionary κ α) (k : κ) :
    get? (e :: d) k = if e.1 = k then some e.2 else get? d k := by
  unfold get?
  rw [List.lookup_cons]
  by_cases h : e.1 = k
  · simp [h]
  · have h' : (k == e.1) = false := by simpa using fun hk => h hk.symm
    simp [h, h']

theorem get?_insert (d : Dictionary κ α) (k j : κ) (v : α) :
    get? (insert d k v) j = if k = j then some v else get? d j := by
  induction d with
  | nil => simp [insert, get?_cons, get?_nil]
  | cons e d ih =>
    unfold insert
    by_cases h : e.1 = k
    · by_cases hj : k = j <;> simp [h, hj, get?_cons]
    · rw [if_neg h, get?_cons, get?_cons, ih]
      by_cases hj : k = j
      · have : e.1 ≠ j := fun he => h (he.trans hj.symm)
        simp [hj, this]
      · simp [hj]

theorem get?_erase (d : Dictionary κ α) (k j : κ) :
    get? (erase d k) j = if k = j then none else get? d j := by
  induction d with
  | nil => simp [erase, get?_nil]
  | cons e d ih =>
    have ih' : get? (List.filter (fun e => decide (e.1 ≠ k)) d) j =
        if k = j then none else get? d j := ih
    unfold erase
    by_cases h : e.1 = k
    · rw [List.filter_cons_of_neg (by simp [h]), ih', get?_cons]
      by_cases hj : k = j <;> simp [h, hj]
    · rw [List.filter_cons_of_pos (by simp [h]), get?_cons, get?_cons, ih']
      by_cases hj : k = j
      · have : e.1 ≠ j := fun he => h (he.trans hj.symm)
        simp [hj, this]
      · simp [hj]

theorem keys_insert (d : Dictionary κ α) (k : κ) (v : α) :
    (insert d k v).keys = if k ∈ d.keys then d.keys else d.keys ++ [k] := by
  induction d with
  | nil => simp [insert, keys]
  | cons e d ih =>
    unfold insert
    by_cases h : e.1 = k
    · simp [h, keys]
    · have h' : k ≠ e.1 := fun hk => h hk.symm
      have ih' : List.map Prod.fst (insert d k v) =
          if k ∈ List.map Prod.fst d then List.map Prod.fst d else List.map Prod.fst d ++ [k] := ih
      rw [if_neg h]
      simp only [keys, List.map_cons, ih', List.mem_cons, h', false_or]
      split <;> simp

theorem insert_distinct {d : Dictionary κ α} (h : d.Distinct) (k : κ) (v : α) :
    (insert d k v).Distinct := by
  unfold Distinct
  rw [keys_insert]
  split
  · exact h
  · next hk =>
    refine List.nodup_append.2 ⟨h, by simp, ?_⟩
    intro a ha b hb hab
    rw [List.mem_singleton.1 hb] at hab
    exact hk (hab ▸ ha)

theorem erase_distinct {d : Dictionary κ α} (h : d.Distinct) (k : κ) : (erase d k).Distinct :=
  List.Nodup.sublist (List.Sublist.map Prod.fst List.filter_sublist) h

end Dictionary
end AzureProvisioning
