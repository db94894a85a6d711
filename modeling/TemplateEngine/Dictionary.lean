/-!
# Dictionaries that keep the order of insertion

A dictionary is a list of entries. Putting a value under a key that is already there replaces the
value where it stands; a new key goes to the end.

## Main definitions

* `Dictionary`: entries in order of insertion.
* `Dictionary.value?`, `Dictionary.put`, `Dictionary.without`, `Dictionary.overlay`.

## Main results

* `Dictionary.value?_put`: what is found after a value has been put.
* `Dictionary.value?_without`: what is found after a key has been removed.
* `Dictionary.value?_overlay`: the later dictionary wins, key by key, provided its keys are
  distinct.
-/

namespace TemplateEngine

/-- Entries in order of insertion. -/
abbrev Dictionary (α : Type) := List (String × α)

namespace Dictionary

variable {α β : Type}

/-- The value of the first entry with the given key. -/
def value? : Dictionary α → String → Option α
  | [], _ => none
  | (k, v) :: rest, key => if k = key then some v else value? rest key

/-- Replaces the value of a key where it stands, or adds the key at the end. -/
def put : Dictionary α → String → α → Dictionary α
  | [], key, v => [(key, v)]
  | (k, w) :: rest, key, v => if k = key then (key, v) :: rest else (k, w) :: put rest key v

/-- Drops every entry of a key. -/
def without : Dictionary α → String → Dictionary α
  | [], _ => []
  | (k, v) :: rest, key => if k = key then without rest key else (k, v) :: without rest key

/-- Puts the entries of the second dictionary, in their order, into the first. -/
def overlay (d : Dictionary α) : Dictionary α → Dictionary α
  | [] => d
  | (k, v) :: rest => overlay (d.put k v) rest

/-- Whether a key has an entry. -/
def holds (d : Dictionary α) (key : String) : Bool := (d.value? key).isSome

/-- The keys in order of insertion. -/
def keys (d : Dictionary α) : List String := d.map Prod.fst

/-- The dictionary with a function applied to every value. -/
def mapValues (f : α → β) : Dictionary α → Dictionary β
  | [] => []
  | (k, v) :: rest => (k, f v) :: mapValues f rest

@[simp] theorem value?_nil (key : String) : value? ([] : Dictionary α) key = none := rfl

/-- A value that was put is found under its key, and no other key is touched. -/
theorem value?_put (d : Dictionary α) (k : String) (v : α) (key : String) :
    (d.put k v).value? key = if k = key then some v else d.value? key := by
  induction d with
  | nil => simp [put, value?]
  | cons entry rest ih =>
    obtain ⟨k', w⟩ := entry
    by_cases h : k' = k
    · subst h; by_cases h' : k' = key <;> simp [put, value?, h']
    · by_cases h' : k' = key
      · subst h'; simp [put, value?, h, Ne.symm h]
      · simp [put, value?, h, h', ih]

/-- A key that was put is found with the value that was put. -/
@[simp] theorem value?_put_self (d : Dictionary α) (k : String) (v : α) :
    (d.put k v).value? k = some v := by
  simp [value?_put]

/-- After a key is removed it is not found, and no other key is touched. -/
theorem value?_without (d : Dictionary α) (k key : String) :
    (d.without k).value? key = if k = key then none else d.value? key := by
  induction d with
  | nil => simp [without]
  | cons entry rest ih =>
    obtain ⟨k', w⟩ := entry
    by_cases h : k' = k
    · subst h
      rw [without, if_pos rfl, ih, value?]
      split <;> rfl
    · by_cases h' : k' = key
      · subst h'; simp [without, value?, h, Ne.symm h]
      · simp [without, value?, h, h', ih]

/-- A value that is found is that of an entry. -/
theorem mem_of_value? {d : Dictionary α} {key : String} {v : α} (h : d.value? key = some v) :
    (key, v) ∈ d := by
  induction d with
  | nil => cases h
  | cons entry rest ih =>
    obtain ⟨k, w⟩ := entry
    by_cases hk : k = key
    · subst hk
      simp only [value?, if_true, Option.some.injEq] at h
      exact h ▸ List.mem_cons_self
    · rw [value?, if_neg hk] at h
      exact List.mem_cons_of_mem _ (ih h)

theorem value?_eq_none_iff (d : Dictionary α) (key : String) :
    d.value? key = none ↔ key ∉ d.keys := by
  induction d with
  | nil => simp [keys]
  | cons entry rest ih =>
    obtain ⟨k, v⟩ := entry
    by_cases h : k = key
    · simp [value?, keys, h]
    · have h' : ¬ key = k := fun e => h e.symm
      simpa [value?, keys, h, h'] using ih

/-- In an overlay with distinct keys the later dictionary wins, key by key. -/
theorem value?_overlay (d e : Dictionary α) (h : e.keys.Nodup) (key : String) :
    (d.overlay e).value? key = (e.value? key).or (d.value? key) := by
  induction e generalizing d with
  | nil => simp [overlay]
  | cons entry rest ih =>
    obtain ⟨k, v⟩ := entry
    have hk : k ∉ keys rest ∧ (keys rest).Nodup := by simpa [keys] using h
    rw [overlay, ih (d.put k v) hk.2, value?_put]
    by_cases hkey : k = key
    · subst hkey
      simp [value?, (value?_eq_none_iff rest k).2 hk.1]
    · simp [value?, hkey]

/-- Putting a value adds no second entry of its key. -/
theorem nodup_keys_put {d : Dictionary α} (h : d.keys.Nodup) (k : String) (v : α) :
    (d.put k v).keys.Nodup := by
  induction d with
  | nil => simp [put, keys]
  | cons entry rest ih =>
    obtain ⟨k', w⟩ := entry
    have hk' : k' ∉ keys rest ∧ (keys rest).Nodup := by simpa [keys] using h
    by_cases hk : k' = k
    · subst hk
      simpa [put, keys] using h
    · have hput : k' ∉ keys (put rest k v) := by
        rw [← value?_eq_none_iff, value?_put, if_neg (Ne.symm hk), value?_eq_none_iff]
        exact hk'.1
      simpa [put, hk, keys] using And.intro hput (ih hk'.2)

/-- An overlay has distinct keys if the earlier dictionary has. -/
theorem nodup_keys_overlay {d : Dictionary α} (h : d.keys.Nodup) (e : Dictionary α) :
    (d.overlay e).keys.Nodup := by
  induction e generalizing d with
  | nil => exact h
  | cons entry rest ih => exact ih (nodup_keys_put h entry.1 entry.2)

end Dictionary

end TemplateEngine
