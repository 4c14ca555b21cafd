/-!
# Entries in insertion order

A finite map that remembers in which order its keys came is a list of pairs with
different keys. Giving a key a second value replaces the first one in place.
-/

namespace FiveStage.Entries

variable {κ ν : Type} [DecidableEq κ]

/-- Gives a key a value. A new key goes to the end, an old one stays where it is. -/
def insert (key : κ) (value : ν) : List (κ × ν) → List (κ × ν)
  | [] => [(key, value)]
  | entry :: rest =>
    if entry.1 = key then (key, value) :: rest else entry :: insert key value rest

/-- The map that pairs make in order. -/
def ofPairs (pairs : List (κ × ν)) : List (κ × ν) :=
  pairs.foldl (fun entries pair => insert pair.1 pair.2 entries) []

def find? (entries : List (κ × ν)) (key : κ) : Option ν :=
  (entries.find? fun entry => decide (entry.1 = key)).map (·.2)

/-- Drops a key and keeps the order of the others. -/
def erase (entries : List (κ × ν)) (key : κ) : List (κ × ν) :=
  entries.filter fun entry => decide (entry.1 ≠ key)

/-- The keys after an insertion. -/
theorem keys_insert (key : κ) (value : ν) (entries : List (κ × ν)) :
    (insert key value entries).map (·.1) =
      if key ∈ entries.map (·.1) then entries.map (·.1) else entries.map (·.1) ++ [key] := by
  induction entries with
  | nil => rfl
  | cons entry rest ih =>
    by_cases h : entry.1 = key
    · simp [insert, h]
    · have hne : key ≠ entry.1 := fun heq => h heq.symm
      simp only [insert, h, ↓reduceIte, List.map_cons, ih, List.mem_cons, hne, false_or]
      split <;> simp

/-! ## Looking up -/

variable {key : κ} {value : ν} {entries : List (κ × ν)}

@[simp] theorem find?_nil (key : κ) : find? ([] : List (κ × ν)) key = none := rfl

theorem find?_cons (entry : κ × ν) (rest : List (κ × ν)) (key : κ) :
    find? (entry :: rest) key = if entry.1 = key then some entry.2 else find? rest key := by
  by_cases h : entry.1 = key <;> simp [find?, h]

theorem find?_append (front back : List (κ × ν)) (key : κ) :
    find? (front ++ back) key = (find? front key).or (find? back key) := by
  induction front with
  | nil => rfl
  | cons entry rest ih =>
    rw [List.cons_append, find?_cons, find?_cons, ih]
    split <;> rfl

theorem mem_of_find? (h : find? entries key = some value) : (key, value) ∈ entries := by
  simp only [find?, Option.map_eq_some_iff] at h
  obtain ⟨entry, hfind, rfl⟩ := h
  have hkey := List.find?_some hfind
  have hmem := List.mem_of_find?_eq_some hfind
  simp only [decide_eq_true_eq] at hkey
  rwa [← hkey]

theorem find?_eq_none_iff : find? entries key = none ↔ key ∉ entries.map (·.1) := by
  induction entries with
  | nil => simp
  | cons entry rest ih =>
    rw [find?_cons, List.map_cons, List.mem_cons, eq_comm]
    by_cases h : entry.1 = key
    · simp [h]
    · have hne : ¬ key = entry.1 := fun heq => h heq.symm
      rw [if_neg h, eq_comm, ih]
      simp [hne]

theorem erase_cons (entry : κ × ν) (rest : List (κ × ν)) (key : κ) :
    erase (entry :: rest) key =
      if entry.1 = key then erase rest key else entry :: erase rest key := by
  by_cases h : entry.1 = key <;> simp [erase, h]

theorem find?_erase_of_ne {other : κ} (h : other ≠ key) :
    find? (erase entries key) other = find? entries other := by
  induction entries with
  | nil => rfl
  | cons entry rest ih =>
    rw [erase_cons, find?_cons]
    by_cases hkey : entry.1 = key
    · have hother : entry.1 ≠ other := fun heq => h (heq.symm.trans hkey)
      rw [if_pos hkey, if_neg hother, ih]
    · rw [if_neg hkey, find?_cons, ih]

theorem keys_erase (entries : List (κ × ν)) (key : κ) :
    (erase entries key).map (·.1) = (entries.map (·.1)).filter (· ≠ key) := by
  simp [erase, List.filter_map, Function.comp_def]

theorem find?_erase_self (entries : List (κ × ν)) (key : κ) :
    find? (erase entries key) key = none := by
  rw [find?_eq_none_iff, keys_erase]
  simp

end FiveStage.Entries
