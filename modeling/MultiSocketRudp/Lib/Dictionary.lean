import Mathlib.Data.List.Basic

/-!
# Dictionaries as lists

A dictionary is the list of its entries, each of which has its key.  An entry is
looked up by its key, and a key is removed with every entry that has it.
-/

namespace Dictionary

universe u v

variable {Entry : Type u} {Key : Type v} [DecidableEq Key] {key : Entry → Key}

/-- The entry with a key. -/
def lookup
    (key : Entry → Key) (entries : List Entry) (wanted : Key) :
    Option Entry :=
  entries.find? fun entry => key entry = wanted

/-- The entries without a key. -/
def remove
    (key : Entry → Key) (entries : List Entry) (unwanted : Key) :
    List Entry :=
  entries.filter fun entry => key entry ≠ unwanted

/-- A key without an entry is the key of no entry. -/
theorem not_mem_of_lookup
    {entries : List Entry} {wanted : Key}
    (missing : lookup key entries wanted = none) :
    wanted ∉ entries.map key := by
  intro member
  obtain ⟨entry, keeps, same⟩ := List.mem_map.mp member
  have different := List.find?_eq_none.mp missing entry keeps
  simp only [decide_eq_true_eq] at different
  exact different same

/-- What is looked up is an entry with the key. -/
theorem mem_of_lookup
    {entries : List Entry} {wanted : Key} {entry : Entry}
    (found : lookup key entries wanted = some entry) :
    entry ∈ entries ∧ key entry = wanted := by
  have same := List.find?_some found
  exact ⟨List.mem_of_find?_eq_some found, by simpa using same⟩

/-- The removal of a key that has an entry leaves fewer entries. -/
theorem remove_length_lt
    {entries : List Entry} {wanted : Key} {entry : Entry}
    (found : lookup key entries wanted = some entry) :
    (remove key entries wanted).length < entries.length := by
  obtain ⟨member, same⟩ := mem_of_lookup found
  exact List.length_filter_lt_length_iff_exists.mpr
    ⟨entry, member, by simp [same]⟩

theorem remove_length_le
    (entries : List Entry) (unwanted : Key) :
    (remove key entries unwanted).length ≤ entries.length :=
  List.length_filter_le _ _

@[simp] theorem remove_remove
    (entries : List Entry) (unwanted : Key) :
    remove key (remove key entries unwanted) unwanted =
      remove key entries unwanted := by
  simp [remove, List.filter_filter]

/-- The removal of a key without an entry changes nothing. -/
theorem remove_eq_self
    {entries : List Entry} {unwanted : Key}
    (missing : lookup key entries unwanted = none) :
    remove key entries unwanted = entries :=
  List.filter_eq_self.mpr fun entry member => by
    simpa using fun same : key entry = unwanted =>
      not_mem_of_lookup missing (same ▸ List.mem_map_of_mem member)

/-- A removed key is not found. -/
@[simp] theorem lookup_remove_self
    (entries : List Entry) (unwanted : Key) :
    lookup key (remove key entries unwanted) unwanted = none := by
  simp [lookup, remove]

/-- The other keys are found as before. -/
theorem lookup_remove_of_ne
    {wanted unwanted : Key}
    (different : wanted ≠ unwanted)
    (entries : List Entry) :
    lookup key (remove key entries unwanted) wanted =
      lookup key entries wanted := by
  rw [lookup, lookup, remove, List.find?_filter]
  congr 1
  funext entry
  by_cases same : key entry = wanted
  · simp [same, different]
  · simp [same]

/-- Where no key has two entries, an entry is removed alone. -/
theorem perm_cons_remove
    {entries : List Entry} {wanted : Key} {entry : Entry}
    (unique : (entries.map key).Nodup)
    (found : lookup key entries wanted = some entry) :
    entries.Perm (entry :: remove key entries wanted) := by
  induction entries with
  | nil => nomatch found
  | cons first rest inductionHypothesis =>
      obtain ⟨fresh, uniqueRest⟩ := List.nodup_cons.mp unique
      by_cases same : key first = wanted
      · obtain rfl : first = entry := by simpa [lookup, same] using found
        have missing : ∀ other ∈ rest, key other ≠ wanted :=
          fun other member equal =>
            fresh (same ▸ equal ▸ List.mem_map_of_mem member)
        have remains : remove key (first :: rest) wanted = rest := by
          simpa [remove, same] using missing
        rw [remains]
      · have inRest : lookup key rest wanted = some entry := by
          simpa [lookup, same] using found
        have remains :
            remove key (first :: rest) wanted =
              first :: remove key rest wanted := by
          simp [remove, same]
        rw [remains]
        exact ((inductionHypothesis uniqueRest inRest).cons first).trans
          (.swap _ _ _)

/-- A key may be described by an injective function of it. -/
theorem remove_eq_filter
    {Value : Type*} [DecidableEq Value]
    {value : Key → Value}
    (injective : Function.Injective value)
    (entries : List Entry) (unwanted : Key) :
    remove key entries unwanted =
      entries.filter fun entry => value (key entry) ≠ value unwanted :=
  List.filter_congr fun _ _ =>
    decide_eq_decide.mpr (not_congr injective.eq_iff.symm)

end Dictionary
