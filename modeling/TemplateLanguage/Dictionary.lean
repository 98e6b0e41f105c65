/-!
# Tables in order of first insertion

A `Names` value is a list of names in the order in which they were first
added.  An `Entries` value is an association list: putting a value under a
key that is already present keeps the place of the key and replaces its
value.  Values are looked up with `List.lookup`.

Both are plain lists, so two tables are equal exactly when they list the same
entries in the same order.
-/

namespace TemplateLanguage

/-- Distinct names in order of first addition. -/
abbrev Names :=
  List String

namespace Names

/-- Add a name at the end unless it is present. -/
def add (name : String) (names : Names) : Names :=
  if name ∈ names then names else names ++ [name]

/-- Add several names from left to right. -/
def addAll (added : List String) (names : Names) : Names :=
  added.foldl (fun names name => add name names) names

/-- The names of a list with repetitions dropped. -/
def ofList (added : List String) : Names :=
  addAll added []

theorem nodup_add {name : String} {names : Names} (distinct : names.Nodup) :
    (add name names).Nodup := by
  unfold add
  split
  · exact distinct
  · rename_i absent
    refine List.nodup_append.mpr ⟨distinct, by simp, ?_⟩
    intro first firstMem second secondMem same
    simp only [List.mem_singleton] at secondMem
    exact absent (secondMem ▸ same ▸ firstMem)

theorem nodup_addAll {added : List String} {names : Names} (distinct : names.Nodup) :
    (addAll added names).Nodup := by
  induction added generalizing names with
  | nil => exact distinct
  | cons name rest ih => exact ih (nodup_add distinct)

/-- A table built from a list has no repetitions. -/
theorem nodup_ofList (added : List String) : (ofList added).Nodup :=
  nodup_addAll List.nodup_nil

/-- Adding a name and dropping repetitions go together. -/
theorem add_eraseDups (name : String) (names : List String) :
    add name names.eraseDups = (names ++ [name]).eraseDups := by
  rw [add, List.eraseDups_append, List.removeAll]
  by_cases present : name ∈ names
  · simp [present]
  · simp [present, List.eraseDups_cons]

/-- Adding names keeps the first of each. -/
theorem addAll_eraseDups (added names : List String) :
    addAll added names.eraseDups = (names ++ added).eraseDups := by
  induction added generalizing names with
  | nil => rw [List.append_nil]; rfl
  | cons name rest ih =>
      change addAll rest (add name names.eraseDups) = _
      rw [add_eraseDups, ih, List.append_assoc, List.singleton_append]

end Names

/-- Keys and values in order of first insertion of the key. -/
abbrev Entries (Key Value : Type) :=
  List (Key × Value)

namespace Entries

variable {Key Value : Type} [DecidableEq Key]

/-- Put a value under a key; a key already present keeps its place. -/
def put (key : Key) (value : Value) : Entries Key Value → Entries Key Value
  | [] => [(key, value)]
  | (other, old) :: rest =>
      if other = key then (key, value) :: rest
      else (other, old) :: put key value rest

/-- Put several values from left to right. -/
def ofList (pairs : List (Key × Value)) : Entries Key Value :=
  pairs.foldl (fun entries pair => put pair.1 pair.2 entries) []

@[simp]
theorem lookup_put_self (key : Key) (value : Value) (entries : Entries Key Value) :
    (put key value entries).lookup key = some value := by
  induction entries with
  | nil => simp [put]
  | cons entry rest ih =>
      obtain ⟨other, old⟩ := entry
      by_cases same : other = key
      · simp [put, same]
      · have unequal : (key == other) = false := beq_false_of_ne (Ne.symm same)
        simp [put, same, List.lookup_cons, unequal, ih]

theorem lookup_put_of_ne {key other : Key} (different : other ≠ key)
    (value : Value) (entries : Entries Key Value) :
    (put key value entries).lookup other = entries.lookup other := by
  have unequal : (other == key) = false := beq_false_of_ne different
  induction entries with
  | nil => simp [put, List.lookup_cons, unequal]
  | cons entry rest ih =>
      obtain ⟨first, old⟩ := entry
      by_cases same : first = key
      · subst same
        simp [put, List.lookup_cons, unequal]
      · simp [put, same, List.lookup_cons, ih]

/-- Putting a value adds its key at the end or changes no key. -/
theorem keys_put (key : Key) (value : Value) (entries : Entries Key Value) :
    (put key value entries).map Prod.fst =
      if key ∈ entries.map Prod.fst then entries.map Prod.fst
      else entries.map Prod.fst ++ [key] := by
  induction entries with
  | nil => simp [put]
  | cons entry rest ih =>
      obtain ⟨other, old⟩ := entry
      by_cases same : other = key
      · simp [put, same]
      · by_cases present : key ∈ rest.map Prod.fst
        · simp [put, same, ih, present]
        · simp [put, same, ih, present, Ne.symm same]

/-! ## Tables with distinct keys -/

variable {entries : Entries String Value}

theorem nodup_keys_put (key : String) (value : Value) (distinct : (entries.map Prod.fst).Nodup) :
    ((put key value entries).map Prod.fst).Nodup := by
  rw [keys_put]
  exact Names.nodup_add distinct

/-- The keys of a table that is built from pairs are distinct. -/
theorem nodup_keys_ofList (pairs : List (String × Value)) :
    ((ofList pairs).map Prod.fst).Nodup := by
  have kept : ∀ entries : Entries String Value, (entries.map Prod.fst).Nodup →
      ((pairs.foldl (fun entries pair => put pair.1 pair.2 entries) entries).map
        Prod.fst).Nodup := by
    induction pairs with
    | nil => exact fun _ distinct => distinct
    | cons pair rest ih => exact fun _ distinct => ih _ (nodup_keys_put _ _ distinct)
  exact kept [] List.nodup_nil

/-- Where keys are distinct, what is found under a key is its entry. -/
theorem lookup_eq_some_iff_mem (distinct : (entries.map Prod.fst).Nodup) {key : String}
    {value : Value} : entries.lookup key = some value ↔ (key, value) ∈ entries := by
  constructor
  · intro found
    obtain ⟨before, after, rfl, _⟩ := List.lookup_eq_some_iff.mp found
    exact List.mem_append_right _ List.mem_cons_self
  · intro member
    obtain ⟨before, after, rfl⟩ := List.append_of_mem member
    refine List.lookup_eq_some_iff.mpr ⟨before, after, rfl, ?_⟩
    intro earlier present
    rw [List.map_append, List.nodup_append] at distinct
    have apart := distinct.2.2 earlier.1 (List.mem_map_of_mem present) key List.mem_cons_self
    exact bne_iff_ne.mpr apart.symm

theorem eq_of_mem (distinct : (entries.map Prod.fst).Nodup) {key : String} {value other : Value}
    (member : (key, value) ∈ entries) (otherMember : (key, other) ∈ entries) : value = other := by
  rw [← lookup_eq_some_iff_mem distinct] at member otherMember
  exact Option.some.inj (member.symm.trans otherMember)

end Entries

end TemplateLanguage
