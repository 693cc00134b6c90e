set_option autoImplicit false

namespace LiveConfig

abbrev Fields (α : Type) := List (String × α)

namespace Fields

variable {α β : Type}

/-- The value under a name. -/
def find? (name : String) : Fields α → Option α
  | [] => none
  | (key, value) :: rest => if key = name then some value else find? name rest

def names (fields : Fields α) : List String :=
  fields.map (·.1)

/-- Replaces the value under a name in place, or adds the name at the end. -/
def put (name : String) (value : α) : Fields α → Fields α
  | [] => [(name, value)]
  | (key, old) :: rest =>
    if key = name then (key, value) :: rest else (key, old) :: put name value rest

/-- Puts entries one after another. -/
def putAll (fields : Fields α) (entries : List (String × α)) : Fields α :=
  entries.foldl (fun done entry => put entry.1 entry.2 done) fields

/-- The fields without a name. -/
def erase (name : String) (fields : Fields α) : Fields α :=
  fields.filter fun entry => entry.1 ≠ name

def ofList (entries : List (String × α)) : Fields α :=
  putAll [] entries

def mapValues (f : α → β) (fields : Fields α) : Fields β :=
  fields.map fun entry => (entry.1, f entry.2)

/-- No name comes twice. -/
def Distinct (fields : Fields α) : Prop :=
  (names fields).Nodup

theorem find?_put_self (name : String) (value : α) (fields : Fields α) :
    find? name (put name value fields) = some value := by
  induction fields with
  | nil => simp [put, find?]
  | cons entry rest ih =>
    obtain ⟨key, old⟩ := entry
    by_cases same : key = name <;> simp [put, find?, same, ih]

theorem find?_put_other (name other : String) (value : α) (fields : Fields α)
    (differ : other ≠ name) : find? other (put name value fields) = find? other fields := by
  induction fields with
  | nil => simp [put, find?, Ne.symm differ]
  | cons entry rest ih =>
    obtain ⟨key, old⟩ := entry
    by_cases same : key = name
    · subst same
      simp [put, find?, Ne.symm differ]
    · simp only [put, same, if_false, find?]
      rw [ih]

theorem find?_eq_none_iff (name : String) (fields : Fields α) :
    find? name fields = none ↔ name ∉ names fields := by
  induction fields with
  | nil => simp [find?, names]
  | cons entry rest ih =>
    obtain ⟨key, value⟩ := entry
    by_cases same : key = name
    · simp [find?, names, same]
    · simpa [find?, names, same, Ne.symm same] using ih

/-- A new name goes to the end; a known one changes no name and no place. -/
theorem names_put (name : String) (value : α) (fields : Fields α) :
    names (put name value fields) =
      if name ∈ names fields then names fields else names fields ++ [name] := by
  induction fields with
  | nil => simp [put, names]
  | cons entry rest ih =>
    obtain ⟨key, old⟩ := entry
    by_cases same : key = name
    · simp [put, names, same]
    · simp only [put, same, if_false]
      simp only [names, List.map_cons, List.mem_cons, Ne.symm same, false_or] at ih ⊢
      rw [ih]
      by_cases known : name ∈ List.map (fun entry => entry.1) rest <;> simp [known]

theorem distinct_put (name : String) (value : α) (fields : Fields α) (distinct : Distinct fields) :
    Distinct (put name value fields) := by
  rw [Distinct, names_put]
  split
  · exact distinct
  · next absent =>
    exact List.nodup_append.mpr ⟨distinct, by simp, by
      intro first member second other same
      simp only [List.mem_singleton] at other
      exact absent (other ▸ same ▸ member)⟩

theorem distinct_putAll (entries : List (String × α)) (fields : Fields α)
    (distinct : Distinct fields) : Distinct (putAll fields entries) := by
  induction entries generalizing fields with
  | nil => exact distinct
  | cons entry rest ih => exact ih _ (distinct_put _ _ _ distinct)

theorem distinct_ofList (entries : List (String × α)) : Distinct (ofList entries) :=
  distinct_putAll entries [] List.nodup_nil

theorem mem_names_put {name other : String} {value : α} {fields : Fields α} :
    other ∈ names (put name value fields) ↔ other ∈ names fields ∨ other = name := by
  rw [names_put]
  split
  · next known => exact ⟨Or.inl, fun either => either.elim id fun same => same ▸ known⟩
  · rw [List.mem_append, List.mem_singleton]

theorem mem_names_erase {name other : String} {fields : Fields α} :
    other ∈ names (erase name fields) ↔ other ∈ names fields ∧ other ≠ name := by
  simp only [names, erase, List.mem_map, List.mem_filter, decide_eq_true_eq]
  constructor
  · rintro ⟨entry, ⟨member, differ⟩, rfl⟩
    exact ⟨⟨entry, member, rfl⟩, differ⟩
  · rintro ⟨⟨entry, member, rfl⟩, differ⟩
    exact ⟨entry, ⟨member, differ⟩, rfl⟩

theorem find?_erase_self (name : String) (fields : Fields α) :
    find? name (erase name fields) = none := by
  rw [find?_eq_none_iff, mem_names_erase]
  exact fun both => both.2 rfl

theorem find?_erase_other {name other : String} (fields : Fields α) (differ : other ≠ name) :
    find? other (erase name fields) = find? other fields := by
  induction fields with
  | nil => rfl
  | cons entry rest ih =>
    obtain ⟨key, value⟩ := entry
    by_cases gone : key = name
    · have apart : key ≠ other := fun same => differ (same.symm.trans gone)
      simpa [erase, find?, gone, apart, Ne.symm differ] using ih
    · by_cases same : key = other
      · simp [erase, find?, ← same, gone]
      · simpa [erase, find?, gone, same] using ih

@[simp] theorem names_mapValues (f : α → β) (fields : Fields α) :
    names (mapValues f fields) = names fields := by
  simp [names, mapValues]

theorem find?_mapValues (f : α → β) (name : String) (fields : Fields α) :
    find? name (mapValues f fields) = (find? name fields).map f := by
  induction fields with
  | nil => rfl
  | cons entry rest ih =>
    obtain ⟨key, value⟩ := entry
    by_cases same : key = name
    · simp [mapValues, find?, same]
    · simpa [mapValues, find?, same] using ih

end Fields

end LiveConfig
