import LiveConfig.Value.OfYaml

set_option autoImplicit false

namespace LiveConfig

theorem Fields.forall_put {α : Type} {P : α → Prop} {name : String} {value : α}
    {fields : Fields α} (old : ∀ field ∈ fields, P field.2) (new : P value) :
    ∀ field ∈ put name value fields, P field.2 := by
  induction fields with
  | nil => simpa [put] using new
  | cons first rest ih =>
    obtain ⟨head, tail⟩ := List.forall_mem_cons.mp old
    rw [put]
    split
    · exact List.forall_mem_cons.mpr ⟨new, tail⟩
    · exact List.forall_mem_cons.mpr ⟨head, ih tail⟩

theorem Fields.forall_putAll {α : Type} {P : α → Prop} {fields : Fields α}
    {entries : List (String × α)} (old : ∀ field ∈ fields, P field.2)
    (new : ∀ entry ∈ entries, P entry.2) : ∀ field ∈ putAll fields entries, P field.2 := by
  induction entries generalizing fields with
  | nil => exact old
  | cons entry rest ih =>
    obtain ⟨head, tail⟩ := List.forall_mem_cons.mp new
    exact ih (forall_put old head) tail

namespace Value

/-- No object in the tree has a name twice. -/
inductive Distinct : Value → Prop where
  | null : Distinct .null
  | bool (b : Bool) : Distinct (.bool b)
  | number (x : Float) : Distinct (.number x)
  | text (s : String) : Distinct (.text s)
  | array {items : List Value} (each : ∀ item ∈ items, Distinct item) : Distinct (.array items)
  | object {fields : Fields Value} (names : Fields.Distinct fields)
      (each : ∀ field ∈ fields, Distinct field.2) : Distinct (.object fields)

theorem distinct_resolve? {text : String} {v : Value} (read : Yaml.resolve? text = some v) :
    v.Distinct := by
  have integers {negative : Bool} {n : Nat} {v? : Option Value}
      (written : Yaml.ofInteger? negative n = some v?) : ∀ w, v? = some w → w.Distinct := by
    rintro w rfl
    unfold Yaml.ofInteger? at written
    extract_lets bound wide x at written
    by_cases within : n ≤ bound
    · rw [if_pos within] at written
      cases written
      exact .number x
    · rw [if_neg within] at written
      split at written <;> cases written
  unfold Yaml.resolve? at read
  split at read
  · cases read
    exact .null
  · split at read
    · cases read
      exact .bool _
    · split at read
      · next v? integer =>
        obtain ⟨_, _, written⟩ := Option.bind_eq_some_iff.mp integer
        exact integers written v read
      · split at read
        · cases read
          exact .number _
        · cases read
          exact .text _

mutual

theorem distinct_ofYaml? : ∀ (room : Nat) (node : Yaml) {v : Value},
    ofYaml? room node = some v → v.Distinct
  | _, .scalar s plain, v, read => by
    rw [ofYaml?] at read
    split at read
    · exact distinct_resolve? read
    · cases read
      exact .text s
  | 0, .sequence items, v, read => by simp [ofYaml?] at read
  | room + 1, .sequence items, v, read => by
    rw [ofYaml?, Option.map_eq_some_iff] at read
    obtain ⟨values, found, rfl⟩ := read
    exact .array (distinct_itemsOfYaml? room items found)
  | 0, .mapping entries, v, read => by simp [ofYaml?] at read
  | room + 1, .mapping entries, v, read => by
    rw [ofYaml?, Option.map_eq_some_iff] at read
    obtain ⟨fields, found, rfl⟩ := read
    exact .object (Fields.distinct_ofList fields)
      (Fields.forall_putAll nofun (distinct_fieldsOfYaml? room entries found))

theorem distinct_itemsOfYaml? : ∀ (room : Nat) (items : List Yaml) {values : List Value},
    itemsOfYaml? room items = some values → ∀ v ∈ values, v.Distinct
  | _, [], values, read => by
    cases read
    exact nofun
  | room, item :: rest, values, read => by
    rw [itemsOfYaml?, Option.bind_eq_bind, Option.bind_eq_some_iff] at read
    obtain ⟨v, first, others⟩ := read
    obtain ⟨more, later, same⟩ := Option.bind_eq_some_iff.mp others
    cases same
    exact List.forall_mem_cons.mpr
      ⟨distinct_ofYaml? room item first, distinct_itemsOfYaml? room rest later⟩

theorem distinct_fieldsOfYaml? : ∀ (room : Nat) (entries : List (Yaml × Yaml))
    {fields : List (String × Value)},
    fieldsOfYaml? room entries = some fields → ∀ field ∈ fields, field.2.Distinct
  | _, [], fields, read => by
    cases read
    exact nofun
  | room, (key, item) :: rest, fields, read => by
    rw [fieldsOfYaml?, Option.bind_eq_bind, Option.bind_eq_some_iff] at read
    obtain ⟨name, _, others⟩ := read
    obtain ⟨v, first, others⟩ := Option.bind_eq_some_iff.mp others
    obtain ⟨more, later, same⟩ := Option.bind_eq_some_iff.mp others
    cases same
    exact List.forall_mem_cons.mpr
      ⟨distinct_ofYaml? room item first, distinct_fieldsOfYaml? room rest later⟩

end

end Value

end LiveConfig
