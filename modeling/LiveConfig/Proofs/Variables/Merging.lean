import LiveConfig.Proofs.Rewriting.Distinct
import LiveConfig.Variables.Declaration

set_option autoImplicit false

namespace LiveConfig

namespace Fields

variable {α : Type}

theorem put_of_notMem {name : String} {value : α} {fields : Fields α}
    (absent : name ∉ names fields) : put name value fields = fields ++ [(name, value)] := by
  induction fields with
  | nil => rfl
  | cons entry rest ih =>
    rw [names, List.map_cons, List.mem_cons, not_or] at absent
    obtain ⟨differ, later⟩ := absent
    rw [put, if_neg (Ne.symm differ), ih later]
    rfl

theorem putAll_of_distinct (fields : Fields α) {entries : Fields α}
    (distinct : Distinct (fields ++ entries)) :
    putAll fields entries = fields ++ entries := by
  induction entries generalizing fields with
  | nil => rw [List.append_nil]; rfl
  | cons entry rest ih =>
    have absent : entry.1 ∉ names fields := by
      rw [Distinct, names, List.map_append, List.nodup_append] at distinct
      intro member
      exact distinct.2.2 _ member _ (List.mem_cons_self) rfl
    rw [List.append_cons] at distinct ⊢
    show putAll (put entry.1 entry.2 fields) rest = _
    rw [put_of_notMem absent]
    exact ih _ distinct

theorem putAll_nil {entries : Fields α} (distinct : Distinct entries) : putAll [] entries = entries :=
  putAll_of_distinct [] distinct

theorem split_of_find? {name : String} {value : α} {fields : Fields α}
    (found : find? name fields = some value) :
    ∃ before after, fields = before ++ (name, value) :: after := by
  induction fields with
  | nil => cases found
  | cons entry rest ih =>
    obtain ⟨key, old⟩ := entry
    rw [find?] at found
    split at found
    · next same =>
      obtain rfl : old = value := Option.some.inj found
      exact ⟨[], rest, by rw [same]; rfl⟩
    · obtain ⟨before, after, rfl⟩ := ih found
      exact ⟨(key, old) :: before, after, rfl⟩

theorem find?_of_split {name : String} {value : α} {before after : Fields α}
    (distinct : Distinct (before ++ (name, value) :: after)) :
    find? name (before ++ (name, value) :: after) = some value := by
  induction before with
  | nil => simp [find?]
  | cons entry rest ih =>
    obtain ⟨fresh, later⟩ := List.nodup_cons.mp distinct
    have differ : entry.1 ≠ name := by
      intro same
      exact fresh (List.mem_map.mpr ⟨(name, value), by simp, same.symm⟩)
    rw [List.cons_append, find?, if_neg differ]
    exact ih later

theorem append_cons_unique {β : Type} {a : β} {first first' rest rest' : List β}
    (absent : a ∉ first) (absent' : a ∉ first') (same : first ++ a :: rest = first' ++ a :: rest') :
    first = first' := by
  induction first generalizing first' with
  | nil =>
    cases first' with
    | nil => rfl
    | cons b tail =>
      obtain ⟨rfl, _⟩ := List.cons.inj same
      exact absurd List.mem_cons_self absent'
  | cons b tail ih =>
    cases first' with
    | nil =>
      obtain ⟨rfl, _⟩ := List.cons.inj same
      exact absurd List.mem_cons_self absent
    | cons b' tail' =>
      obtain ⟨rfl, later⟩ := List.cons.inj same
      rw [ih (fun member => absent (List.mem_cons_of_mem _ member))
        (fun member => absent' (List.mem_cons_of_mem _ member)) later]

theorem notMem_of_split {name : String} {value : α} {before after : Fields α}
    (distinct : Distinct (before ++ (name, value) :: after)) : name ∉ names before := by
  rw [Distinct, names, List.map_append, List.nodup_append] at distinct
  exact fun member => distinct.2.2 name member name (by simp) rfl

theorem split_unique {name : String} {value other : α} {before before' after after' : Fields α}
    (distinct : Distinct (before ++ (name, value) :: after))
    (same : before ++ (name, value) :: after = before' ++ (name, other) :: after') :
    before = before' ∧ value = other := by
  have listed : names before ++ name :: names after = names before' ++ name :: names after' := by
    simpa [names] using congrArg names same
  have names_eq := append_cons_unique (notMem_of_split distinct)
    (notMem_of_split (same ▸ distinct)) listed
  have length : before.length = before'.length := by
    simpa [names] using congrArg List.length names_eq
  obtain ⟨front, back⟩ := List.append_inj same length
  exact ⟨front, (Prod.mk.inj (List.cons.inj back).1).2⟩

theorem distinct_of_append {first last : Fields α} (distinct : Distinct (first ++ last)) :
    Distinct first := by
  rw [Distinct, names, List.map_append] at distinct
  exact (List.nodup_append.mp distinct).1

theorem split_of_mem {name : String} {fields : Fields α} (member : name ∈ names fields) :
    ∃ before value after, fields = before ++ (name, value) :: after := by
  cases found : find? name fields with
  | none => exact absurd member ((find?_eq_none_iff name fields).mp found)
  | some value =>
    obtain ⟨before, after, split⟩ := split_of_find? found
    exact ⟨before, value, after, split⟩

theorem names_putAll (fields entries : Fields α) (distinct : Distinct entries) :
    names (putAll fields entries) =
      names fields ++ (names entries).filter fun name => name ∉ names fields := by
  induction entries generalizing fields with
  | nil => simp [putAll, names]
  | cons entry rest ih =>
    obtain ⟨fresh, later⟩ := List.nodup_cons.mp distinct
    have step := ih (put entry.1 entry.2 fields) later
    rw [names_put] at step
    show names (putAll (put entry.1 entry.2 fields) rest) =
      names fields ++ (entry.1 :: names rest).filter fun name => name ∉ names fields
    by_cases known : entry.1 ∈ names fields
    · rw [if_pos known] at step
      rw [step, List.filter_cons_of_neg (by simpa using known)]
    · rw [if_neg known] at step
      have same : (names rest).filter (fun name => name ∉ names fields ++ [entry.1]) =
          (names rest).filter fun name => name ∉ names fields := by
        refine List.filter_congr fun name member => ?_
        have differ : name ≠ entry.1 := by
          rintro rfl
          exact fresh member
        simp [differ]
      rw [step, same, List.filter_cons_of_pos (by simpa using known), List.append_assoc]
      rfl

/-- A later entry takes the place of an earlier one. -/
theorem find?_putAll (name : String) (fields entries : Fields α) (distinct : Distinct entries) :
    find? name (putAll fields entries) = (find? name entries).or (find? name fields) := by
  induction entries generalizing fields with
  | nil => rfl
  | cons entry rest ih =>
    obtain ⟨key, value⟩ := entry
    obtain ⟨fresh, later⟩ := List.nodup_cons.mp distinct
    have step := ih (put key value fields) later
    show find? name (putAll (put key value fields) rest) = _
    rw [step, find?]
    by_cases same : key = name
    · subst same
      rw [if_pos rfl, (find?_eq_none_iff key rest).mpr fresh, find?_put_self]
      rfl
    · rw [if_neg same, find?_put_other _ _ _ _ (Ne.symm same)]

end Fields

namespace Declaration

def positionalEntries : Option Declaration → List Value
  | some (.positional values) => values
  | _ => []

def namedEntries : Option Declaration → Fields Value
  | some (.named fields) => fields
  | _ => []

/-- No name comes twice in a declaration, nor in an object of its values. -/
inductive Distinct : Declaration → Prop where
  | positional {values : List Value} (each : ∀ value ∈ values, value.Distinct) :
      Distinct (.positional values)
  | named {fields : Fields Value} (names : Fields.Distinct fields)
      (each : ∀ field ∈ fields, field.2.Distinct) : Distinct (.named fields)

variable {declaration : Option Declaration} (distinct : ∀ d ∈ declaration, d.Distinct)
include distinct

theorem distinct_positionalEntries : ∀ value ∈ positionalEntries declaration, value.Distinct := by
  cases declaration with
  | none => exact List.forall_mem_nil _
  | some declared =>
    cases distinct declared rfl with
    | positional each => exact each
    | named names each => exact List.forall_mem_nil _

theorem distinct_namedEntries : Fields.Distinct (namedEntries declaration) ∧
    ∀ field ∈ namedEntries declaration, field.2.Distinct := by
  cases declaration with
  | none => exact ⟨List.nodup_nil, List.forall_mem_nil _⟩
  | some declared =>
    cases distinct declared rfl with
    | positional each => exact ⟨List.nodup_nil, List.forall_mem_nil _⟩
    | named names each => exact ⟨names, each⟩

end Declaration

namespace Merged

open Declaration (positionalEntries namedEntries)

theorem add_eq (merged : Merged) (declaration : Option Declaration) :
    merged.add declaration = {
      positional := merged.positional ++ positionalEntries declaration
      named := Fields.putAll merged.named (namedEntries declaration) } := by
  unfold add
  split
  · simp [positionalEntries, namedEntries, Fields.putAll]
  · simp [positionalEntries, namedEntries, Fields.putAll]
  · simp [positionalEntries, namedEntries]

variable (globals locals : Option Declaration)

theorem positional_merge :
    (merge globals locals).positional = positionalEntries globals ++ positionalEntries locals := by
  rw [merge, add_eq, add_eq]
  rfl

theorem named_merge : (merge globals locals).named =
    Fields.putAll (Fields.putAll [] (namedEntries globals)) (namedEntries locals) := by
  rw [merge, add_eq, add_eq]

section

variable (distinctGlobals : Fields.Distinct (namedEntries globals))
  (distinctLocals : Fields.Distinct (namedEntries locals))
include distinctGlobals distinctLocals

theorem names_merge : Fields.names (merge globals locals).named =
    Fields.names (namedEntries globals) ++ (Fields.names (namedEntries locals)).filter
      fun name => name ∉ Fields.names (namedEntries globals) := by
  rw [named_merge, Fields.names_putAll _ _ distinctLocals,
    Fields.putAll_nil distinctGlobals]

theorem find?_merge (name : String) : Fields.find? name (merge globals locals).named =
    (Fields.find? name (namedEntries locals)).or (Fields.find? name (namedEntries globals)) := by
  rw [named_merge, Fields.find?_putAll name _ _ distinctLocals,
    Fields.putAll_nil distinctGlobals]

end

theorem distinct_values_merge {globals locals : Option Declaration}
    (distinctGlobals : ∀ d ∈ globals, d.Distinct) (distinctLocals : ∀ d ∈ locals, d.Distinct) :
    (∀ value ∈ (merge globals locals).positional, value.Distinct) ∧
      ∀ field ∈ (merge globals locals).named, field.2.Distinct := by
  constructor
  · rw [positional_merge]
    intro value member
    rcases List.mem_append.mp member with global | own
    · exact Declaration.distinct_positionalEntries distinctGlobals value global
    · exact Declaration.distinct_positionalEntries distinctLocals value own
  · rw [named_merge]
    have first : ∀ field ∈ Fields.putAll [] (namedEntries globals), field.2.Distinct :=
      Fields.forall_putAll (List.forall_mem_nil _)
        (Declaration.distinct_namedEntries distinctGlobals).2
    exact Fields.forall_putAll first (Declaration.distinct_namedEntries distinctLocals).2

end Merged

end LiveConfig
