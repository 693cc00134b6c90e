import LiveConfig.Proofs.Rewriting.Distinct
import LiveConfig.Proofs.Rewriting.Graft
import LiveConfig.Proofs.Rewriting.Observing
import LiveConfig.Proofs.Rewriting.Places

set_option autoImplicit false

namespace LiveConfig

namespace Fields

variable {α β : Type}

theorem mapValues_put (f : α → β) (name : String) (value : α) (fields : Fields α) :
    mapValues f (put name value fields) = put name (f value) (mapValues f fields) := by
  induction fields with
  | nil => rfl
  | cons entry rest ih =>
    obtain ⟨key, old⟩ := entry
    by_cases same : key = name
    · simp [put, mapValues, same]
    · simpa [put, mapValues, same] using ih

theorem mem_of_find? {name : String} {value : α} {fields : Fields α}
    (found : find? name fields = some value) : (name, value) ∈ fields := by
  induction fields with
  | nil => cases found
  | cons entry rest ih =>
    obtain ⟨key, old⟩ := entry
    by_cases same : key = name
    · rw [find?, if_pos same] at found
      rw [same, Option.some.inj found]
      exact List.mem_cons_self
    · rw [find?, if_neg same] at found
      exact List.mem_cons_of_mem _ (ih found)

end Fields

namespace Partial

theorem inductionOn {motive : Partial → Prop} (tree : Partial)
    (ready : ∀ value, motive (.ready value))
    (array : ∀ items : List Partial, (∀ item ∈ items, motive item) → motive (.array items))
    (object : ∀ fields : List (String × Partial), (∀ field ∈ fields, motive field.2) →
      motive (.object fields))
    (pending : ∀ d, motive (.pending d)) : motive tree := by
  cases tree with
  | ready value => exact ready value
  | array items => exact array items fun item _ => inductionOn item ready array object pending
  | object fields =>
    exact object fields fun field _ => inductionOn field.2 ready array object pending
  | pending d => exact pending d
termination_by sizeOf tree
decreasing_by
  · have smaller := List.sizeOf_lt_of_mem ‹item ∈ items›
    simp only [Partial.array.sizeOf_spec]
    omega
  · have smaller := List.sizeOf_lt_of_mem ‹field ∈ fields›
    obtain ⟨name, value⟩ := field
    simp only [Prod.mk.sizeOf_spec] at smaller
    simp only [Partial.object.sizeOf_spec]
    omega

mutual

/-- The leaves that are under way. -/
def flying : Partial → List (Deferred Value)
  | .ready _ => []
  | .array items => itemsFlying items
  | .object fields => fieldsFlying fields
  | .pending d => [d]

def itemsFlying : List Partial → List (Deferred Value)
  | [] => []
  | item :: rest => flying item ++ itemsFlying rest

def fieldsFlying : List (String × Partial) → List (Deferred Value)
  | [] => []
  | (_, value) :: rest => flying value ++ fieldsFlying rest

end

mutual

/-- The tree with other results for the leaves that are under way. -/
def mapFlying (f : Deferred Value → Deferred Value) : Partial → Partial
  | .ready value => .ready value
  | .array items => .array (itemsMapped f items)
  | .object fields => .object (fieldsMapped f fields)
  | .pending d => .pending (f d)

def itemsMapped (f : Deferred Value → Deferred Value) : List Partial → List Partial
  | [] => []
  | item :: rest => mapFlying f item :: itemsMapped f rest

def fieldsMapped (f : Deferred Value → Deferred Value) :
    List (String × Partial) → List (String × Partial)
  | [] => []
  | (name, value) :: rest => (name, mapFlying f value) :: fieldsMapped f rest

end

theorem flying_array (items : List Partial) : flying (.array items) = items.flatMap flying := by
  have each (items : List Partial) : itemsFlying items = items.flatMap flying := by
    induction items with
    | nil => rfl
    | cons item rest ih => rw [itemsFlying, ih, List.flatMap_cons]
  exact each items

theorem flying_object (fields : List (String × Partial)) :
    flying (.object fields) = fields.flatMap fun field => field.2.flying := by
  have each (fields : List (String × Partial)) :
      fieldsFlying fields = fields.flatMap fun field => field.2.flying := by
    induction fields with
    | nil => rfl
    | cons field rest ih => rw [fieldsFlying, ih, List.flatMap_cons]
  exact each fields

theorem mapFlying_array (f : Deferred Value → Deferred Value) (items : List Partial) :
    mapFlying f (.array items) = .array (items.map (mapFlying f)) := by
  have each (items : List Partial) : itemsMapped f items = items.map (mapFlying f) := by
    induction items with
    | nil => rfl
    | cons item rest ih => rw [itemsMapped, ih, List.map_cons]
  rw [mapFlying, each]

theorem mapFlying_object (f : Deferred Value → Deferred Value) (fields : List (String × Partial)) :
    mapFlying f (.object fields) = .object (Fields.mapValues (mapFlying f) fields) := by
  have each (fields : List (String × Partial)) :
      fieldsMapped f fields = Fields.mapValues (mapFlying f) fields := by
    induction fields with
    | nil => rfl
    | cons field rest ih =>
      rw [fieldsMapped, ih]
      rfl
  rw [mapFlying, each]

theorem read_array (answers : Answers) (items : List Partial) :
    read answers (.array items) = .array (items.map (read answers)) := by
  have each (items : List Partial) : readItems answers items = items.map (read answers) := by
    induction items with
    | nil => rfl
    | cons item rest ih => rw [readItems, ih, List.map_cons]
  rw [read, each]

theorem read_object (answers : Answers) (fields : List (String × Partial)) :
    read answers (.object fields) = .object (Fields.mapValues (read answers) fields) := by
  have each (fields : List (String × Partial)) :
      readFields answers fields = Fields.mapValues (read answers) fields := by
    induction fields with
    | nil => rfl
    | cons field rest ih =>
      rw [readFields, ih]
      rfl
  rw [read, each]

theorem calls_eq_flatMap (tree : Partial) : tree.calls = tree.flying.flatMap Deferred.calls := by
  have items_eq (items : List Partial) : itemCalls items = items.flatMap calls := by
    induction items with
    | nil => rfl
    | cons item rest ih => rw [itemCalls, ih, List.flatMap_cons]
  have fields_eq (fields : List (String × Partial)) :
      fieldCalls fields = fields.flatMap fun field => field.2.calls := by
    induction fields with
    | nil => rfl
    | cons field rest ih => rw [fieldCalls, ih, List.flatMap_cons]
  induction tree using inductionOn with
  | ready value => rfl
  | pending d => simp [calls, flying]
  | array items ih =>
    rw [calls, items_eq, flying_array, List.flatMap_assoc, List.flatMap_def, List.flatMap_def]
    exact congrArg List.flatten (List.map_congr_left ih)
  | object fields ih =>
    rw [calls, fields_eq, flying_object, List.flatMap_assoc, List.flatMap_def, List.flatMap_def]
    exact congrArg List.flatten (List.map_congr_left ih)

theorem isSettled_eq_all (calls : Calls) (tree : Partial) :
    tree.isSettled calls = tree.flying.all (Deferred.isSettled calls) := by
  rw [← allObserved_calls, calls_eq_flatMap, Calls.allObserved, List.all_flatMap]
  rfl

theorem flying_ofValue (v : Value) : (ofValue v).flying = [] := by
  have items_eq (items : List Value) : ofItems items = items.map ofValue := by
    induction items with
    | nil => rfl
    | cons item rest ih => rw [ofItems, ih, List.map_cons]
  have fields_eq (fields : List (String × Value)) :
      ofFields fields = fields.map fun field => (field.1, ofValue field.2) := by
    induction fields with
    | nil => rfl
    | cons field rest ih => rw [ofFields, ih, List.map_cons]
  induction v using Value.inductionOn with
  | scalar v text array object =>
    cases v with
    | text s => exact absurd rfl (text s)
    | array items => exact absurd rfl (array items)
    | object fields => exact absurd rfl (object fields)
    | null => rfl
    | bool b => rfl
    | number x => rfl
  | text s => rfl
  | array items ih =>
    rw [ofValue, flying_array, items_eq, List.flatMap_map, List.flatMap_eq_nil_iff]
    exact ih
  | object fields ih =>
    rw [ofValue, flying_object, fields_eq, List.flatMap_map, List.flatMap_eq_nil_iff]
    exact ih

section

variable {f g : Deferred Value → Deferred Value} {tree : Partial}

theorem mapFlying_congr (agree : ∀ d ∈ tree.flying, f d = g d) :
    tree.mapFlying f = tree.mapFlying g := by
  induction tree using inductionOn with
  | ready value => rfl
  | pending d => rw [mapFlying, mapFlying, agree d (List.mem_singleton_self d)]
  | array items ih =>
    rw [mapFlying_array, mapFlying_array]
    refine congrArg Partial.array (List.map_congr_left ?_)
    intro item member
    refine ih item member ?_
    intro d inside
    exact agree d (flying_array items ▸ List.mem_flatMap.mpr ⟨item, member, inside⟩)
  | object fields ih =>
    rw [mapFlying_object, mapFlying_object]
    refine congrArg Partial.object (List.map_congr_left ?_)
    intro field member
    refine congrArg (Prod.mk field.1) (ih field member ?_)
    intro d inside
    exact agree d (flying_object fields ▸ List.mem_flatMap.mpr ⟨field, member, inside⟩)

theorem mapFlying_eq_self (same : ∀ d ∈ tree.flying, f d = d) : tree.mapFlying f = tree := by
  induction tree using inductionOn with
  | ready value => rfl
  | pending d => rw [mapFlying, same d (List.mem_singleton_self d)]
  | array items ih =>
    rw [mapFlying_array]
    refine congrArg Partial.array ?_
    conv => rhs; rw [← List.map_id items]
    refine List.map_congr_left fun item member => ih item member fun d inside => ?_
    exact same d (flying_array items ▸ List.mem_flatMap.mpr ⟨item, member, inside⟩)
  | object fields ih =>
    rw [mapFlying_object]
    refine congrArg Partial.object ?_
    conv => rhs; rw [← List.map_id fields]
    refine List.map_congr_left fun field member =>
      congrArg (Prod.mk field.1) (ih field member fun d inside => ?_)
    exact same d (flying_object fields ▸ List.mem_flatMap.mpr ⟨field, member, inside⟩)

theorem flying_mapFlying (f : Deferred Value → Deferred Value) (tree : Partial) :
    (tree.mapFlying f).flying = tree.flying.map f := by
  induction tree using inductionOn with
  | ready value => rfl
  | pending d => rfl
  | array items ih =>
    rw [mapFlying_array, flying_array, flying_array, List.flatMap_map, List.map_flatMap,
      List.flatMap_def, List.flatMap_def]
    exact congrArg List.flatten (List.map_congr_left ih)
  | object fields ih =>
    rw [mapFlying_object, flying_object, flying_object, Fields.mapValues, List.flatMap_map,
      List.map_flatMap, List.flatMap_def, List.flatMap_def]
    exact congrArg List.flatten (List.map_congr_left ih)

theorem mapFlying_mapFlying (f g : Deferred Value → Deferred Value) (tree : Partial) :
    (tree.mapFlying f).mapFlying g = tree.mapFlying (g ∘ f) := by
  induction tree using inductionOn with
  | ready value => rfl
  | pending d => rfl
  | array items ih =>
    rw [mapFlying_array, mapFlying_array, mapFlying_array, List.map_map]
    exact congrArg Partial.array (List.map_congr_left ih)
  | object fields ih =>
    rw [mapFlying_object, mapFlying_object, mapFlying_object, Fields.mapValues, Fields.mapValues,
      Fields.mapValues, List.map_map]
    exact congrArg Partial.object (List.map_congr_left fun field member =>
      congrArg (Prod.mk field.1) (ih field member))

theorem read_mapFlying {answers others : Answers}
    (same : ∀ d ∈ tree.flying, (f d).read others = d.read answers) :
    (tree.mapFlying f).read others = tree.read answers := by
  induction tree using inductionOn with
  | ready value => rfl
  | pending d => exact same d (List.mem_singleton_self d)
  | array items ih =>
    rw [mapFlying_array, read_array, read_array, List.map_map]
    refine congrArg Value.array (List.map_congr_left fun item member =>
      ih item member fun d inside => ?_)
    exact same d (flying_array items ▸ List.mem_flatMap.mpr ⟨item, member, inside⟩)
  | object fields ih =>
    rw [mapFlying_object, read_object, read_object, Fields.mapValues, Fields.mapValues,
      List.map_map]
    refine congrArg Value.object (List.map_congr_left fun field member =>
      congrArg (Prod.mk field.1) (ih field member fun d inside => ?_))
    exact same d (flying_object fields ▸ List.mem_flatMap.mpr ⟨field, member, inside⟩)

theorem isSettled_mapFlying {calls others : Calls}
    (same : ∀ d ∈ tree.flying, (f d).isSettled others = d.isSettled calls) :
    (tree.mapFlying f).isSettled others = tree.isSettled calls := by
  rw [isSettled_eq_all, isSettled_eq_all, flying_mapFlying, List.all_map]
  refine Bool.eq_iff_iff.mpr ?_
  rw [List.all_eq_true, List.all_eq_true]
  refine forall₂_congr fun d member => ?_
  rw [Function.comp_apply, same d member]

theorem toValue_mapFlying {calls others : Calls}
    (same : ∀ d ∈ tree.flying, (f d).value? others = d.value? calls) :
    (tree.mapFlying f).toValue others = tree.toValue calls := by
  induction tree using inductionOn with
  | ready value => rfl
  | pending d => rw [mapFlying, toValue, toValue, same d (List.mem_singleton_self d)]
  | array items ih =>
    rw [mapFlying_array, toValue, toValue, Value.toItems_eq_map, Value.toItems_eq_map,
      List.map_map]
    refine congrArg Value.array (List.map_congr_left fun item member =>
      ih item member fun d inside => ?_)
    exact same d (flying_array items ▸ List.mem_flatMap.mpr ⟨item, member, inside⟩)
  | object fields ih =>
    rw [mapFlying_object, toValue, toValue, Value.toFields_eq_map, Value.toFields_eq_map,
      Fields.mapValues, List.map_map]
    refine congrArg Value.object (List.map_congr_left fun field member =>
      congrArg (Prod.mk field.1) (ih field member fun d inside => ?_))
    exact same d (flying_object fields ▸ List.mem_flatMap.mpr ⟨field, member, inside⟩)

end

theorem child?_mapFlying (f : Deferred Value → Deferred Value) (step : Step) (tree : Partial) :
    child? step (tree.mapFlying f) = (child? step tree).map (mapFlying f) := by
  cases step with
  | index i =>
    cases tree with
    | array items => rw [mapFlying_array, child?, child?, List.getElem?_map]
    | _ => rfl
  | key name =>
    cases tree with
    | object fields => rw [mapFlying_object, child?, child?, Fields.find?_mapValues]
    | _ => rfl

theorem putChild_mapFlying (f : Deferred Value → Deferred Value) (step : Step)
    (node tree : Partial) :
    putChild step (node.mapFlying f) (tree.mapFlying f) = (putChild step node tree).mapFlying f := by
  cases step with
  | index i =>
    cases tree with
    | array items => simp only [mapFlying_array, putChild, List.map_set]
    | _ => rfl
  | key name =>
    cases tree with
    | object fields => simp only [mapFlying_object, putChild, Fields.mapValues_put]
    | _ => rfl

theorem set?_mapFlying (f : Deferred Value → Deferred Value) (path : Path) (node tree : Partial) :
    set? path (node.mapFlying f) (tree.mapFlying f) =
      (set? path node tree).map (mapFlying f) := by
  induction path generalizing tree with
  | nil => rfl
  | cons step path ih =>
    rw [set?_cons, set?_cons, child?_mapFlying]
    cases child? step tree with
    | none => rfl
    | some child =>
      rw [Option.map_some, Option.bind_some, Option.bind_some, ih]
      cases set? path node child with
      | none => rfl
      | some changed => exact congrArg some (putChild_mapFlying f step changed tree)

theorem mapFlying_set (f : Deferred Value → Deferred Value) (tree : Partial) (path : Path)
    (node : Partial) :
    (tree.set path node).mapFlying f = (tree.mapFlying f).set path (node.mapFlying f) := by
  rw [set, set, set?_mapFlying]
  cases set? path node tree <;> rfl

theorem mem_flying_of_child? {step : Step} {tree old : Partial}
    (there : child? step tree = some old) {d : Deferred Value} (inside : d ∈ old.flying) :
    d ∈ tree.flying := by
  cases step with
  | index i =>
    cases tree with
    | array items =>
      rw [flying_array, List.mem_flatMap]
      exact ⟨old, List.mem_of_getElem? there, inside⟩
    | _ => cases there
  | key name =>
    cases tree with
    | object fields =>
      rw [flying_object, List.mem_flatMap]
      exact ⟨(name, old), Fields.mem_of_find? there, inside⟩
    | _ => cases there

theorem mem_flying_putChild {step : Step} {node tree : Partial} {d : Deferred Value}
    (member : d ∈ (putChild step node tree).flying) : d ∈ tree.flying ∨ d ∈ node.flying := by
  cases step with
  | index i =>
    cases tree with
    | array items =>
      rw [putChild, flying_array, List.mem_flatMap] at member
      rw [flying_array, List.mem_flatMap]
      obtain ⟨item, listed, inside⟩ := member
      rcases List.mem_or_eq_of_mem_set listed with kept | rfl
      · exact Or.inl ⟨item, kept, inside⟩
      · exact Or.inr inside
    | _ => exact Or.inl member
  | key name =>
    cases tree with
    | object fields =>
      rw [putChild, flying_object, List.mem_flatMap] at member
      rw [flying_object, List.mem_flatMap]
      obtain ⟨field, listed, inside⟩ := member
      refine Fields.forall_put (P := fun value => d ∈ value.flying →
        (∃ field ∈ fields, d ∈ field.2.flying) ∨ d ∈ node.flying) ?_ Or.inr field listed inside
      intro kept listed inside
      exact Or.inl ⟨kept, listed, inside⟩
    | _ => exact Or.inl member

theorem flying_of_set? {path : Path} {node tree changed : Partial}
    (found : set? path node tree = some changed) {d : Deferred Value}
    (member : d ∈ changed.flying) : d ∈ tree.flying ∨ d ∈ node.flying := by
  induction path generalizing tree changed with
  | nil =>
    cases found
    exact Or.inr member
  | cons step path ih =>
    obtain ⟨old, new, there, below, rfl⟩ := set?_cons_eq_some_iff.mp found
    rcases mem_flying_putChild member with kept | inside
    · exact Or.inl kept
    · exact (ih below inside).imp_left (mem_flying_of_child? there)

theorem mem_flying_set {path : Path} {node tree : Partial} {d : Deferred Value}
    (member : d ∈ (tree.set path node).flying) : d ∈ tree.flying ∨ d ∈ node.flying := by
  unfold set at member
  cases found : set? path node tree with
  | none =>
    rw [found] at member
    exact Or.inl member
  | some changed =>
    rw [found] at member
    exact flying_of_set? found member

end Partial

end LiveConfig
