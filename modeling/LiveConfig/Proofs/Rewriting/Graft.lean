import Mathlib.Data.List.Nodup
import LiveConfig.Proofs.Rewriting.Distinct
import LiveConfig.Walk

set_option autoImplicit false

namespace LiveConfig

namespace Value

mutual

/-- The tree with the given node for each of its strings, told by the path to it and its text. -/
def graft (node : Path → String → Partial) : Value → Partial
  | .text s => node [] s
  | .array items => .array (graftItems node 0 items)
  | .object fields => .object (graftFields node fields)
  | value => .ready value

def graftItems (node : Path → String → Partial) (index : Nat) : List Value → List Partial
  | [] => []
  | item :: rest =>
    graft (fun path => node (.index index :: path)) item :: graftItems node (index + 1) rest

def graftFields (node : Path → String → Partial) :
    List (String × Value) → List (String × Partial)
  | [] => []
  | (name, value) :: rest =>
    (name, graft (fun path => node (.key name :: path)) value) :: graftFields node rest

end

theorem inductionOn {motive : Value → Prop} (v : Value)
    (scalar : ∀ v : Value, (∀ s, v ≠ .text s) → (∀ items, v ≠ .array items) →
      (∀ fields, v ≠ .object fields) → motive v)
    (text : ∀ s, motive (.text s))
    (array : ∀ items : List Value, (∀ item ∈ items, motive item) → motive (.array items))
    (object : ∀ fields : List (String × Value), (∀ field ∈ fields, motive field.2) →
      motive (.object fields)) : motive v :=
  match v with
  | .null => scalar _ nofun nofun nofun
  | .bool _ => scalar _ nofun nofun nofun
  | .number _ => scalar _ nofun nofun nofun
  | .text s => text s
  | .array items => array items fun item _ => inductionOn item scalar text array object
  | .object fields => object fields fun field _ => inductionOn field.2 scalar text array object
termination_by sizeOf v
decreasing_by
  · have smaller := List.sizeOf_lt_of_mem ‹item ∈ items›
    simp only [Value.array.sizeOf_spec]
    omega
  · have smaller := List.sizeOf_lt_of_mem ‹field ∈ fields›
    obtain ⟨name, value⟩ := field
    simp only [Prod.mk.sizeOf_spec] at smaller
    simp only [Value.object.sizeOf_spec]
    omega

mutual

theorem strings_eq_map (path : Path) : ∀ v : Value,
    v.strings path = (v.strings []).map fun leaf => (path.reverse ++ leaf.1, leaf.2)
  | .null => rfl
  | .bool _ => rfl
  | .number _ => rfl
  | .text s => by simp [strings]
  | .array items => itemStrings_eq_map path 0 items
  | .object fields => fieldStrings_eq_map path fields

theorem itemStrings_eq_map (path : Path) : ∀ (index : Nat) (items : List Value),
    itemStrings path index items =
      (itemStrings [] index items).map fun leaf => (path.reverse ++ leaf.1, leaf.2)
  | _, [] => rfl
  | index, item :: rest => by
    rw [itemStrings, itemStrings, strings_eq_map (.index index :: path) item,
      strings_eq_map [.index index] item, itemStrings_eq_map path (index + 1) rest]
    simp [Function.comp_def]

theorem fieldStrings_eq_map (path : Path) : ∀ fields : List (String × Value),
    fieldStrings path fields =
      (fieldStrings [] fields).map fun leaf => (path.reverse ++ leaf.1, leaf.2)
  | [] => rfl
  | (name, value) :: rest => by
    rw [fieldStrings, fieldStrings, strings_eq_map (.key name :: path) value,
      strings_eq_map [.key name] value, fieldStrings_eq_map path rest]
    simp [Function.comp_def]

end

theorem itemStrings_cons (index : Nat) (item : Value) (rest : List Value) :
    itemStrings [] index (item :: rest) =
      (item.strings []).map (fun leaf => (.index index :: leaf.1, leaf.2)) ++
        itemStrings [] (index + 1) rest := by
  rw [itemStrings, strings_eq_map [.index index] item]
  rfl

theorem fieldStrings_cons (name : String) (value : Value) (rest : List (String × Value)) :
    fieldStrings [] ((name, value) :: rest) =
      (value.strings []).map (fun leaf => (.key name :: leaf.1, leaf.2)) ++
        fieldStrings [] rest := by
  rw [fieldStrings, strings_eq_map [.key name] value]
  rfl

theorem mem_itemStrings {leaf : Path × String} {index : Nat} {items : List Value} :
    leaf ∈ itemStrings [] index items ↔ ∃ i item inner, items[i]? = some item ∧
      inner ∈ item.strings [] ∧ leaf = (.index (index + i) :: inner.1, inner.2) := by
  induction items generalizing index with
  | nil => simp [itemStrings]
  | cons item rest ih =>
    rw [itemStrings_cons, List.mem_append, ih, List.mem_map]
    constructor
    · rintro (⟨inner, member, rfl⟩ | ⟨i, other, inner, found, member, rfl⟩)
      · exact ⟨0, item, inner, rfl, member, rfl⟩
      · exact ⟨i + 1, other, inner, found, member, by rw [Nat.add_right_comm, Nat.add_assoc]⟩
    · rintro ⟨i, other, inner, found, member, rfl⟩
      cases i with
      | zero =>
        obtain rfl : item = other := by simpa using found
        exact Or.inl ⟨inner, member, rfl⟩
      | succ i =>
        exact Or.inr ⟨i, other, inner, by simpa using found, member,
          by rw [Nat.add_right_comm, Nat.add_assoc]⟩

theorem mem_fieldStrings {leaf : Path × String} {fields : List (String × Value)} :
    leaf ∈ fieldStrings [] fields ↔ ∃ field ∈ fields, ∃ inner ∈ field.2.strings [],
      leaf = (.key field.1 :: inner.1, inner.2) := by
  induction fields with
  | nil => simp [fieldStrings]
  | cons field rest ih =>
    obtain ⟨name, value⟩ := field
    rw [fieldStrings_cons, List.mem_append, ih, List.mem_map, List.exists_mem_cons_iff]
    simp only [eq_comm]

theorem paths_below (step : Step) (leaves : List (Path × String)) :
    (leaves.map fun leaf => (step :: leaf.1, leaf.2)).map Prod.fst =
      (leaves.map Prod.fst).map (List.cons step) := by
  simp only [List.map_map, Function.comp_def]

theorem nodup_itemPaths {items : List Value}
    (each : ∀ item ∈ items, ((item.strings []).map Prod.fst).Nodup) (index : Nat) :
    ((itemStrings [] index items).map Prod.fst).Nodup := by
  induction items generalizing index with
  | nil => exact List.nodup_nil
  | cons item rest ih =>
    rw [itemStrings_cons, List.map_append, paths_below]
    have first := (each item List.mem_cons_self).map (List.cons_injective (a := .index index))
    have others := ih (fun other member => each other (List.mem_cons_of_mem _ member)) (index + 1)
    refine first.append others fun path here there => ?_
    obtain ⟨inner, _, rfl⟩ := List.mem_map.mp here
    obtain ⟨leaf, member, same⟩ := List.mem_map.mp there
    obtain ⟨i, _, _, _, _, rfl⟩ := mem_itemStrings.mp member
    simp only [List.cons.injEq, Step.index.injEq] at same
    omega

theorem nodup_fieldPaths {fields : Fields Value} (names : Fields.Distinct fields)
    (each : ∀ field ∈ fields, ((field.2.strings []).map Prod.fst).Nodup) :
    ((fieldStrings [] fields).map Prod.fst).Nodup := by
  induction fields with
  | nil => exact List.nodup_nil
  | cons field rest ih =>
    obtain ⟨name, value⟩ := field
    obtain ⟨fresh, distinct⟩ := List.nodup_cons.mp names
    rw [fieldStrings_cons, List.map_append, paths_below]
    have first := (each _ List.mem_cons_self).map (List.cons_injective (a := .key name))
    have others := ih distinct fun other member => each other (List.mem_cons_of_mem _ member)
    refine first.append others fun path here there => ?_
    obtain ⟨inner, _, rfl⟩ := List.mem_map.mp here
    obtain ⟨leaf, member, same⟩ := List.mem_map.mp there
    obtain ⟨field, listed, _, _, rfl⟩ := mem_fieldStrings.mp member
    simp only [List.cons.injEq, Step.key.injEq] at same
    exact fresh (List.mem_map.mpr ⟨field, listed, same.1⟩)

theorem nodup_paths {v : Value} (distinct : v.Distinct) :
    ((v.strings []).map Prod.fst).Nodup := by
  induction distinct with
  | null => exact List.nodup_nil
  | bool b => exact List.nodup_nil
  | number x => exact List.nodup_nil
  | text s => exact List.nodup_singleton _
  | array _ ih => exact nodup_itemPaths ih 0
  | object names _ ih => exact nodup_fieldPaths names ih

@[simp] theorem graft_text (node : Path → String → Partial) (s : String) :
    graft node (.text s) = node [] s := by rw [graft]

@[simp] theorem graft_array (node : Path → String → Partial) (items : List Value) :
    graft node (.array items) = .array (graftItems node 0 items) := by rw [graft]

@[simp] theorem graft_object (node : Path → String → Partial) (fields : List (String × Value)) :
    graft node (.object fields) = .object (graftFields node fields) := by rw [graft]

theorem graft_scalar (node : Path → String → Partial) {v : Value} (text : ∀ s, v ≠ .text s)
    (array : ∀ items, v ≠ .array items) (object : ∀ fields, v ≠ .object fields) :
    graft node v = .ready v := by
  cases v with
  | null => rw [graft] <;> nofun
  | bool b => rw [graft] <;> nofun
  | number x => rw [graft] <;> nofun
  | text s => exact absurd rfl (text s)
  | array items => exact absurd rfl (array items)
  | object fields => exact absurd rfl (object fields)

theorem getElem?_graftItems (node : Path → String → Partial) (index : Nat) (items : List Value)
    (i : Nat) : (graftItems node index items)[i]? =
      items[i]?.map (graft fun path => node (.index (index + i) :: path)) := by
  induction items generalizing index i with
  | nil => simp [graftItems]
  | cons item rest ih =>
    cases i with
    | zero => simp [graftItems]
    | succ i =>
      rw [graftItems, List.getElem?_cons_succ, List.getElem?_cons_succ, ih, Nat.add_right_comm,
        Nat.add_assoc]

theorem length_graftItems (node : Path → String → Partial) (index : Nat) (items : List Value) :
    (graftItems node index items).length = items.length := by
  induction items generalizing index with
  | nil => simp [graftItems]
  | cons item rest ih => simp [graftItems, ih]

theorem graftFields_eq_map (node : Path → String → Partial) (fields : List (String × Value)) :
    graftFields node fields =
      fields.map fun field => (field.1, field.2.graft fun path => node (.key field.1 :: path)) := by
  induction fields with
  | nil => simp [graftFields]
  | cons field rest ih => simp [graftFields, ih]

theorem graft_congr : ∀ (v : Value) {node node' : Path → String → Partial},
    (∀ leaf ∈ v.strings [], node leaf.1 leaf.2 = node' leaf.1 leaf.2) →
      v.graft node = v.graft node' := by
  intro v
  induction v using inductionOn with
  | scalar v text array object =>
    intro node node' _
    rw [graft_scalar node text array object, graft_scalar node' text array object]
  | text s =>
    intro node node' same
    simpa using same ([], s) (List.mem_singleton_self _)
  | array items ih =>
    intro node node' same
    rw [graft_array, graft_array]
    refine congrArg Partial.array (List.ext_getElem? fun i => ?_)
    rw [getElem?_graftItems, getElem?_graftItems]
    cases found : items[i]? with
    | none => rfl
    | some item =>
      refine congrArg some (ih item (List.mem_of_getElem? found) ?_)
      intro inner member
      exact same _ (mem_itemStrings.mpr ⟨i, item, inner, found, member, rfl⟩)
  | object fields ih =>
    intro node node' same
    rw [graft_object, graft_object, graftFields_eq_map, graftFields_eq_map]
    refine congrArg Partial.object (List.map_congr_left fun field member => ?_)
    refine congrArg (Prod.mk field.1) (ih field member ?_)
    intro inner inside
    exact same _ (mem_fieldStrings.mpr ⟨field, member, inner, inside, rfl⟩)

/-- Another node for the string at a path. -/
def replaced (node : Path → String → Partial) (path : Path) (new : Partial) (other : Path)
    (text : String) : Partial :=
  if other = path then new else node other text

theorem replaced_cons (node : Path → String → Partial) (step : Step) (path : Path) (new : Partial) :
    (fun other => replaced node (step :: path) new (step :: other)) =
      replaced (fun other => node (step :: other)) path new := by
  funext other text
  simp [replaced]

theorem replaced_of_ne (node : Path → String → Partial) {step step' : Step} (differ : step' ≠ step)
    (path : Path) (new : Partial) :
    (fun other => replaced node (step :: path) new (step' :: other)) =
      fun other => node (step' :: other) := by
  funext other text
  simp [replaced, differ]

theorem find?_graftFields (node : Path → String → Partial) (name : String)
    (fields : Fields Value) :
    Fields.find? name (graftFields node fields) =
      (Fields.find? name fields).map (graft fun path => node (.key name :: path)) := by
  induction fields with
  | nil => rfl
  | cons field rest ih =>
    obtain ⟨key, value⟩ := field
    by_cases same : key = name
    · simp [graftFields, Fields.find?, same]
    · simpa [graftFields, Fields.find?, same] using ih

theorem find?_of_mem {α : Type} {fields : Fields α} (names : Fields.Distinct fields)
    {field : String × α} (member : field ∈ fields) :
    Fields.find? field.1 fields = some field.2 := by
  induction fields with
  | nil => cases member
  | cons first rest ih =>
    obtain ⟨key, value⟩ := first
    obtain ⟨fresh, distinct⟩ := List.nodup_cons.mp names
    rcases List.mem_cons.mp member with rfl | later
    · simp [Fields.find?]
    · have differ : key ≠ field.1 := fun same =>
        fresh (List.mem_map.mpr ⟨field, later, same.symm⟩)
      simpa [Fields.find?, differ] using ih distinct later

theorem set_graftItems (node : Path → String → Partial) {items : List Value} {i : Nat}
    {item : Value} (found : items[i]? = some item) (path : Path) (new : Partial) :
    (graftItems node 0 items).set i
        (item.graft (replaced (fun other => node (.index i :: other)) path new)) =
      graftItems (replaced node (.index i :: path) new) 0 items := by
  refine List.ext_getElem? fun j => ?_
  rw [getElem?_graftItems, Nat.zero_add, List.getElem?_set, getElem?_graftItems, Nat.zero_add]
  by_cases same : i = j
  · subst same
    have inside : i < items.length := (List.getElem?_eq_some_iff.mp found).1
    rw [if_pos rfl, if_pos ((length_graftItems node 0 items).symm ▸ inside), found, replaced_cons]
    rfl
  · have differ : Step.index j ≠ .index i := fun equal => same (Step.index.inj equal).symm
    rw [if_neg same, replaced_of_ne node differ]

theorem put_graftFields (node : Path → String → Partial) {fields : Fields Value}
    (names : Fields.Distinct fields) {field : String × Value} (member : field ∈ fields)
    (path : Path) (new : Partial) :
    Fields.put field.1
        (field.2.graft (replaced (fun other => node (.key field.1 :: other)) path new))
        (graftFields node fields) =
      graftFields (replaced node (.key field.1 :: path) new) fields := by
  induction fields with
  | nil => cases member
  | cons first rest ih =>
    obtain ⟨key, value⟩ := first
    obtain ⟨fresh, distinct⟩ := List.nodup_cons.mp names
    rcases List.mem_cons.mp member with rfl | later
    · have others : graftFields (replaced node (.key key :: path) new) rest =
          graftFields node rest := by
        rw [graftFields_eq_map, graftFields_eq_map]
        refine List.map_congr_left fun other listed => ?_
        have differ : Step.key other.1 ≠ .key key := fun equal =>
          fresh (List.mem_map.mpr ⟨other, listed, Step.key.inj equal⟩)
        rw [replaced_of_ne node differ]
      rw [graftFields, graftFields, Fields.put, if_pos rfl, others, replaced_cons]
    · have differ : key ≠ field.1 := fun same =>
        fresh (List.mem_map.mpr ⟨field, later, same.symm⟩)
      have apart : Step.key key ≠ .key field.1 := fun equal => differ (Step.key.inj equal)
      rw [graftFields, graftFields, Fields.put, if_neg differ, ih distinct later,
        replaced_of_ne node apart]

theorem get?_graft {v : Value} (distinct : v.Distinct) {leaf : Path × String}
    (member : leaf ∈ v.strings []) (node : Path → String → Partial) :
    (v.graft node).get? leaf.1 = some (node leaf.1 leaf.2) := by
  induction distinct generalizing leaf node with
  | null => cases member
  | bool b => cases member
  | number x => cases member
  | text s =>
    obtain rfl := List.mem_singleton.mp member
    simp [Partial.get?]
  | array _ ih =>
    obtain ⟨i, item, inner, found, inside, rfl⟩ := mem_itemStrings.mp member
    have below := ih item (List.mem_of_getElem? found) inside fun path => node (.index i :: path)
    simp [Partial.get?, getElem?_graftItems, found, below]
  | object names _ ih =>
    obtain ⟨field, listed, inner, inside, rfl⟩ := mem_fieldStrings.mp member
    have below := ih field listed inside fun path => node (.key field.1 :: path)
    simp [Partial.get?, find?_graftFields, find?_of_mem names listed, below]

/-- Writing at the path of a string finds the path and replaces the node of this string alone. -/
theorem set?_graft {v : Value} (distinct : v.Distinct) {leaf : Path × String}
    (member : leaf ∈ v.strings []) (node : Path → String → Partial) (new : Partial) :
    Partial.set? leaf.1 new (v.graft node) = some (v.graft (replaced node leaf.1 new)) := by
  induction distinct generalizing leaf node with
  | null => cases member
  | bool b => cases member
  | number x => cases member
  | text s =>
    obtain rfl := List.mem_singleton.mp member
    simp [Partial.set?, replaced]
  | array _ ih =>
    obtain ⟨i, item, inner, found, inside, rfl⟩ := mem_itemStrings.mp member
    have below := ih item (List.mem_of_getElem? found) inside fun path => node (.index i :: path)
    simp [Partial.set?, getElem?_graftItems, found, below, set_graftItems node found]
  | object names _ ih =>
    obtain ⟨field, listed, inner, inside, rfl⟩ := mem_fieldStrings.mp member
    have below := ih field listed inside fun path => node (.key field.1 :: path)
    simp [Partial.set?, find?_graftFields, find?_of_mem names listed, below,
      put_graftFields node names listed]

mutual

theorem ofValue_eq_graft : ∀ v : Value,
    Partial.ofValue v = v.graft fun _ text => .ready (.text text)
  | .null => by rw [graft_scalar] <;> first | rfl | nofun
  | .bool _ => by rw [graft_scalar] <;> first | rfl | nofun
  | .number _ => by rw [graft_scalar] <;> first | rfl | nofun
  | .text _ => by rw [graft_text]; rfl
  | .array items => by
    rw [graft_array, Partial.ofValue, ofItems_eq_graftItems 0 items]
  | .object fields => by
    rw [graft_object, Partial.ofValue, ofFields_eq_graftFields fields]

theorem ofItems_eq_graftItems : ∀ (index : Nat) (items : List Value),
    Partial.ofItems items = graftItems (fun _ text => .ready (.text text)) index items
  | _, [] => by rw [graftItems, Partial.ofItems]
  | index, item :: rest => by
    rw [graftItems, Partial.ofItems, ofValue_eq_graft item, ofItems_eq_graftItems (index + 1) rest]

theorem ofFields_eq_graftFields : ∀ fields : List (String × Value),
    Partial.ofFields fields = graftFields (fun _ text => .ready (.text text)) fields
  | [] => by rw [graftFields, Partial.ofFields]
  | (name, value) :: rest => by
    rw [graftFields, Partial.ofFields, ofValue_eq_graft value, ofFields_eq_graftFields rest]

end

theorem toItems_eq_map (calls : Calls) (items : List Partial) :
    Partial.toItems calls items = items.map (Partial.toValue calls) := by
  induction items with
  | nil => rfl
  | cons item rest ih => rw [Partial.toItems, ih, List.map_cons]

theorem toFields_eq_map (calls : Calls) (fields : List (String × Partial)) :
    Partial.toFields calls fields = fields.map fun field => (field.1, field.2.toValue calls) := by
  induction fields with
  | nil => rfl
  | cons field rest ih => rw [Partial.toFields, ih, List.map_cons]

theorem toValue_graft_congr {calls calls' : Calls} : ∀ (v : Value)
    {node node' : Path → String → Partial},
    (∀ leaf ∈ v.strings [],
      (node leaf.1 leaf.2).toValue calls = (node' leaf.1 leaf.2).toValue calls') →
      (v.graft node).toValue calls = (v.graft node').toValue calls' := by
  intro v
  induction v using inductionOn with
  | scalar v text array object =>
    intro node node' _
    rw [graft_scalar node text array object, graft_scalar node' text array object]
    rfl
  | text s =>
    intro node node' same
    simpa using same ([], s) (List.mem_singleton_self _)
  | array items ih =>
    intro node node' same
    rw [graft_array, graft_array, Partial.toValue, Partial.toValue, toItems_eq_map, toItems_eq_map]
    refine congrArg Value.array (List.ext_getElem? fun i => ?_)
    rw [List.getElem?_map, List.getElem?_map, getElem?_graftItems, getElem?_graftItems]
    cases found : items[i]? with
    | none => rfl
    | some item =>
      refine congrArg some (ih item (List.mem_of_getElem? found) ?_)
      intro inner member
      exact same _ (mem_itemStrings.mpr ⟨i, item, inner, found, member, rfl⟩)
  | object fields ih =>
    intro node node' same
    rw [graft_object, graft_object, Partial.toValue, Partial.toValue, toFields_eq_map,
      toFields_eq_map, graftFields_eq_map, graftFields_eq_map, List.map_map, List.map_map]
    refine congrArg Value.object (List.map_congr_left fun field member => ?_)
    refine congrArg (Prod.mk field.1) (ih field member ?_)
    intro inner inside
    exact same _ (mem_fieldStrings.mpr ⟨field, member, inner, inside, rfl⟩)

theorem itemsSettled_iff (calls : Calls) (items : List Partial) :
    Partial.itemsSettled calls items = true ↔ ∀ item ∈ items, item.isSettled calls = true := by
  induction items with
  | nil => simp [Partial.itemsSettled]
  | cons item rest ih => simp [Partial.itemsSettled, ih]

theorem fieldsSettled_iff (calls : Calls) (fields : List (String × Partial)) :
    Partial.fieldsSettled calls fields = true ↔
      ∀ field ∈ fields, field.2.isSettled calls = true := by
  induction fields with
  | nil => simp [Partial.fieldsSettled]
  | cons field rest ih => simp [Partial.fieldsSettled, ih]

theorem isSettled_graft_iff (calls : Calls) : ∀ (v : Value) {node : Path → String → Partial},
    (v.graft node).isSettled calls = true ↔
      ∀ leaf ∈ v.strings [], (node leaf.1 leaf.2).isSettled calls = true := by
  intro v
  induction v using inductionOn with
  | scalar v text array object =>
    intro node
    rw [graft_scalar node text array object]
    refine iff_of_true rfl fun leaf member => ?_
    cases v with
    | text s => exact absurd rfl (text s)
    | array items => exact absurd rfl (array items)
    | object fields => exact absurd rfl (object fields)
    | null => cases member
    | bool b => cases member
    | number x => cases member
  | text s =>
    intro node
    simp [strings]
  | array items ih =>
    intro node
    rw [graft_array, Partial.isSettled, itemsSettled_iff]
    constructor
    · rintro settled leaf member
      obtain ⟨i, item, inner, found, inside, rfl⟩ := mem_itemStrings.mp member
      have part : (graftItems node 0 items)[i]? = _ := getElem?_graftItems node 0 items i
      rw [found, Option.map_some] at part
      exact (ih item (List.mem_of_getElem? found)).mp
        (settled _ (List.mem_of_getElem? part)) inner inside
    · intro settled part member
      obtain ⟨i, found⟩ := List.getElem?_of_mem member
      rw [getElem?_graftItems, Option.map_eq_some_iff] at found
      obtain ⟨item, found, rfl⟩ := found
      refine (ih item (List.mem_of_getElem? found)).mpr fun inner inside => ?_
      exact settled _ (mem_itemStrings.mpr ⟨i, item, inner, found, inside, rfl⟩)
  | object fields ih =>
    intro node
    rw [graft_object, Partial.isSettled, fieldsSettled_iff, graftFields_eq_map]
    constructor
    · intro settled leaf member
      obtain ⟨field, listed, inner, inside, rfl⟩ := mem_fieldStrings.mp member
      exact (ih field listed).mp (settled _ (List.mem_map_of_mem listed)) inner inside
    · intro settled part member
      obtain ⟨field, listed, rfl⟩ := List.mem_map.mp member
      refine (ih field listed).mpr fun inner inside => ?_
      exact settled _ (mem_fieldStrings.mpr ⟨field, listed, inner, inside, rfl⟩)

end Value

end LiveConfig
