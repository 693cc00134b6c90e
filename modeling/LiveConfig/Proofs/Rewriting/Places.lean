import LiveConfig.Partial

set_option autoImplicit false

namespace LiveConfig

namespace Fields

variable {α : Type}

theorem mem_names_of_find? {name : String} {value : α} {fields : Fields α}
    (found : find? name fields = some value) : name ∈ names fields := by
  by_cases known : name ∈ names fields
  · exact known
  · rw [(find?_eq_none_iff name fields).mpr known] at found
    cases found

theorem put_put_self (name : String) (first second : α) (fields : Fields α) :
    put name second (put name first fields) = put name second fields := by
  induction fields with
  | nil => simp [put]
  | cons entry rest ih =>
    obtain ⟨key, old⟩ := entry
    by_cases same : key = name
    · simp [put, same]
    · simp [put, same, ih]

/-- The order of two values matters only when both names are new. -/
theorem put_comm {name other : String} {fields : Fields α} (known : name ∈ names fields)
    (differ : other ≠ name) (value entry : α) :
    put other entry (put name value fields) = put name value (put other entry fields) := by
  induction fields with
  | nil => cases known
  | cons first rest ih =>
    obtain ⟨key, old⟩ := first
    by_cases here : key = name
    · subst here
      simp [put, Ne.symm differ]
    · have later : name ∈ names rest := (List.mem_cons.mp known).resolve_left (Ne.symm here)
      by_cases there : key = other
      · subst there
        simp [put, differ]
      · simp [put, here, there, ih later]

end Fields

/-- Neither of the two places is above the other or the same. -/
def Path.Apart (path other : Path) : Prop :=
  ¬ path <+: other ∧ ¬ other <+: path

theorem Path.Apart.symm {path other : Path} (apart : path.Apart other) : other.Apart path :=
  And.symm apart

theorem Path.not_apart_nil (path : Path) : ¬ Path.Apart path [] :=
  fun apart => apart.2 List.nil_prefix

theorem Path.apart_cons {step other : Step} {path rest : Path} :
    Path.Apart (step :: path) (other :: rest) ↔ (other = step → Path.Apart path rest) := by
  unfold Apart
  rw [List.cons_prefix_cons, List.cons_prefix_cons]
  by_cases same : other = step
  · simp [same]
  · simp [same, Ne.symm same]

namespace Partial

/-- The node one step below. -/
def child? : Step → Partial → Option Partial
  | .index i, .array items => items[i]?
  | .key name, .object fields => Fields.find? name fields
  | _, _ => none

/-- The tree with another node one step below. -/
def putChild : Step → Partial → Partial → Partial
  | .index i, node, .array items => .array (items.set i node)
  | .key name, node, .object fields => .object (Fields.put name node fields)
  | _, _, tree => tree

/-- What a node shows without the nodes below it: how many items it has, or its names in order. -/
inductive Outline where
  | leaf
  | items (length : Nat)
  | names (names : List String)

def outline : Partial → Outline
  | .array items => .items items.length
  | .object fields => .names (Fields.names fields)
  | _ => .leaf

section

variable {step other : Step} {tree old : Partial}

theorem child?_putChild_self (there : child? step tree = some old) (node : Partial) :
    child? step (putChild step node tree) = some node := by
  cases step with
  | index i =>
    cases tree with
    | array items =>
      have inside : i < items.length := (List.getElem?_eq_some_iff.mp there).1
      rw [putChild, child?, List.getElem?_set_self inside]
    | _ => cases there
  | key name =>
    cases tree with
    | object fields => exact Fields.find?_put_self name node fields
    | _ => cases there

theorem child?_putChild_other (differ : other ≠ step) (node : Partial) :
    child? other (putChild step node tree) = child? other tree := by
  cases step with
  | index i =>
    cases tree with
    | array items =>
      cases other with
      | index j =>
        have apart : i ≠ j := fun same => differ (congrArg Step.index same.symm)
        rw [putChild, child?, child?, List.getElem?_set_ne apart]
      | key name => rfl
    | _ => rfl
  | key name =>
    cases tree with
    | object fields =>
      cases other with
      | index j => rfl
      | key name' =>
        have apart : name' ≠ name := fun same => differ (congrArg Step.key same)
        exact Fields.find?_put_other name name' node fields apart
    | _ => rfl

theorem putChild_putChild_self (step : Step) (first second tree : Partial) :
    putChild step second (putChild step first tree) = putChild step second tree := by
  cases step with
  | index i =>
    cases tree with
    | array items => rw [putChild, putChild, putChild, List.set_set]
    | _ => rfl
  | key name =>
    cases tree with
    | object fields => rw [putChild, putChild, putChild, Fields.put_put_self]
    | _ => rfl

theorem putChild_comm (there : child? step tree = some old) (differ : other ≠ step)
    (first second : Partial) :
    putChild other second (putChild step first tree) =
      putChild step first (putChild other second tree) := by
  cases step with
  | index i =>
    cases tree with
    | array items =>
      cases other with
      | index j =>
        have apart : i ≠ j := fun same => differ (congrArg Step.index same.symm)
        exact congrArg Partial.array (List.set_comm first second apart)
      | key name => rfl
    | _ => cases there
  | key name =>
    cases tree with
    | object fields =>
      cases other with
      | index j => rfl
      | key name' =>
        have apart : name' ≠ name := fun same => differ (congrArg Step.key same)
        exact congrArg Partial.object
          (Fields.put_comm (Fields.mem_names_of_find? there) apart first second)
    | _ => cases there

theorem outline_putChild (there : child? step tree = some old) (node : Partial) :
    (putChild step node tree).outline = tree.outline := by
  cases step with
  | index i =>
    cases tree with
    | array items => exact congrArg Outline.items (List.length_set ..)
    | _ => cases there
  | key name =>
    cases tree with
    | object fields =>
      rw [putChild, outline, outline, Fields.names_put, if_pos (Fields.mem_names_of_find? there)]
    | _ => cases there

end

theorem get?_cons (step : Step) (path : Path) (tree : Partial) :
    get? (step :: path) tree = (child? step tree).bind (get? path) := by
  cases step <;> cases tree <;> rfl

theorem set?_cons (step : Step) (path : Path) (node tree : Partial) :
    set? (step :: path) node tree =
      ((child? step tree).bind (set? path node)).map fun changed => putChild step changed tree := by
  cases step <;> cases tree <;> rfl

theorem set?_cons_eq_some_iff {step : Step} {path : Path} {node tree changed : Partial} :
    set? (step :: path) node tree = some changed ↔ ∃ old new, child? step tree = some old ∧
      set? path node old = some new ∧ putChild step new tree = changed := by
  rw [set?_cons, Option.map_eq_some_iff]
  simp only [Option.bind_eq_some_iff]
  constructor
  · rintro ⟨new, ⟨old, there, below⟩, done⟩
    exact ⟨old, new, there, below, done⟩
  · rintro ⟨old, new, there, below, done⟩
    exact ⟨new, ⟨old, there, below⟩, done⟩

theorem get?_append (path rest : Path) (tree : Partial) :
    get? (path ++ rest) tree = (get? path tree).bind (get? rest) := by
  induction path generalizing tree with
  | nil => rfl
  | cons step path ih =>
    rw [List.cons_append, get?_cons, get?_cons, Option.bind_assoc]
    exact congrArg (Option.bind _) (funext ih)

theorem isSome_set? (path : Path) (node tree : Partial) :
    (set? path node tree).isSome = (get? path tree).isSome := by
  induction path generalizing tree with
  | nil => rfl
  | cons step path ih =>
    rw [set?_cons, get?_cons, Option.isSome_map]
    cases child? step tree with
    | none => rfl
    | some old => exact ih old

section

variable {path other : Path} {node tree changed : Partial}

theorem get?_of_set? (written : set? path node tree = some changed) :
    get? path changed = some node := by
  induction path generalizing tree changed with
  | nil => exact congrArg some (Option.some.inj written).symm
  | cons step path ih =>
    obtain ⟨old, new, there, below, rfl⟩ := set?_cons_eq_some_iff.mp written
    rw [get?_cons, child?_putChild_self there]
    exact ih below

/-- Where the two paths part, the other one goes through a node that was not touched. -/
theorem get?_apart_of_set? (written : set? path node tree = some changed)
    (apart : path.Apart other) : get? other changed = get? other tree := by
  induction path generalizing tree changed other with
  | nil => exact absurd apart.symm (Path.not_apart_nil other)
  | cons step path ih =>
    obtain ⟨old, new, there, below, rfl⟩ := set?_cons_eq_some_iff.mp written
    cases other with
    | nil => exact absurd apart (Path.not_apart_nil _)
    | cons step' rest =>
      rw [get?_cons, get?_cons]
      by_cases same : step' = step
      · subst same
        rw [child?_putChild_self there, there]
        exact ih below (Path.apart_cons.mp apart rfl)
      · rw [child?_putChild_other same]

theorem outline_above_of_set? (written : set? path node tree = some changed) {above : Path}
    (leads : above <+: path) (proper : above ≠ path) :
    ∃ before after, get? above tree = some before ∧ get? above changed = some after ∧
      after.outline = before.outline := by
  induction path generalizing tree changed above with
  | nil => exact absurd (List.prefix_nil.mp leads) proper
  | cons step path ih =>
    obtain ⟨old, new, there, below, rfl⟩ := set?_cons_eq_some_iff.mp written
    cases above with
    | nil => exact ⟨tree, _, rfl, rfl, outline_putChild there new⟩
    | cons step' above =>
      obtain ⟨rfl, further⟩ := List.cons_prefix_cons.mp leads
      rw [get?_cons, get?_cons, child?_putChild_self there, there]
      exact ih below further fun same => proper (congrArg _ same)

/-- The first of two writes apart from each other can as well be the second. -/
theorem set?_swap {first second written done : Partial} (apart : path.Apart other)
    (one : set? path first tree = some written) (two : set? other second written = some done) :
    ∃ swapped, set? other second tree = some swapped ∧ set? path first swapped = some done := by
  induction path generalizing tree written done other with
  | nil => exact absurd apart.symm (Path.not_apart_nil other)
  | cons step path ih =>
    cases other with
    | nil => exact absurd apart (Path.not_apart_nil _)
    | cons step' rest =>
      obtain ⟨old, new, there, below, rfl⟩ := set?_cons_eq_some_iff.mp one
      obtain ⟨old', new', there', below', rfl⟩ := set?_cons_eq_some_iff.mp two
      -- Either both writes go on below one node, or the paths part here.
      by_cases same : step' = step
      · subst same
        rw [child?_putChild_self there] at there'
        cases there'
        obtain ⟨swapped, one', two'⟩ := ih (Path.apart_cons.mp apart rfl) below below'
        refine ⟨putChild step' swapped tree,
          set?_cons_eq_some_iff.mpr ⟨old, swapped, there, one', rfl⟩,
          set?_cons_eq_some_iff.mpr ⟨swapped, new', child?_putChild_self there _, two', ?_⟩⟩
        rw [putChild_putChild_self, putChild_putChild_self]
      · rw [child?_putChild_other same] at there'
        have untouched : child? step (putChild step' new' tree) = child? step tree :=
          child?_putChild_other (Ne.symm same) new'
        exact ⟨putChild step' new' tree,
          set?_cons_eq_some_iff.mpr ⟨old', new', there', below', rfl⟩,
          set?_cons_eq_some_iff.mpr ⟨old, new, untouched.trans there, below,
            (putChild_comm there same new new').symm⟩⟩

theorem set?_bind_comm (apart : path.Apart other) (first second tree : Partial) :
    (set? path first tree).bind (set? other second) =
      (set? other second tree).bind (set? path first) := by
  apply Option.ext
  intro done
  rw [Option.bind_eq_some_iff, Option.bind_eq_some_iff]
  constructor
  · rintro ⟨written, one, two⟩
    exact set?_swap apart one two
  · rintro ⟨written, two, one⟩
    exact set?_swap apart.symm two one

end

section

variable {path other : Path} {node tree : Partial}

theorem set_eq_of_set? {changed : Partial} (written : set? path node tree = some changed) :
    tree.set path node = changed := by
  rw [set, written, Option.getD_some]

theorem set_eq_self (missing : set? path node tree = none) : tree.set path node = tree := by
  rw [set, missing, Option.getD_none]

theorem get?_set_apart (tree : Partial) (apart : path.Apart other) (node : Partial) :
    get? other (tree.set path node) = get? other tree := by
  cases written : set? path node tree with
  | none => rw [set_eq_self written]
  | some changed =>
    rw [set_eq_of_set? written]
    exact get?_apart_of_set? written apart

theorem isSome_set?_set (tree : Partial) (apart : path.Apart other) (first second : Partial) :
    (set? other second (tree.set path first)).isSome = (set? other second tree).isSome := by
  rw [isSome_set?, isSome_set?, get?_set_apart tree apart]

/-- A write that finds no place leaves nothing to be ordered; two that find one commute. -/
theorem set_comm (tree : Partial) (apart : path.Apart other) (first second : Partial) :
    (tree.set path first).set other second = (tree.set other second).set path first := by
  have here := isSome_set?_set tree apart.symm second first
  have there := isSome_set?_set tree apart first second
  cases one : set? path first tree with
  | none =>
    rw [one, Option.isSome_none, Option.isSome_eq_false_iff, Option.isNone_iff_eq_none] at here
    rw [set_eq_self one, set_eq_self here]
  | some written =>
    cases two : set? other second tree with
    | none =>
      rw [two, Option.isSome_none, Option.isSome_eq_false_iff, Option.isNone_iff_eq_none] at there
      rw [set_eq_self two, set_eq_self there]
    | some swapped =>
      rw [set_eq_of_set? one, two, Option.isSome_some, Option.isSome_iff_exists] at there
      obtain ⟨done, last⟩ := there
      have both := set?_bind_comm apart first second tree
      rw [one, two, Option.bind_some, Option.bind_some, last] at both
      rw [set_eq_of_set? one, set_eq_of_set? two, set_eq_of_set? last, set_eq_of_set? both.symm]

end

/-- A write succeeds exactly where there is a place, and else changes nothing. Where it succeeds,
the place holds what was written, with everything below it, and the containers above keep their
lengths and the order of their names. Places apart from it read as before and can be written exactly
when they could, and the order of two such writes does not matter. -/
theorem set_changes_own_place_only (tree : Partial) (path : Path) (node : Partial) :
    (set? path node tree).isSome = (tree.get? path).isSome ∧
    ((set? path node tree).isSome = false → tree.set path node = tree) ∧
    ((set? path node tree).isSome = true →
      (tree.set path node).get? path = some node ∧
      (∀ rest, (tree.set path node).get? (path ++ rest) = node.get? rest) ∧
      ∀ above, above <+: path → above ≠ path → ∃ before after,
        tree.get? above = some before ∧ (tree.set path node).get? above = some after ∧
          after.outline = before.outline) ∧
    ∀ other, path.Apart other →
      (tree.set path node).get? other = tree.get? other ∧
      ∀ second,
        (set? other second (tree.set path node)).isSome = (set? other second tree).isSome ∧
        (tree.set path node).set other second = (tree.set other second).set path node := by
  refine ⟨isSome_set? path node tree, fun missing => ?_, fun placed => ?_, fun other apart => ?_⟩
  · rw [Option.isSome_eq_false_iff, Option.isNone_iff_eq_none] at missing
    exact set_eq_self missing
  · obtain ⟨changed, written⟩ := Option.isSome_iff_exists.mp placed
    have here := get?_of_set? written
    rw [set_eq_of_set? written]
    refine ⟨here, fun rest => ?_, fun above leads proper =>
      outline_above_of_set? written leads proper⟩
    rw [get?_append, here, Option.bind_some]
  · exact ⟨get?_set_apart tree apart node, fun second =>
      ⟨isSome_set?_set tree apart node second, set_comm tree apart node second⟩⟩

/-- A card with a type and two rows. -/
def card : Partial :=
  .object [("type", .ready (.text "entities")),
    ("rows", .array [.ready (.text "a"), .ready (.text "b")])]

def secondRow : Path :=
  [.key "rows", .index 1]

/-- The second row is written, before or after the type. -/
theorem set_second_row :
    (set? secondRow (.array [.ready .null]) card).isSome = true ∧
    secondRow.Apart [.key "type"] ∧
    (card.set secondRow (.array [.ready .null])).get? (secondRow ++ [.index 0]) =
      some (.ready .null) ∧
    (∃ after, (card.set secondRow (.array [.ready .null])).get? [.key "rows"] = some after ∧
      after.outline = .items 2) ∧
    (card.set secondRow (.array [.ready .null])).get? [.key "type"] =
      some (.ready (.text "entities")) ∧
    (card.set secondRow (.array [.ready .null])).set [.key "type"] (.ready .null) =
      (card.set [.key "type"] (.ready .null)).set secondRow (.array [.ready .null]) := by
  obtain ⟨-, -, placed, beside⟩ := set_changes_own_place_only card secondRow (.array [.ready .null])
  obtain ⟨-, below, above⟩ := placed rfl
  have apart : secondRow.Apart [.key "type"] := by
    constructor <;> decide
  obtain ⟨kept, order⟩ := beside _ apart
  obtain ⟨before, after, there, here, same⟩ := above [.key "rows"] (by decide) (by decide)
  cases there
  exact ⟨rfl, apart, below [.index 0], ⟨after, here, same⟩, kept, (order _).2⟩

end Partial

end LiveConfig
