import LiveConfig.Proofs.Rewriting.Flying
import LiveConfig.Proofs.Rewriting.Verdict

set_option autoImplicit false

/- Trees in which nothing is left of the calls but what they will come to. An expression that is
evaluated while calls are under way sees no more of a tree than this, and the calls have the same
numbers in no two journals, so trees of different runs are compared in this form. -/

namespace LiveConfig

/-- A result in flight of which nothing is known but what it will be. -/
def Deferred.bound {α : Type} (value : α) : Deferred α where
  calls := [0]
  read _ := value
  read_congr _ _ _ := rfl

theorem Deferred.value?_bound {α : Type} (value : α) : (bound value).value? [] = none := rfl

namespace Partial

mutual

/-- The tree in which every leaf under way is known to come to what it reads as. -/
def foretell (answers : Answers) : Partial → Partial
  | .ready value => .ready value
  | .array items => .array (itemsForetold answers items)
  | .object fields => .object (fieldsForetold answers fields)
  | .pending d => .pending (.bound (d.read answers))

def itemsForetold (answers : Answers) : List Partial → List Partial
  | [] => []
  | item :: rest => foretell answers item :: itemsForetold answers rest

def fieldsForetold (answers : Answers) : List (String × Partial) → List (String × Partial)
  | [] => []
  | (name, value) :: rest => (name, foretell answers value) :: fieldsForetold answers rest

end

theorem foretell_eq_mapFlying (answers : Answers) (tree : Partial) :
    tree.foretell answers = tree.mapFlying fun d => .bound (d.read answers) := by
  have items_eq (items : List Partial) :
      itemsForetold answers items = items.map (foretell answers) := by
    induction items with
    | nil => rfl
    | cons item rest ih => rw [itemsForetold, ih, List.map_cons]
  have fields_eq (fields : List (String × Partial)) :
      fieldsForetold answers fields = Fields.mapValues (foretell answers) fields := by
    induction fields with
    | nil => rfl
    | cons field rest ih =>
      rw [fieldsForetold, ih]
      rfl
  induction tree using inductionOn with
  | ready value => rfl
  | pending d => rfl
  | array items ih =>
    rw [foretell, items_eq, mapFlying_array]
    exact congrArg Partial.array (List.map_congr_left ih)
  | object fields ih =>
    rw [foretell, fields_eq, mapFlying_object]
    exact congrArg Partial.object (List.map_congr_left fun field member =>
      congrArg (Prod.mk field.1) (ih field member))

theorem foretell_congr {answers answers' : Answers} {tree : Partial}
    (agree : ∀ d ∈ tree.flying, d.read answers = d.read answers') :
    tree.foretell answers = tree.foretell answers' := by
  rw [foretell_eq_mapFlying, foretell_eq_mapFlying]
  exact mapFlying_congr fun d member => congrArg Deferred.bound (agree d member)

theorem foretell_eq_self {tree : Partial} (landed : tree.flying = []) (answers : Answers) :
    tree.foretell answers = tree := by
  rw [foretell_eq_mapFlying]
  apply mapFlying_eq_self
  rw [landed]
  exact List.forall_mem_nil _

theorem flying_foretell (answers : Answers) (tree : Partial) :
    (tree.foretell answers).flying = tree.flying.map fun d => .bound (d.read answers) := by
  rw [foretell_eq_mapFlying, flying_mapFlying]

/-- What is foretold comes true. -/
theorem read_foretell (answers others : Answers) (tree : Partial) :
    (tree.foretell answers).read others = tree.read answers := by
  rw [foretell_eq_mapFlying]
  exact read_mapFlying fun _ _ => rfl

theorem isSettled_foretell {calls : Calls} {tree : Partial}
    (unsettled : ∀ d ∈ tree.flying, d.isSettled calls = false) (answers : Answers) :
    (tree.foretell answers).isSettled [] = tree.isSettled calls := by
  rw [foretell_eq_mapFlying]
  exact isSettled_mapFlying fun d member => (unsettled d member).symm

/-- As long as no leaf has landed, an expression sees the same of what is foretold. -/
theorem toValue_foretell {calls : Calls} {tree : Partial}
    (unsettled : ∀ d ∈ tree.flying, d.isSettled calls = false) (answers : Answers) :
    (tree.foretell answers).toValue [] = tree.toValue calls := by
  rw [foretell_eq_mapFlying]
  apply toValue_mapFlying
  intro d member
  rw [Deferred.value?_bound, Deferred.value?, unsettled d member]
  rfl

theorem foretell_set (answers : Answers) (tree : Partial) (path : Path) (node : Partial) :
    (tree.set path node).foretell answers =
      (tree.foretell answers).set path (node.foretell answers) := by
  rw [foretell_eq_mapFlying, foretell_eq_mapFlying, foretell_eq_mapFlying, mapFlying_set]

end Partial

end LiveConfig
