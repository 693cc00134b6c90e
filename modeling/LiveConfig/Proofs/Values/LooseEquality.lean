import LiveConfig.Evaluate
import LiveConfig.Proofs.Failing
import LiveConfig.Proofs.Rewriting.Graft
import Mathlib

set_option autoImplicit false

/- Loose equality can be read from either side, although an object is compared over the names of the
left one only: objects of the same size that have no name twice have the same names as soon as
those of the one are among those of the other. -/

namespace LiveConfig

namespace Number

open Float.Model (UnpackedFloat)

theorem compare_swap (x y : UnpackedFloat) :
    y.compare x = (x.compare y).map Ordering.swap := by
  have significands (e e' : Int) (m m' : Nat) : (compare e' e).then (compare m' m) =
      ((compare e e').then (compare m m')).swap := by
    rw [Ordering.swap_then, Int.compare_swap, Nat.compare_swap]
  cases x with
  | notANumber => cases y <;> rfl
  | infinity s =>
    cases y with
    | infinity t => cases s <;> cases t <;> rfl
    | _ => cases s <;> rfl
  | zero s =>
    cases y with
    | infinity t | finite t _ _ _ => cases t <;> rfl
    | _ => rfl
  | finite s m e positive =>
    cases y with
    | infinity t => cases s <;> cases t <;> rfl
    | notANumber => cases s <;> rfl
    | zero t => cases s <;> rfl
    | finite t m' e' positive' =>
      cases s <;> cases t <;> simp [UnpackedFloat.compare, significands e e' m m']

theorem compare_self (x : UnpackedFloat) : x.compare x = some .eq ↔ x.isNaN = false := by
  cases x with
  | infinity s => cases s <;> decide
  | notANumber => decide
  | zero s => cases s <;> decide
  | finite s m e positive => cases s <;> simp [UnpackedFloat.compare, UnpackedFloat.isNaN]

theorem beq_comm (x y : Float) : (x == y) = (y == x) := by
  show (x.toModel.unpack.compare y.toModel.unpack == some .eq) =
    (y.toModel.unpack.compare x.toModel.unpack == some .eq)
  rw [compare_swap]
  cases y.toModel.unpack.compare x.toModel.unpack with
  | none => rfl
  | some order => cases order <;> rfl

theorem beq_self_iff (x : Float) : (x == x) = true ↔ x.isNaN = false := by
  show (x.toModel.unpack.compare x.toModel.unpack == some .eq) = true ↔ _
  rw [beq_iff_eq, compare_self]
  rfl

end Number

theorem Fields.names_subset_of_length {α β : Type} {fields : Fields α} {others : Fields β}
    (distinct : Distinct fields) (within : names fields ⊆ names others)
    (length : others.length ≤ fields.length) : names others ⊆ names fields := by
  have few : (names others).length ≤ (names fields).length := by simpa [names] using length
  exact ((List.subperm_of_subset distinct within).perm_of_length_le few).symm.subset

namespace Value

/-- Some number in the tree is NaN. -/
inductive HasNaN : Value → Prop where
  | number {x : Float} (nan : x.isNaN = true) : HasNaN (.number x)
  | array {items : List Value} {item : Value} (member : item ∈ items) (inside : HasNaN item) :
    HasNaN (.array items)
  | object {fields : Fields Value} {field : String × Value} (member : field ∈ fields)
    (inside : HasNaN field.2) : HasNaN (.object fields)

section

variable {fields others : Fields Value} {items more : List Value}

theorem looseFields_iff : looseFields fields others = true ↔
    ∀ field ∈ fields, ∃ other, Fields.find? field.1 others = some other ∧
      field.2.loose other = true := by
  induction fields with
  | nil => simp [looseFields]
  | cons field rest ih =>
    obtain ⟨name, value⟩ := field
    rw [looseFields, Bool.and_eq_true, ih, List.forall_mem_cons]
    cases Fields.find? name others <;> simp

theorem sameFields_iff : sameFields fields others = true ↔
    ∀ field ∈ fields, ∃ other, Fields.find? field.1 others = some other ∧
      field.2.same other = true := by
  induction fields with
  | nil => simp [sameFields]
  | cons field rest ih =>
    obtain ⟨name, value⟩ := field
    rw [sameFields, Bool.and_eq_true, ih, List.forall_mem_cons]
    cases Fields.find? name others <;> simp

theorem looseItems_comm
    (comm : ∀ item ∈ items, ∀ other ∈ more, item.loose other = other.loose item) :
    looseItems items more = looseItems more items := by
  induction items generalizing more with
  | nil => cases more <;> rfl
  | cons item rest ih =>
    cases more with
    | nil => rfl
    | cons other others =>
      have first := comm item List.mem_cons_self other List.mem_cons_self
      have later := ih fun a member b among =>
        comm a (List.mem_cons_of_mem _ member) b (List.mem_cons_of_mem _ among)
      rw [looseItems, looseItems, first, later]

/-- Objects of one size that agree over the names of the one agree over the names of the other. -/
theorem looseFields_symm (distinct : Fields.Distinct fields) (distinct' : Fields.Distinct others)
    (length : fields.length = others.length)
    (comm : ∀ field ∈ fields, ∀ other ∈ others, field.2.loose other.2 = other.2.loose field.2)
    (agree : looseFields fields others = true) : looseFields others fields = true := by
  rw [looseFields_iff] at agree ⊢
  have within : Fields.names fields ⊆ Fields.names others := by
    intro name listed
    obtain ⟨field, member, rfl⟩ := List.mem_map.mp listed
    obtain ⟨other, found, _⟩ := agree field member
    exact Decidable.not_not.mp fun absent =>
      nomatch found.symm.trans ((Fields.find?_eq_none_iff _ _).mpr absent)
  have all := Fields.names_subset_of_length distinct within (Nat.le_of_eq length.symm)
  intro other member
  obtain ⟨field, among, same⟩ := List.mem_map.mp (all (List.mem_map_of_mem member))
  obtain ⟨value, found, equal⟩ := agree field among
  rw [same, find?_of_mem distinct' member] at found
  obtain rfl := Option.some.inj found
  refine ⟨field.2, same ▸ find?_of_mem distinct among, ?_⟩
  rw [← comm field among other member]
  exact equal

theorem looseFields_comm (distinct : Fields.Distinct fields) (distinct' : Fields.Distinct others)
    (length : fields.length = others.length)
    (comm : ∀ field ∈ fields, ∀ other ∈ others, field.2.loose other.2 = other.2.loose field.2) :
    looseFields fields others = looseFields others fields := by
  rw [Bool.eq_iff_iff]
  exact ⟨looseFields_symm distinct distinct' length comm,
    looseFields_symm distinct' distinct length.symm fun other among field member =>
      (comm field member other among).symm⟩

theorem loose_comm {a b : Value} (distinct : a.Distinct) (distinct' : b.Distinct) :
    a.loose b = b.loose a := by
  induction distinct generalizing b with
  | null => cases b <;> rfl
  | bool b₁ =>
    cases b with
    | bool b₂ => exact Bool.beq_comm (a := b₁)
    | _ => rfl
  | number x =>
    cases b with
    | number y => exact Number.beq_comm x y
    | _ => rfl
  | text s =>
    cases b with
    | text t => exact Bool.beq_comm (a := s)
    | _ => rfl
  | @array items _ ih =>
    cases distinct' with
    | @array others each =>
      exact looseItems_comm fun item member other among => ih item member (each other among)
    | _ => rfl
  | @object fields names _ ih =>
    cases distinct' with
    | @object others names' each =>
      rw [loose, loose, Bool.beq_comm (a := fields.length)]
      by_cases length : others.length = fields.length
      · rw [looseFields_comm names names' length.symm fun field member other among =>
          ih field member (each other among)]
      · rw [beq_false_of_ne length, Bool.false_and, Bool.false_and]
    | _ => rfl

theorem looseItems_of_same (each : ∀ item ∈ items, ∀ other, item.same other = true →
    item.loose other = true) (same : sameItems items more = true) :
    looseItems items more = true := by
  induction items generalizing more with
  | nil =>
    cases more with
    | nil => rfl
    | cons _ _ => cases same
  | cons item rest ih =>
    cases more with
    | nil => cases same
    | cons other others =>
      obtain ⟨head, tail⟩ := List.forall_mem_cons.mp each
      rw [sameItems, Bool.and_eq_true] at same
      rw [looseItems, Bool.and_eq_true]
      exact ⟨head other same.1, ih tail same.2⟩

theorem loose_of_same {a b : Value} (same : a.same b = true) : a.loose b = true := by
  induction a using inductionOn generalizing b with
  | scalar v noText noArray noObject =>
    cases v with
    | null =>
      cases b with
      | null => rfl
      | _ => cases same
    | bool _ =>
      cases b with
      | bool _ => exact same
      | _ => cases same
    | number _ =>
      cases b with
      | number _ => exact same
      | _ => cases same
    | text s => exact absurd rfl (noText s)
    | array items => exact absurd rfl (noArray items)
    | object fields => exact absurd rfl (noObject fields)
  | text s =>
    cases b with
    | text _ => exact same
    | _ => cases same
  | array items ih =>
    cases b with
    | array others => exact looseItems_of_same (fun item member _ => ih item member) same
    | _ => cases same
  | object fields ih =>
    cases b with
    | object others =>
      rw [Value.same, Bool.and_eq_true, sameFields_iff] at same
      obtain ⟨length, agree⟩ := same
      rw [loose, Bool.and_eq_true, looseFields_iff]
      refine ⟨length, fun field member => ?_⟩
      obtain ⟨other, found, equal⟩ := agree field member
      exact ⟨other, found, ih field member equal⟩
    | _ => cases same

theorem looseItems_self :
    looseItems items items = true ↔ ∀ item ∈ items, item.loose item = true := by
  induction items with
  | nil => simp [looseItems]
  | cons item rest ih => rw [looseItems, Bool.and_eq_true, ih, List.forall_mem_cons]

theorem loose_self_iff {a : Value} (distinct : a.Distinct) :
    a.loose a = true ↔ ¬ a.HasNaN := by
  induction distinct with
  | null => exact iff_of_true rfl nofun
  | bool b => exact iff_of_true (beq_self_eq_true b) nofun
  | text s => exact iff_of_true (beq_self_eq_true s) nofun
  | number x =>
    rw [loose, Number.beq_self_iff]
    refine ⟨fun real inside => ?_, fun none => Bool.eq_false_iff.mpr fun nan => none (.number nan)⟩
    cases inside with
    | number nan => exact Bool.false_ne_true (real.symm.trans nan)
  | @array items _ ih =>
    rw [loose, looseItems_self]
    constructor
    · intro each inside
      cases inside with
      | array member inside => exact (ih _ member).mp (each _ member) inside
    · exact fun none item member => (ih item member).mpr fun inside => none (.array member inside)
  | @object fields names _ ih =>
    rw [loose, beq_self_eq_true, Bool.true_and, looseFields_iff]
    constructor
    · intro each inside
      cases inside with
      | @object _ field member inside =>
        obtain ⟨value, found, equal⟩ := each field member
        rw [find?_of_mem names member] at found
        obtain rfl := Option.some.inj found
        exact (ih field member).mp equal inside
    · intro none field member
      refine ⟨field.2, find?_of_mem names member, (ih field member).mpr fun inside => ?_⟩
      exact none (.object member inside)

end

/-- Loose equality is symmetric, holds wherever structural equality does, and fails between a value
and itself only if NaN is in it. So `==` and `!=` do not depend on the order of their operands, and
it does not matter that `in` has what it looks for on the left of each comparison and `contains` has
it on the right. -/
theorem loose_symmetric_extends_same {a b : Value} (distinct : a.Distinct)
    (distinct' : b.Distinct) :
    a.loose b = b.loose a ∧
    (a.same b = true → a.loose b = true) ∧
    (a.loose a = true ↔ ¬ a.HasNaN) ∧
    (∀ (registry : Registry) (scope : Scope) (left right : Expr),
      left.eval registry scope = .ok a → right.eval registry scope = .ok b →
      (Expr.binary .equal left right).eval registry scope =
          (Expr.binary .equal right left).eval registry scope ∧
        (Expr.binary .unequal left right).eval registry scope =
          (Expr.binary .unequal right left).eval registry scope) ∧
    Builtin.apply .isIn [a, b] = Builtin.apply .isIn [b, a] ∧
    Builtin.apply .contains [.array [a], b] = Builtin.apply .contains [.array [b], a] ∧
    ∀ items : List Value, (∀ item ∈ items, item.Distinct) →
      Builtin.apply .isIn (a :: b :: items) = Builtin.apply .contains [.array (b :: items), a] := by
  have comm := loose_comm distinct distinct'
  refine ⟨comm, loose_of_same, loose_self_iff distinct, ?_, ?_, ?_, ?_⟩
  · intro registry scope left right first second
    simp [Expr.eval, first, second, comm]
  · simp [Builtin.apply, Builtin.isAmong, comm]
  · simp [Builtin.apply, Builtin.two, Builtin.containsIn, comm]
  · intro items each
    have agree : ∀ item ∈ b :: items, a.loose item = item.loose a :=
      List.forall_mem_cons.mpr ⟨comm, fun item member => loose_comm distinct (each item member)⟩
    have any : ((b :: items).any fun item => a.loose item) =
        (b :: items).any fun item => item.loose a := by
      rw [Bool.eq_iff_iff, List.any_eq_true, List.any_eq_true]
      exact exists_congr fun item => and_congr_right fun member => by rw [agree item member]
    exact congrArg (fun found => Except.ok (Value.bool found)) any

/-- A state that is read as text equals the state it was, on either side. -/
theorem loose_symmetric_beside_texts :
    let lamp : Value := .object [("on", .bool true), ("levels", .array [.null, .number 21.5])]
    let shown : Value := .object [("levels", .array [.null, .text " 21.5"]), ("on", .text "true")]
    lamp.Distinct ∧ shown.Distinct ∧ lamp.loose shown = true ∧ shown.loose lamp = true ∧
      Builtin.apply .contains [.array [shown, .null], lamp] =
        Builtin.apply .isIn [lamp, shown, .null] := by
  intro lamp shown
  have distinct : lamp.Distinct :=
    .object (by simp [Fields.Distinct, Fields.names])
      (by simp [Distinct.bool, Distinct.null, Distinct.number, Distinct.array])
  have distinct' : shown.Distinct :=
    .object (by simp [Fields.Distinct, Fields.names])
      (by simp [Distinct.text, Distinct.null, Distinct.array])
  obtain ⟨comm, _, _, _, _, _, member⟩ := loose_symmetric_extends_same distinct distinct'
  exact ⟨distinct, distinct', rfl, comm.symm.trans rfl,
    (member [.null] (List.forall_mem_singleton.mpr .null)).symm⟩

end Value

end LiveConfig
