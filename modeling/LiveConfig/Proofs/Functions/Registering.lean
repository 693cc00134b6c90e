import LiveConfig.Proofs.Evaluation.TailCalls

set_option autoImplicit false

namespace LiveConfig.Registry

/-- Nothing but the built-in functions. -/
def empty : Registry where
  apart := Expr.apart_empty

def registerAll (registry : Registry) (entries : List (String × Registration)) : Registry :=
  entries.foldl (fun registry entry => registry.register entry.1 entry.2) registry

/-- The last registration under a name. Names that differ in case only are the same. -/
def Last (entries : List (String × Registration)) (name : String) (registration : Registration) :
    Prop :=
  ∃ before key after, entries = before ++ (key, registration) :: after ∧
    Builtin.foldName key = Builtin.foldName name ∧
    ∀ later ∈ after, Builtin.foldName later.1 ≠ Builtin.foldName name

def Fresh (entries : List (String × Registration)) (name : String) : Prop :=
  ∀ entry ∈ entries, Builtin.foldName entry.1 ≠ Builtin.foldName name

section

variable {entries : List (String × Registration)} {name : String}

theorem last_or_fresh (entries : List (String × Registration)) (name : String) :
    (∃ registration, Last entries name registration) ∨ Fresh entries name := by
  induction entries with
  | nil => exact Or.inr (List.forall_mem_nil _)
  | cons entry rest ih =>
    obtain ⟨key, registration⟩ := entry
    rcases ih with ⟨last, before, other, after, split, same, behind⟩ | fresh
    · exact Or.inl ⟨last, (key, registration) :: before, other, after, by rw [split]; rfl, same,
        behind⟩
    · by_cases same : Builtin.foldName key = Builtin.foldName name
      · exact Or.inl ⟨registration, [], key, rest, rfl, same, fresh⟩
      · exact Or.inr (List.forall_mem_cons.mpr ⟨same, fresh⟩)

theorem registerAll_append (registry : Registry) (first second : List (String × Registration)) :
    registry.registerAll (first ++ second) = (registry.registerAll first).registerAll second :=
  List.foldl_append

theorem find?_registerAll_of_fresh (registry : Registry) (fresh : Fresh entries name) :
    (registry.registerAll entries).find? name = registry.find? name := by
  induction entries generalizing registry with
  | nil => rfl
  | cons entry rest ih =>
    obtain ⟨differ, behind⟩ := List.forall_mem_cons.mp fresh
    exact (ih (registry.register entry.1 entry.2) behind).trans
      (find?_register_other registry entry.1 name entry.2 differ.symm)

theorem find?_registerAll_of_last (registry : Registry) {registration : Registration}
    (last : Last entries name registration) :
    (registry.registerAll entries).find? name = some registration := by
  obtain ⟨before, key, after, rfl, same, behind⟩ := last
  rw [registerAll_append]
  exact (find?_registerAll_of_fresh _ behind).trans
    (find?_register_self (registry.registerAll before) key name registration same.symm)

theorem find?_empty (name : String) : empty.find? name = none := rfl

theorem find?_registerAll_eq_some_iff {registration : Registration} :
    (empty.registerAll entries).find? name = some registration ↔
      Last entries name registration := by
  refine ⟨fun found => ?_, find?_registerAll_of_last _⟩
  rcases last_or_fresh entries name with ⟨other, last⟩ | fresh
  · rw [find?_registerAll_of_last _ last] at found
    exact Option.some.inj found ▸ last
  · rw [find?_registerAll_of_fresh _ fresh, find?_empty] at found
    cases found

theorem mem_sync_iff (registry : Registry) (name : String) :
    Builtin.foldName name ∈ Fields.names registry.sync ↔
      ∃ f, registry.find? name = some (.sync f) := by
  have listed := Fields.find?_eq_none_iff (Builtin.foldName name) registry.sync
  unfold find?
  cases found : Fields.find? (Builtin.foldName name) registry.sync with
  | none =>
    refine iff_of_false (listed.mp found) ?_
    rintro ⟨f, stands⟩
    obtain ⟨_, _, differ⟩ := Option.map_eq_some_iff.mp stands
    cases differ
  | some f =>
    have member : Builtin.foldName name ∈ Fields.names registry.sync :=
      Decidable.not_not.mp fun missing => nomatch found.symm.trans (listed.mpr missing)
    exact iff_of_true member ⟨f, rfl⟩

theorem mem_async_iff (registry : Registry) (name : String) :
    Builtin.foldName name ∈ Fields.names registry.async ↔
      ∃ f, registry.find? name = some (.async f) := by
  simp only [find?_eq_async_iff, ← Option.isSome_iff_exists, ← Option.ne_none_iff_isSome, ne_eq,
    Fields.find?_eq_none_iff, Decidable.not_not]

end

/-- The last registration of a name wins, whatever came before it. A function that answers at once
is called, one that answers later is only started, and a name under which nothing is registered
stands for the built-in function; a call inside an expression starts nothing. Both tables hold the
names whose last registration is of their kind, so none holds a name of the other. -/
theorem last_registration_wins (entries : List (String × Registration)) (name : String)
    (args : List Value) :
    let registry := empty.registerAll entries
    (registry.isAsync name = true ↔ ∃ f, Last entries name (.async f)) ∧
    (∀ f, Last entries name (.sync f) →
      registry.call name args = (f args).mapError .host ∧
      registry.start name args = .error (.unknownAsync name)) ∧
    (∀ f, Last entries name (.async f) →
      registry.call name args = .error (.nestedAsync name) ∧
      registry.start name args = .ok (f args)) ∧
    (Fresh entries name →
      registry.call name args = Builtin.call name args ∧
      registry.start name args = .error (.unknownAsync name)) ∧
    ((∃ registration, Last entries name registration) ∨ Fresh entries name) ∧
    (∀ other, registry.Variant other → other.call name args = registry.call name args) ∧
    (Builtin.foldName name ∈ Fields.names registry.sync ↔ ∃ f, Last entries name (.sync f)) ∧
    (Builtin.foldName name ∈ Fields.names registry.async ↔ ∃ f, Last entries name (.async f)) ∧
    ∀ key, ¬ (key ∈ Fields.names registry.sync ∧ key ∈ Fields.names registry.async) := by
  intro registry
  have stands {registration : Registration} (last : Last entries name registration) :
      registry.find? name = some registration := find?_registerAll_of_last _ last
  refine ⟨?_, ?_, ?_, ?_, last_or_fresh entries name, ?_, ?_, ?_, ?_⟩
  · rw [isAsync_eq_true_iff]
    exact exists_congr fun f => find?_registerAll_eq_some_iff
  · intro f last
    rw [call_eq, start_eq, stands last]
    exact ⟨rfl, rfl⟩
  · intro f last
    exact ⟨call_of_async (stands last) args, start_of_async (stands last) args⟩
  · intro fresh
    have missing : registry.find? name = none := find?_registerAll_of_fresh _ fresh
    rw [call_eq, start_eq, missing]
    exact ⟨rfl, rfl⟩
  · intro other variant
    rw [variant.call_eq name]
  · rw [mem_sync_iff]
    exact exists_congr fun f => find?_registerAll_eq_some_iff
  · rw [mem_async_iff]
    exact exists_congr fun f => find?_registerAll_eq_some_iff
  · rintro key ⟨sync, async⟩
    exact registry.apart key sync async

/-- `lower` is registered in either kind, in two spellings; before it was the built-in function. -/
theorem last_registration_wins_lower :
    let answers : Registration := .sync fun _ => .ok (.bool true)
    let waits : List Value → Reply := fun _ => .waiting "gate"
    let registry := empty.registerAll [("lower", answers), ("LOWER", .async waits)]
    Last [("lower", answers), ("LOWER", .async waits)] "Lower" (.async waits) ∧
      registry.isAsync "Lower" = true ∧
      registry.call "Lower" [.text "ON"] = .error (.nestedAsync "Lower") ∧
      registry.start "Lower" [.text "ON"] = .ok (.waiting "gate") := by
  intro answers waits registry
  have last : Last [("lower", answers), ("LOWER", .async waits)] "Lower" (.async waits) :=
    ⟨[("lower", answers)], "LOWER", [], rfl, by decide +kernel, List.forall_mem_nil _⟩
  obtain ⟨async, -, later, -⟩ := last_registration_wins
    [("lower", answers), ("LOWER", .async waits)] "Lower" [.text "ON"]
  obtain ⟨refused, started⟩ := later waits last
  exact ⟨last, async.mpr ⟨waits, last⟩, refused, started⟩

end LiveConfig.Registry
