import LiveConfig.Proofs.Evaluation.Agreement

set_option autoImplicit false

namespace LiveConfig

namespace Scope

/-- One variable of a tier added, or changed if it is there. -/
def declare (tier : Tier) (name : String) (entry : Partial) (scope : Scope) : Scope :=
  match tier with
  | .static =>
    { scope with statics := some ((scope.statics.getD { tier := .static }).insert name entry) }
  | .dynamic =>
    { scope with dynamics := some ((scope.dynamics.getD { tier := .dynamic }).insert name entry) }

section

variable (scope : Scope) (tier : Tier) {name : String} (entry : Partial) {s : String}

@[simp] theorem output_declare : (scope.declare tier name entry).output = scope.output := by
  cases tier <;> rfl

@[simp] theorem calls_declare : (scope.declare tier name entry).calls = scope.calls := by
  cases tier <;> rfl

theorem find?_insert (env : Option Environment) (tier : Tier) (other : s ≠ name) :
    ((env.getD { tier }).insert name entry).find? s = env.bind (·.find? s) := by
  rw [Environment.find?, Environment.insert, Fields.find?_put_other _ _ _ _ other]
  cases env with
  | none => rfl
  | some env => rfl

theorem binding?_declare (other : s ≠ name) :
    (scope.declare tier name entry).binding? s = scope.binding? s := by
  cases tier with
  | static => simp only [declare, binding?, Option.bind_some, find?_insert entry _ _ other]
  | dynamic => simp only [declare, binding?, Option.bind_some, find?_insert entry _ _ other]

/-- Beside its name, only the object of its tier shows a variable, and the tree that is being
rewritten as far as that is another one. -/
theorem builtinName_declare {output : Option Partial} (apart : s ≠ tier.scopeName)
    (same : s = "output" → output = scope.output) :
    { scope.declare tier name entry with output }.builtinName s = scope.builtinName s := by
  have tree : s = "output" → ({ scope.declare tier name entry with output } : Scope) =
      scope.declare tier name entry := by
    intro asked
    rw [same asked, ← output_declare scope tier entry]
  cases tier with
  | static =>
    by_cases asked : s = "output"
    · rw [tree asked, asked]
      rfl
    · simp only [builtinName, if_neg (show s ≠ "svars" from apart), if_neg asked, declare]
  | dynamic =>
    by_cases asked : s = "output"
    · rw [tree asked, asked]
      rfl
    · simp only [builtinName, if_neg (show s ≠ "vars" from apart), if_neg asked, declare]

theorem lookup_declare {output : Option Partial} (other : s ≠ name)
    (hidden : s = tier.scopeName ∨ s = "output" ∧ output ≠ scope.output →
      scope.binding? s ≠ none) :
    { scope.declare tier name entry with output }.lookup s = scope.lookup s := by
  have binding : { scope.declare tier name entry with output }.binding? s = scope.binding? s :=
    binding?_declare scope tier entry other
  unfold lookup
  rw [binding]
  cases bound : scope.binding? s with
  | some node =>
    show (if node.isSettled (scope.declare tier name entry).calls then _ else _) = _
    rw [calls_declare]
  | none =>
    refine builtinName_declare scope tier entry (fun asked => hidden (.inl asked) bound) ?_
    intro asked
    exact Classical.byContradiction fun differs => hidden (.inr ⟨asked, differs⟩) bound

end

end Scope

namespace Expr

/-- What an expression comes to depends on its scope through what the names it mentions stand for
there. So a variable may be added or changed, and the tree that is being rewritten with it, as long
as the expression mentions neither the variable nor, unless another variable hides it, the object of
its tier or the tree. -/
theorem eval_eq_of_mentioned_names (registry : Registry) (e : Expr) (scope : Scope) :
    (∀ scope' : Scope, (∀ s, Within (.name s) e → scope.lookup s = scope'.lookup s) →
      eval registry scope e = eval registry scope' e ∧
        evalTail registry scope e = evalTail registry scope' e) ∧
    ∀ (tier : Tier) (name : String) (entry : Partial) (output : Option Partial),
      ¬ Within (.name name) e →
      (∀ s, s = tier.scopeName ∨ s = "output" ∧ output ≠ scope.output → Within (.name s) e →
        scope.binding? s ≠ none) →
      eval registry { scope.declare tier name entry with output } e = eval registry scope e ∧
        evalTail registry { scope.declare tier name entry with output } e =
          evalTail registry scope e := by
  have alike {scope scope' : Scope}
      (same : ∀ s, Within (.name s) e → scope.lookup s = scope'.lookup s) :
      eval registry scope e = eval registry scope' e ∧
        evalTail registry scope e = evalTail registry scope' e := by
    have agree : Agree e registry registry scope scope' := ⟨same, fun _ _ _ => rfl⟩
    exact ⟨eval_congr e agree, evalTail_congr e agree fun _ _ _ => rfl⟩
  refine ⟨fun scope' same => alike same, ?_⟩
  intro tier name entry output unnamed unseen
  apply alike
  intro s mentioned
  refine scope.lookup_declare tier entry ?_ fun view => unseen s view mentioned
  rintro rfl
  exact unnamed mentioned

/-- A variable named `states` that holds what the host shows reads like the host, and `vars` hidden
by a variable shows nothing of another one. -/
theorem eval_eq_of_states_variable :
    let states : Fields Value := [("light.kitchen", .text "on")]
    let hosted : Scope := { host := { states } }
    let declared : Scope := {
      host := { user := .text "Ada" }
      statics := some { tier := .static, named := [("states", .ready (.object states))] } }
    let state : Expr := .index (.name "states") (.text "light.kitchen")
    let covered : Scope := hosted.declare .static "vars" (.ready (.ofNat 3))
    (eval {} hosted state = eval {} declared state ∧
      evalTail {} hosted state = evalTail {} declared state) ∧
    eval {} (covered.declare .dynamic "speed" (.ready (.ofNat 7))) (.array [state, .name "vars"]) =
      eval {} covered (.array [state, .name "vars"]) := by
  intro states hosted declared state covered
  have alone {s x : String} (mentioned : Within (.name s) (.name x)) : s = x := by
    cases mentioned
    rfl
  have only {s x k : String} (mentioned : Within (.name s) (.index (.name x) (.text k))) :
      s = x := by
    cases mentioned with
    | container inside => exact alone inside
    | position inside => cases inside
  constructor
  · apply (eval_eq_of_mentioned_names {} state hosted).1
    intro s mentioned
    obtain rfl := only mentioned
    rfl
  · have unnamed : ¬ Within (.name "speed") (.array [state, .name "vars"]) := by
      intro mentioned
      cases mentioned with
      | item member inside =>
        simp only [List.mem_cons, List.not_mem_nil, or_false] at member
        obtain rfl | rfl := member
        · exact absurd (only inside) (by decide)
        · exact absurd (alone inside) (by decide)
    refine ((eval_eq_of_mentioned_names {} (.array [state, .name "vars"]) covered).2 .dynamic
      "speed" (.ready (.ofNat 7)) covered.output unnamed ?_).1
    rintro s (rfl | ⟨_, differs⟩) _
    · exact nofun
    · exact absurd rfl differs

end Expr

end LiveConfig
