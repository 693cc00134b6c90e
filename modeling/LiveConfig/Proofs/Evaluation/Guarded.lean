import LiveConfig.Proofs.Evaluation.Failures
import LiveConfig.Proofs.Grammar.Soundness

set_option autoImplicit false

namespace LiveConfig.Expr

mutual

/-- Every guard has a chain around it that is reached over receivers only. `inside` tells whether
such a chain stands around the expression itself. -/
def Guarded (inside : Bool) : Expr → Prop
  | .null | .bool _ | .number _ | .text _ | .name _ => True
  | .call _ arguments => GuardedArguments inside arguments
  | .index container position => Guarded inside container ∧ Guarded false position
  | .member receiver _ => Guarded inside receiver
  | .guard receiver => inside = true ∧ Guarded true receiver
  | .chain body => Guarded true body
  | .unary _ operand => Guarded false operand
  | .binary _ left right => Guarded false left ∧ Guarded false right
  | .ternary condition yes no => Guarded false condition ∧ Guarded false yes ∧ Guarded false no
  | .array items => GuardedAll items
  | .object fields => GuardedFields fields

/-- The first argument may be the receiver of a method. -/
def GuardedArguments (inside : Bool) : List Expr → Prop
  | [] => True
  | receiver :: rest => Guarded inside receiver ∧ GuardedAll rest

def GuardedAll : List Expr → Prop
  | [] => True
  | e :: rest => Guarded false e ∧ GuardedAll rest

def GuardedFields : List (String × Expr) → Prop
  | [] => True
  | (_, e) :: rest => Guarded false e ∧ GuardedFields rest

end

theorem Guarded.widen (inside : Bool) : ∀ {e : Expr}, Guarded false e → Guarded inside e
  | .null, _ | .bool _, _ | .number _, _ | .text _, _ | .name _, _ => by rw [Guarded]; trivial
  | .call _ [], _ => by rw [Guarded, GuardedArguments]; trivial
  | .call _ (receiver :: rest), guarded => by
    rw [Guarded, GuardedArguments] at guarded ⊢
    exact ⟨guarded.1.widen inside, guarded.2⟩
  | .index _ _, guarded => by
    rw [Guarded] at guarded ⊢
    exact ⟨guarded.1.widen inside, guarded.2⟩
  | .member _ _, guarded => by
    rw [Guarded] at guarded ⊢
    exact guarded.widen inside
  | .guard _, guarded => by
    rw [Guarded] at guarded
    cases guarded.1
  | .chain _, guarded | .unary _ _, guarded | .binary _ _ _, guarded | .ternary _ _ _, guarded
  | .array _, guarded | .object _, guarded => by rw [Guarded] at guarded ⊢; exact guarded

theorem Guarded.inChain {inside : Bool} {e : Expr} (guarded : Guarded inside e) :
    Guarded true e := by
  cases inside with
  | false => exact guarded.widen true
  | true => exact guarded

theorem guardedAll_iff {items : List Expr} : GuardedAll items ↔ ∀ e ∈ items, Guarded false e := by
  induction items with
  | nil => simp [GuardedAll]
  | cons e rest ih => simp [GuardedAll, ih]

theorem guardedFields_iff {fields : List (String × Expr)} :
    GuardedFields fields ↔ ∀ field ∈ fields, Guarded false field.2 := by
  induction fields with
  | nil => simp [GuardedFields]
  | cons field rest ih => simp [GuardedFields, ih]

theorem GuardedAll.arguments {items : List Expr} (guarded : GuardedAll items) :
    GuardedArguments false items := by
  cases items with
  | nil => trivial
  | cons e rest => exact guarded

theorem GuardedArguments.all {items : List Expr} (guarded : GuardedArguments false items) :
    GuardedAll items := by
  cases items with
  | nil => trivial
  | cons e rest => exact guarded

end LiveConfig.Expr

namespace LiveConfig.Grammar

open LiveConfig.Expr

mutual

/-- The grammar writes guards only inside the chains that catch them. -/
theorem guarded_of_whole {ts : List Token} {e : Expr} : Whole ts e → Guarded false e
  | .plain body => guarded_of_binary body
  | .choice condition yes no =>
    ⟨guarded_of_binary condition, guarded_of_whole yes, guarded_of_whole no⟩

theorem guarded_of_binary {level : Nat} {ts : List Token} {e : Expr} :
    Binary level ts e → Guarded false e
  | .operator _ _ left right => ⟨guarded_of_binary left, guarded_of_binary right⟩
  | .tighter _ body => guarded_of_binary body
  | .operand body => guarded_of_unary body

theorem guarded_of_unary {ts : List Token} {e : Expr} : Unary ts e → Guarded false e
  | .operator _ operand => (guarded_of_unary operand :)
  | .strict steps => guarded_of_chain steps
  | .optional steps => (guarded_of_chain steps :)

theorem guarded_of_chain {ts : List Token} {optional : Bool} {e : Expr} :
    Chain ts optional e → Guarded optional e
  | .primary head => guarded_of_primary head
  | .member receiver _ => (guarded_of_chain receiver :)
  | .optionalMember receiver _ => ⟨rfl, (guarded_of_chain receiver).inChain⟩
  | .method receiver _ passed => ⟨guarded_of_chain receiver, guarded_of_arguments passed⟩
  | .optionalMethod receiver _ passed =>
    ⟨⟨rfl, (guarded_of_chain receiver).inChain⟩, guarded_of_arguments passed⟩
  | .index receiver position => ⟨guarded_of_chain receiver, guarded_of_whole position⟩

theorem guarded_of_primary {ts : List Token} {e : Expr} : Primary ts e → Guarded false e
  | .null | .bool _ | .number _ | .text _ | .name _ => trivial
  | .call _ passed => ((guarded_of_arguments passed).arguments :)
  | .group body => guarded_of_whole body
  | .array body => (guarded_of_items body :)
  | .object body => (guarded_of_entries body :)

theorem guarded_of_arguments {ts : List Token} {items : List Expr} :
    Arguments ts items → GuardedAll items
  | .mk body => guarded_of_items body

theorem guarded_of_items {ts : List Token} {items : List Expr} : Items ts items → GuardedAll items
  | .none => trivial
  | .last item => ⟨guarded_of_whole item, trivial⟩
  | .more item others => ⟨guarded_of_whole item, guarded_of_items others⟩

theorem guarded_of_entries {ts : List Token} {fields : List (String × Expr)} :
    Entries ts fields → GuardedFields fields
  | .none => trivial
  | .last entry => ⟨guarded_of_entry entry, trivial⟩
  | .more entry others => ⟨guarded_of_entry entry, guarded_of_entries others⟩

theorem guarded_of_entry {ts : List Token} {field : String × Expr} :
    Entry ts field → Guarded false field.2
  | .name _ value | .text _ value => guarded_of_whole value

end

theorem guarded_of_parse {source : String} {e : Expr} (parsed : parse source = .ok e) :
    Guarded false e := by
  unfold parse at parsed
  split at parsed
  · cases parsed
  · next tokens _ =>
    cases read : parseTokens tokens with
    | error refusal =>
      rw [read] at parsed
      cases parsed
    | ok found =>
      rw [read] at parsed
      cases parsed
      obtain ⟨_, _, _, _, _, derived⟩ := parseTokens_eq_ok read
      exact guarded_of_whole derived

end LiveConfig.Grammar

namespace LiveConfig.Expr

/-- An expression that stands somewhere in another one. -/
inductive Within (e : Expr) : Expr → Prop where
  | here : Within e e
  | argument {function : String} {arguments : List Expr} {a : Expr} (member : a ∈ arguments)
      (inside : Within e a) : Within e (.call function arguments)
  | container {container position : Expr} (inside : Within e container) :
      Within e (.index container position)
  | position {container position : Expr} (inside : Within e position) :
      Within e (.index container position)
  | receiver {receiver : Expr} {property : String} (inside : Within e receiver) :
      Within e (.member receiver property)
  | guarded {receiver : Expr} (inside : Within e receiver) : Within e (.guard receiver)
  | body {body : Expr} (inside : Within e body) : Within e (.chain body)
  | operand {op : UnaryOp} {operand : Expr} (inside : Within e operand) :
      Within e (.unary op operand)
  | left {op : BinaryOp} {left right : Expr} (inside : Within e left) :
      Within e (.binary op left right)
  | right {op : BinaryOp} {left right : Expr} (inside : Within e right) :
      Within e (.binary op left right)
  | condition {condition yes no : Expr} (inside : Within e condition) :
      Within e (.ternary condition yes no)
  | yes {condition yes no : Expr} (inside : Within e yes) : Within e (.ternary condition yes no)
  | no {condition yes no : Expr} (inside : Within e no) : Within e (.ternary condition yes no)
  | item {items : List Expr} {a : Expr} (member : a ∈ items) (inside : Within e a) :
      Within e (.array items)
  | field {fields : List (String × Expr)} {field : String × Expr} (member : field ∈ fields)
      (inside : Within e field.2) : Within e (.object fields)

theorem GuardedArguments.mem {inside : Bool} {arguments : List Expr} {a : Expr}
    (guarded : GuardedArguments inside arguments) (member : a ∈ arguments) : Guarded true a := by
  cases arguments with
  | nil => cases member
  | cons receiver rest =>
    obtain ⟨first, others⟩ := guarded
    obtain rfl | member := List.mem_cons.mp member
    · exact first.inChain
    · exact (guardedAll_iff.mp others a member).inChain

theorem Guarded.within {e whole : Expr} (part : Within e whole) :
    ∀ {inside : Bool}, Guarded inside whole → Guarded true e := by
  induction part with
  | here => exact fun guarded => guarded.inChain
  | argument member _ ih =>
    intro inside guarded
    rw [Guarded] at guarded
    exact ih (guarded.mem member)
  | container _ ih => exact fun guarded => ih guarded.1
  | position _ ih => exact fun guarded => ih guarded.2
  | receiver _ ih =>
    intro inside guarded
    rw [Guarded] at guarded
    exact ih guarded
  | guarded _ ih => exact fun guarded => ih guarded.2
  | body _ ih =>
    intro inside guarded
    rw [Guarded] at guarded
    exact ih guarded
  | operand _ ih =>
    intro inside guarded
    rw [Guarded] at guarded
    exact ih guarded
  | left _ ih => exact fun guarded => ih guarded.1
  | right _ ih => exact fun guarded => ih guarded.2
  | condition _ ih => exact fun guarded => ih guarded.1
  | yes _ ih => exact fun guarded => ih guarded.2.1
  | no _ ih => exact fun guarded => ih guarded.2.2
  | item member _ ih =>
    intro inside guarded
    rw [Guarded] at guarded
    exact ih (guardedAll_iff.mp guarded _ member)
  | field member _ ih =>
    intro inside guarded
    rw [Guarded] at guarded
    exact ih (guardedFields_iff.mp guarded _ member)

section

variable {registry : Registry} {scope : Scope}

theorem failsWith_eval_call (function : String) {arguments : List Expr}
    (real : FailsWith Failure.Real (evalAll registry scope arguments)) :
    FailsWith Failure.Real (eval registry scope (.call function arguments)) := by
  rw [eval]
  exact real.bind fun args _ => failsWith_call registry function args

theorem failsWith_eval_member {receiver : Expr} (property : String)
    (real : FailsWith Failure.Real (eval registry scope receiver)) :
    FailsWith Failure.Real (eval registry scope (.member receiver property)) := by
  rw [eval]
  exact real.bind fun v _ => failsWith_property v property

theorem failsWith_eval_index {container position : Expr}
    (real : FailsWith Failure.Real (eval registry scope container))
    (place : FailsWith Failure.Real (eval registry scope position)) :
    FailsWith Failure.Real (eval registry scope (.index container position)) := by
  rw [eval]
  refine place.bind fun key _ => ?_
  split
  · exact failsWith_ok _ _
  · exact real.bind fun v _ => failsWith_entry v key

theorem failsWith_eval_chain (body : Expr) :
    FailsWith Failure.Real (eval registry scope (.chain body)) := by
  rw [eval]
  split
  · exact failsWith_ok _ _
  · next real => exact fun reason failed ended => real (failed.trans (congrArg _ ended))

theorem failsWith_evalTail_call (function : String) {arguments : List Expr}
    (real : FailsWith Failure.Real (evalAll registry scope arguments)) :
    FailsWith Failure.Real (evalTail registry scope (.call function arguments)) := by
  rw [evalTail]
  refine real.bind fun args _ => ?_
  split
  · exact (failsWith_start registry function args).bind fun _ _ => failsWith_ok _ _
  · exact (failsWith_call registry function args).bind fun _ _ => failsWith_ok _ _

theorem failsWith_evalTail_chain (body : Expr) :
    FailsWith Failure.Real (evalTail registry scope (.chain body)) := by
  rw [evalTail]
  split
  · exact failsWith_ok _ _
  · next real => exact fun reason failed ended => real (failed.trans (congrArg _ ended))

end

mutual

/-- What needs no chain around it never ends one. -/
theorem failsWith_eval (registry : Registry) (scope : Scope) :
    ∀ e : Expr, Guarded false e → FailsWith Failure.Real (eval registry scope e)
  | .null, _ | .bool _, _ | .number _, _ | .text _, _ => by rw [eval]; exact failsWith_ok _ _
  | .name s, _ => by rw [eval]; exact failsWith_lookup scope s
  | .call function arguments, guarded => by
    rw [Guarded] at guarded
    exact failsWith_eval_call function (failsWith_evalAll registry scope arguments guarded.all)
  | .index container position, guarded =>
    failsWith_eval_index (failsWith_eval registry scope container guarded.1)
      (failsWith_eval registry scope position guarded.2)
  | .member receiver property, guarded => by
    rw [Guarded] at guarded
    exact failsWith_eval_member property (failsWith_eval registry scope receiver guarded)
  | .guard _, guarded => by cases guarded.1
  | .chain body, _ => failsWith_eval_chain body
  | .unary op operand, guarded => by
    rw [Guarded] at guarded
    rw [eval]
    exact (failsWith_eval registry scope operand guarded).bind fun v _ => failsWith_unary op v
  | .binary op left right, guarded => by
    have first := failsWith_eval registry scope left guarded.1
    have second := failsWith_eval registry scope right guarded.2
    cases op with
    | logical op =>
      rw [eval]
      refine first.bind fun decisive _ => ?_
      split
      · exact failsWith_ok _ _
      · exact second
    | arithmetic op =>
      rw [eval]
      exact first.bind fun x _ => second.bind fun y _ => failsWith_arithmetic op x y
    | comparison op =>
      rw [eval]
      exact first.bind fun x _ => second.bind fun y _ => failsWith_comparison op x y
    | equal =>
      rw [eval]
      exact first.bind fun x _ => second.bind fun y _ => failsWith_ok _ _
    | unequal =>
      rw [eval]
      exact first.bind fun x _ => second.bind fun y _ => failsWith_ok _ _
  | .ternary condition yes no, guarded => by
    rw [eval]
    refine (failsWith_eval registry scope condition guarded.1).bind fun v _ => ?_
    split
    · exact failsWith_eval registry scope yes guarded.2.1
    · exact failsWith_eval registry scope no guarded.2.2
  | .array items, guarded => by
    rw [Guarded] at guarded
    rw [eval]
    exact (failsWith_evalAll registry scope items guarded).bind fun _ _ => failsWith_ok _ _
  | .object fields, guarded => by
    rw [Guarded] at guarded
    rw [eval]
    exact (failsWith_evalFields registry scope fields guarded).bind fun _ _ => failsWith_ok _ _

theorem failsWith_evalAll (registry : Registry) (scope : Scope) :
    ∀ items : List Expr, GuardedAll items → FailsWith Failure.Real (evalAll registry scope items)
  | [], _ => by rw [evalAll]; exact failsWith_ok _ _
  | e :: rest, guarded => by
    rw [evalAll]
    refine (failsWith_eval registry scope e guarded.1).bind fun v _ => ?_
    exact (failsWith_evalAll registry scope rest guarded.2).bind fun _ _ => failsWith_ok _ _

theorem failsWith_evalFields (registry : Registry) (scope : Scope) :
    ∀ fields : List (String × Expr), GuardedFields fields →
      FailsWith Failure.Real (evalFields registry scope fields)
  | [], _ => by rw [evalFields]; exact failsWith_ok _ _
  | (_, e) :: rest, guarded => by
    rw [evalFields]
    refine (failsWith_eval registry scope e guarded.1).bind fun v _ => ?_
    exact (failsWith_evalFields registry scope rest guarded.2).bind fun _ _ => failsWith_ok _ _

end

theorem failsWith_evalTail (registry : Registry) (scope : Scope) :
    ∀ e : Expr, Guarded false e → FailsWith Failure.Real (evalTail registry scope e)
  | .call function arguments, guarded => by
    rw [Guarded] at guarded
    exact failsWith_evalTail_call function (failsWith_evalAll registry scope arguments guarded.all)
  | .ternary condition yes no, guarded => by
    rw [evalTail]
    refine (failsWith_eval registry scope condition guarded.1).bind fun v _ => ?_
    split
    · exact failsWith_evalTail registry scope yes guarded.2.1
    · exact failsWith_evalTail registry scope no guarded.2.2
  | .chain body, _ => failsWith_evalTail_chain body
  | .null, guarded | .bool _, guarded | .number _, guarded | .text _, guarded | .name _, guarded
  | .index _ _, guarded | .member _ _, guarded | .guard _, guarded | .unary _ _, guarded
  | .binary _ _ _, guarded | .array _, guarded | .object _, guarded => by
    simp only [evalTail]
    exact (failsWith_eval registry scope _ guarded).bind fun _ _ => failsWith_ok _ _

end LiveConfig.Expr
