import LiveConfig.Proofs.Evaluation.Frames
import LiveConfig.Proofs.Evaluation.TailCalls

set_option autoImplicit false

namespace LiveConfig.Expr

/-- A receiver is left out: the object of a member or an index, the first argument of a method, or
what stands before `?.`. -/
def Frame.OfReceiver : Frame → Prop
  | .container _ | .receiver _ | .guarded => True
  | .argument _ before _ => before = []
  | _ => False

theorem GuardedAll.of_append {before after : List Expr} {e : Expr}
    (guarded : GuardedAll (before ++ e :: after)) : Guarded false e :=
  guardedAll_iff.mp guarded e (List.mem_append_right _ List.mem_cons_self)

theorem Guarded.of_fill {inside : Bool} {frame : Frame} {e : Expr}
    (guarded : Guarded inside (frame.fill e)) :
    frame.OfReceiver ∧ Guarded inside e ∨ frame = .body ∧ Guarded true e ∨ Guarded false e := by
  cases frame with
  | argument function before after =>
    cases before with
    | nil => exact Or.inl ⟨rfl, guarded.1⟩
    | cons first rest => exact Or.inr (Or.inr (GuardedAll.of_append guarded.2))
  | container place => exact Or.inl ⟨trivial, guarded.1⟩
  | position outer => exact Or.inr (Or.inr guarded.2)
  | receiver property => exact Or.inl ⟨trivial, guarded⟩
  | guarded =>
    obtain ⟨rfl, receiver⟩ := guarded
    exact Or.inl ⟨trivial, receiver⟩
  | body => exact Or.inr (Or.inl ⟨rfl, guarded⟩)
  | operand op => exact Or.inr (Or.inr guarded)
  | left op second => exact Or.inr (Or.inr guarded.1)
  | right op first => exact Or.inr (Or.inr guarded.2)
  | condition chosen other => exact Or.inr (Or.inr guarded.1)
  | yes asked other => exact Or.inr (Or.inr guarded.2.1)
  | no asked other => exact Or.inr (Or.inr guarded.2.2)
  | item before after => exact Or.inr (Or.inr (GuardedAll.of_append guarded))
  | field before key after =>
    exact Or.inr (Or.inr (guardedFields_iff.mp guarded (key, e)
      (List.mem_append_right _ List.mem_cons_self)))

/-- Around a guard stands a chain, with nothing but receivers in between. -/
theorem Guarded.exists_chain {frames : List Frame} {receiver : Expr} : ∀ {inside : Bool},
    Guarded inside (plug frames (.guard receiver)) →
    inside = true ∧ (∀ frame ∈ frames, frame.OfReceiver) ∨
      ∃ outer inner, frames = outer ++ .body :: inner ∧ ∀ frame ∈ inner, frame.OfReceiver := by
  induction frames with
  | nil => exact fun guarded => Or.inl ⟨guarded.1, List.forall_mem_nil _⟩
  | cons frame rest ih =>
    have further {inside : Bool} (guarded : Guarded inside (plug rest (.guard receiver))) :
        inside = true ∧ (∀ frame ∈ rest, frame.OfReceiver) ∨ ∃ outer inner,
          frame :: rest = outer ++ .body :: inner ∧ ∀ frame ∈ inner, frame.OfReceiver := by
      refine (ih guarded).imp_right ?_
      rintro ⟨outer, inner, split, receivers⟩
      exact ⟨frame :: outer, inner, congrArg _ split, receivers⟩
    intro inside guarded
    obtain ⟨here, inner⟩ | ⟨rfl, inner⟩ | inner := guarded.of_fill
    · refine (further inner).imp_left fun ⟨reached, others⟩ => ⟨reached, ?_⟩
      exact List.forall_mem_cons.mpr ⟨here, others⟩
    · obtain ⟨_, receivers⟩ | found := further inner
      · exact Or.inr ⟨[], rest, rfl, receivers⟩
      · exact Or.inr found
    · exact (further inner).imp_left fun outside => nomatch outside.1

theorem Guarded.of_plug {body : Expr} (outer : List Frame) : ∀ {inside : Bool},
    Guarded inside (plug outer (.chain body)) → Guarded true body := by
  induction outer with
  | nil => exact fun guarded => guarded
  | cons frame rest ih =>
    intro inside guarded
    obtain ⟨_, inner⟩ | ⟨_, inner⟩ | inner := guarded.of_fill
    · exact ih inner
    · exact ih inner
    · exact ih inner

/-- A guard within receivers is reached, which takes the positions of the indexes on the way, and
has a null receiver. -/
structure Trips (registry : Registry) (scope : Scope) (inner : List Frame) (receiver : Expr) :
    Prop where
  receivers : ∀ frame ∈ inner, frame.OfReceiver
  positions : ∀ place, .container place ∈ inner → ∃ key, eval registry scope place = .ok key
  null : eval registry scope receiver = .ok .null

section

variable {registry : Registry} {scope : Scope}

/-- The end of a chain passes through the receivers around it. -/
theorem eval_fill_of_ended {frame : Frame} {e : Expr} (receiver : frame.OfReceiver)
    (position : ∀ place, frame = .container place → ∃ key, eval registry scope place = .ok key)
    (ended : eval registry scope e = .error .chainEnded) :
    eval registry scope (frame.fill e) = .error .chainEnded := by
  cases frame with
  | argument function before after =>
    obtain rfl : before = [] := receiver
    rw [Frame.fill, eval, List.nil_append, evalAll, ended]
    rfl
  | container place =>
    obtain ⟨key, found⟩ := position place rfl
    rw [Frame.fill, eval_index, found, ok_bind, ended]
    rfl
  | receiver property =>
    rw [Frame.fill, eval, ended]
    rfl
  | guarded =>
    rw [Frame.fill, eval, ended]
    rfl
  | _ => exact receiver.elim

theorem eval_of_trips {inner : List Frame} {receiver : Expr}
    (trips : Trips registry scope inner receiver) :
    eval registry scope (plug inner (.guard receiver)) = .error .chainEnded := by
  obtain ⟨receivers, positions, null⟩ := trips
  induction inner with
  | nil =>
    rw [plug_nil, eval, null]
    rfl
  | cons frame rest ih =>
    obtain ⟨here, others⟩ := List.forall_mem_cons.mp receivers
    refine eval_fill_of_ended here ?_ (ih others ?_)
    · rintro place rfl
      exact positions place List.mem_cons_self
    · exact fun place member => positions place (List.mem_cons_of_mem _ member)

theorem Trips.cons {frame : Frame} {inner : List Frame} {receiver : Expr}
    (trips : Trips registry scope inner receiver) (here : frame.OfReceiver)
    (position : ∀ place, frame = .container place → ∃ key, eval registry scope place = .ok key) :
    Trips registry scope (frame :: inner) receiver where
  receivers := List.forall_mem_cons.mpr ⟨here, trips.receivers⟩
  positions place member := by
    obtain same | later := List.mem_cons.mp member
    · exact position place same.symm
    · exact trips.positions place later
  null := trips.null

/-- What lies within reach of a chain ends it at a guard that trips, and in no other way. -/
theorem exists_trips : ∀ {body : Expr}, Guarded true body →
    eval registry scope body = .error .chainEnded →
    ∃ inner receiver, body = plug inner (.guard receiver) ∧ Trips registry scope inner receiver
  | .guard receiver, guarded, ended => by
    rw [eval] at ended
    obtain ended | ⟨v, value, null⟩ := bind_eq_error_iff.mp ended
    · obtain ⟨inner, r, rfl, trips⟩ := exists_trips guarded.2 ended
      exact ⟨.guarded :: inner, r, rfl, trips.cons trivial nofun⟩
    · cases v with
      | null => exact ⟨[], receiver, rfl, List.forall_mem_nil _, nofun, value⟩
      | _ => cases null
  | .member receiver property, guarded, ended => by
    rw [Guarded] at guarded
    rw [eval] at ended
    obtain ended | ⟨v, _, failed⟩ := bind_eq_error_iff.mp ended
    · obtain ⟨inner, r, rfl, trips⟩ := exists_trips guarded ended
      exact ⟨.receiver property :: inner, r, rfl, trips.cons trivial nofun⟩
    · exact absurd rfl (failsWith_property v property _ failed)
  | .index container place, guarded, ended => by
    rw [eval_index] at ended
    obtain ended | ⟨key, found, ended⟩ := bind_eq_error_iff.mp ended
    -- The position is no receiver, so it ends no chain.
    · exact absurd rfl (failsWith_eval registry scope place guarded.2 _ ended)
    · obtain ended | ⟨v, _, failed⟩ := bind_eq_error_iff.mp ended
      · obtain ⟨inner, r, rfl, trips⟩ := exists_trips guarded.1 ended
        refine ⟨.container place :: inner, r, rfl, trips.cons trivial ?_⟩
        rintro _ ⟨⟩
        exact ⟨key, found⟩
      · exact absurd rfl (failsWith_entry v key _ failed)
  | .call function [], guarded, ended =>
    absurd rfl (failsWith_eval registry scope (.call function []) trivial _ ended)
  | .call function (receiver :: rest), guarded, ended => by
    rw [eval] at ended
    obtain ended | ⟨args, _, failed⟩ := bind_eq_error_iff.mp ended
    · rw [evalAll] at ended
      obtain ended | ⟨v, _, ended⟩ := bind_eq_error_iff.mp ended
      · obtain ⟨inner, r, rfl, trips⟩ := exists_trips guarded.1 ended
        exact ⟨.argument function [] rest :: inner, r, rfl, trips.cons rfl nofun⟩
      · obtain ended | ⟨values, _, failed⟩ := bind_eq_error_iff.mp ended
        · exact absurd rfl (failsWith_evalAll registry scope rest guarded.2 _ ended)
        · cases failed
    · exact absurd rfl (failsWith_call registry function args _ failed)
  | .chain body, _, ended => absurd rfl (failsWith_eval_chain body _ ended)
  | .null, _, ended | .bool _, _, ended | .number _, _, ended | .text _, _, ended => by
    rw [eval] at ended
    cases ended
  | .name s, _, ended => by
    rw [eval] at ended
    exact absurd rfl (failsWith_lookup scope s _ ended)
  | .unary _ _, guarded, ended | .binary _ _ _, guarded, ended | .ternary _ _ _, guarded, ended
  | .array _, guarded, ended | .object _, guarded, ended => by
    rw [Guarded] at guarded
    refine absurd rfl (failsWith_eval registry scope _ ?_ _ ended)
    rw [Guarded]
    exact guarded

/-- Evaluated as a whole, an expression ends a chain where it does so within another one. -/
theorem evalTail_ended_iff (registry : Registry) (scope : Scope) (e : Expr) :
    evalTail registry scope e = .error .chainEnded ↔
      eval registry scope e = .error .chainEnded := by
  rcases evalTail_cases registry scope e with ⟨function, args, f, ends, found⟩ | same
  · obtain ⟨started, failed⟩ := ends.starts found
    simp [started, failed]
  · rw [same]
    cases eval registry scope e <;> simp [Except.map]

theorem alike_null_of_trips {inner : List Frame} {receiver : Expr}
    (trips : Trips registry scope inner receiver) :
    Alike registry scope (.chain (plug inner (.guard receiver))) .null := by
  have ended := eval_of_trips trips
  have tail := (evalTail_ended_iff registry scope _).mpr ended
  refine ⟨?_, ?_⟩
  · simp only [eval, ended]
  · rw [evalTail, tail]
    rfl

theorem alike_body {body : Expr} (guarded : Guarded true body)
    (none : ∀ inner receiver, body = plug inner (.guard receiver) →
      ¬ Trips registry scope inner receiver) :
    Alike registry scope (.chain body) body := by
  have unended : eval registry scope body ≠ .error .chainEnded := by
    intro ended
    obtain ⟨inner, receiver, split, trips⟩ := exists_trips guarded ended
    exact none inner receiver split trips
  refine ⟨eval_chain_of_real ?_, evalTail_chain_of_real ?_⟩
  · rintro _ failed rfl
    exact unended failed
  · rintro _ failed rfl
    exact unended ((evalTail_ended_iff registry scope body).mp failed)

end

/-- In what the parser gives, a chain stands around every guard, with nothing but receivers between
the two. So the end of a chain never gets out of the whole expression: a guard that trips makes its
own chain null, and all that is around this chain takes it for null, while a chain none of whose own
guards trips comes to the same as its body. -/
theorem guards_end_own_chain {source : String} {whole : Expr} (parsed : parse source = .ok whole) :
    (∀ frames receiver, whole = plug frames (.guard receiver) →
      ∃ outer inner, frames = outer ++ .body :: inner ∧ ∀ frame ∈ inner, frame.OfReceiver) ∧
    ∀ (registry : Registry) (scope : Scope),
      eval registry scope whole ≠ .error .chainEnded ∧
      evalTail registry scope whole ≠ .error .chainEnded ∧
      (∀ outer inner receiver, whole = plug (outer ++ .body :: inner) (.guard receiver) →
        Trips registry scope inner receiver →
        eval registry scope (.chain (plug inner (.guard receiver))) = .ok .null ∧
          evalTail registry scope (.chain (plug inner (.guard receiver))) = .ok (.value .null) ∧
          Alike registry scope whole (plug outer .null)) ∧
      ∀ outer body, whole = plug outer (.chain body) →
        (∀ inner receiver, body = plug inner (.guard receiver) →
          ¬ Trips registry scope inner receiver) →
        Alike registry scope (.chain body) body := by
  have guarded := Grammar.guarded_of_parse parsed
  constructor
  · rintro frames receiver rfl
    obtain ⟨outside, _⟩ | found := guarded.exists_chain
    · cases outside
    · exact found
  · intro registry scope
    refine ⟨fun ended => failsWith_eval registry scope whole guarded _ ended rfl,
      fun ended => failsWith_evalTail registry scope whole guarded _ ended rfl, ?_, ?_⟩
    · rintro outer inner receiver rfl trips
      have null := alike_null_of_trips trips
      refine ⟨null.value, null.tail, ?_⟩
      rw [plug_append]
      exact null.plug outer
    · rintro outer body rfl none
      exact alike_body (guarded.of_plug outer) none

/-- In `{k: {n: 'z'}}?.k[null?.x ?? 'n']` the inner chain is null, and the chain around it is not. -/
theorem guards_end_inner_chain :
    let scope : Scope := { host := {} }
    let object : Expr := .object [("k", .object [("n", .text "z")])]
    let outer : List Frame := [.body, .position (.member (.guard object) "k"),
      .left (.logical .nullish) (.text "n")]
    parse "\x7bk: \x7bn: 'z'\x7d\x7d?.k[null?.x ?? 'n']" =
      .ok (plug (outer ++ .body :: [.receiver "x"]) (.guard .null)) ∧
    eval {} scope (.chain (.member (.guard .null) "x")) = .ok .null ∧
    eval {} scope (plug (outer ++ .body :: [.receiver "x"]) (.guard .null)) = .ok (.text "z") := by
  intro scope object outer
  have parsed : parse "\x7bk: \x7bn: 'z'\x7d\x7d?.k[null?.x ?? 'n']" =
      .ok (plug (outer ++ .body :: [.receiver "x"]) (.guard .null)) := by cbv
  have trips : Trips {} scope [.receiver "x"] .null := ⟨by simp [Frame.OfReceiver], by simp, rfl⟩
  obtain ⟨_, _, own, _⟩ := (guards_end_own_chain parsed).2 {} scope
  obtain ⟨null, _, alike⟩ := own outer _ _ rfl trips
  exact ⟨parsed, null, alike.value.trans rfl⟩

end LiveConfig.Expr
