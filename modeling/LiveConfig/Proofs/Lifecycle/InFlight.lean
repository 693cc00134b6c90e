import LiveConfig.Proofs.Lifecycle.Snapshot

set_option autoImplicit false

namespace LiveConfig

/-- No object of what a render of the instance evaluates has a name twice. -/
structure Instance.Distinct (i : Instance) : Prop where
  config : ∀ config, i.config = some config → config.Distinct
  globals : ∀ d ∈ i.globals.dynamicVariables, d.Distinct
  locals : ∀ d ∈ i.config.bind (·.dynamicVariables), d.Distinct

/-- What a render of the instance comes to, if the calls that it starts have the given results. -/
def Instance.snapshot? (i : Instance) (results : List HostResult) : Option Rendered := do
  let source ← i.renderSource?
  return source.settle i.globals.dynamicVariables (i.config.bind (·.dynamicVariables)) results

theorem Instance.snapshot?_eq {i : Instance} {source : RenderSource}
    (found : i.renderSource? = some source) (results : List HostResult) :
    i.snapshot? results = some (source.settle i.globals.dynamicVariables
      (i.config.bind (·.dynamicVariables)) results) := by
  rw [snapshot?, found]
  rfl

namespace Session

/-- The command takes up the render of that number. -/
def Command.takesUp (id : Nat) : Command → Bool
  | .pollRender taken => taken == id
  | _ => false

/-- The calls that are started when a render is taken up. -/
def startedBy (s : Session) (id : Nat) : List Command → List CallId
  | [] => []
  | command :: rest =>
    (if command.takesUp id then s.started command else []) ++ (s.step command).2.startedBy id rest

/-- The calls of a render: those that are started when it is asked for, and those that are started
when it is taken up in the course of some commands. -/
def callsOf (s : Session) (id : Nat) (commands : List Command) : List CallId :=
  s.started .render ++ (s.step .render).2.startedBy id commands

theorem takesUp_iff {id : Nat} {command : Command} :
    command.takesUp id = true ↔ command = .pollRender id := by
  cases command <;> simp [Command.takesUp]

theorem startedBy_append (s : Session) (id : Nat) (first second : List Command) :
    s.startedBy id (first ++ second) =
      s.startedBy id first ++ (s.after first).startedBy id second := by
  induction first generalizing s with
  | nil => rfl
  | cons command rest ih =>
    rw [List.cons_append, startedBy, startedBy, ih, List.append_assoc]
    rfl

theorem callsOf_concat (s : Session) (id : Nat) (commands : List Command) :
    s.callsOf id (commands ++ [.pollRender id]) =
      s.callsOf id commands ++ (s.after (.render :: commands)).started (.pollRender id) := by
  simp only [callsOf, startedBy_append, startedBy, Command.takesUp, beq_self_eq_true, if_true,
    List.append_nil, List.append_assoc, after_cons]

theorem step_render {s : Session} {rendering : Rendering} {subject : Instance} {last : Journal}
    (rendered : s.subject.render s.journal = some (rendering, subject, last)) :
    s.step .render = match rendering.rendered? last.calls with
      | some reached => (.rendered reached, { s with subject, journal := last })
      | none => (.rendering s.renders.length,
          { s with subject, renders := s.renders ++ [some rendering], journal := last }) := by
  cases done : rendering.rendered? last.calls <;> simp only [step, render, rendered, done]

theorem step_render_of_unready {s : Session} (unready : s.subject.render s.journal = none) :
    s.step .render = (.unready, s) := by
  simp only [step, render, unready]

theorem started_render {s : Session} {rendering : Rendering} {subject : Instance} {last : Journal}
    (rendered : s.subject.render s.journal = some (rendering, subject, last)) :
    s.started .render = s.journal.since last := by
  rw [started, step_render rendered]
  split <;> rfl

theorem step_pollRender {s : Session} {id : Nat} {rendering : Rendering}
    (there : s.renders[id]? = some (some rendering)) :
    let polled := rendering.poll s.journal
    s.step (.pollRender id) = match polled.1.rendered? polled.2.calls with
      | some reached => (.rendered reached,
          { s with renders := s.renders.set id none, journal := polled.2 })
      | none => (.underWay,
          { s with renders := s.renders.set id (some polled.1), journal := polled.2 }) := by
  cases done : (rendering.poll s.journal).1.rendered? (rendering.poll s.journal).2.calls <;>
    simp only [step, pollRender, there, Option.join_some, done]

theorem step_pollRender_of_done {s : Session} {id : Nat} (done : s.renders[id]? = some none) :
    s.step (.pollRender id) = (.absent, s) := by
  simp only [step, pollRender, done, Option.join_some]

theorem started_pollRender {s : Session} {id : Nat} {rendering : Rendering}
    (there : s.renders[id]? = some (some rendering)) :
    s.started (.pollRender id) = s.journal.since (rendering.poll s.journal).2 := by
  rw [started, step_pollRender there]
  split <;> rfl

/-- A render that has started some calls is under way or done. -/
inductive InFlight (source : RenderSource) (globals locals : Option Declaration) (base : Journal)
    (id : Nat) (own : List CallId) (s : Session) : Prop where
  | done (taken : s.renders[id]? = some none) : InFlight source globals locals base id own s
  | underWay {rendering : Rendering} (there : s.renders[id]? = some (some rendering))
      (snapshot : Rendering.Snapshot source globals locals base own (rendering, s.journal)) :
      InFlight source globals locals base id own s

section

variable {source : RenderSource} {globals locals : Option Declaration} {base : Journal} {id : Nat}
  {own : List CallId} {s : Session}

theorem InFlight.step (formed : source.Formed) (distinctGlobals : ∀ d ∈ globals, d.Distinct)
    (distinctLocals : ∀ d ∈ locals, d.Distinct)
    (inFlight : InFlight source globals locals base id own s) (command : Command) :
    InFlight source globals locals base id
      (own ++ if command.takesUp id then s.started command else []) (s.step command).2 := by
  have inside : id < s.renders.length := by
    cases inFlight with
    | done taken => exact (List.getElem?_eq_some_iff.mp taken).1
    | underWay there => exact (List.getElem?_eq_some_iff.mp there).1
  by_cases taking : command.takesUp id = true
  · rw [if_pos taking]
    obtain rfl := takesUp_iff.mp taking
    cases inFlight with
    | done taken =>
      rw [step_pollRender_of_done taken]
      exact .done taken
    | @underWay rendering there snapshot =>
      have polled := snapshot.poll formed distinctGlobals distinctLocals
      rw [started_pollRender there, step_pollRender there]
      split
      · exact .done (List.getElem?_set_self inside)
      · exact .underWay (List.getElem?_set_self inside) polled
  · rw [if_neg taking, List.append_nil]
    have same := s.renders_step (mt takesUp_iff.mpr taking) inside
    cases inFlight with
    | done taken => exact .done (same.trans taken)
    | underWay there snapshot =>
      exact .underWay (same.trans there) (snapshot.pass (s.advance_step command))

theorem InFlight.after (formed : source.Formed) (distinctGlobals : ∀ d ∈ globals, d.Distinct)
    (distinctLocals : ∀ d ∈ locals, d.Distinct)
    (inFlight : InFlight source globals locals base id own s) (commands : List Command) :
    InFlight source globals locals base id (own ++ s.startedBy id commands) (s.after commands) := by
  induction commands generalizing own s with
  | nil =>
    rw [startedBy, List.append_nil]
    exact inFlight
  | cons command rest ih =>
    rw [startedBy, ← List.append_assoc]
    exact ih (inFlight.step formed distinctGlobals distinctLocals command)

theorem InFlight.rendered (formed : source.Formed) (distinctGlobals : ∀ d ∈ globals, d.Distinct)
    (distinctLocals : ∀ d ∈ locals, d.Distinct)
    (inFlight : InFlight source globals locals base id own s) {reached : Rendered}
    (response : (s.step (.pollRender id)).1 = .rendered reached) :
    let journal := (s.step (.pollRender id)).2.journal
    (∀ call ∈ own ++ s.started (.pollRender id), journal.calls.isObserved call = true) ∧
      reached = source.settle globals locals
        (journal.calls.results (own ++ s.started (.pollRender id))) := by
  cases inFlight with
  | done taken =>
    rw [step_pollRender_of_done taken] at response
    cases response
  | @underWay rendering there snapshot =>
    have polled := snapshot.poll formed distinctGlobals distinctLocals
    rw [started_pollRender there]
    rw [step_pollRender there] at response ⊢
    cases done : (rendering.poll s.journal).1.rendered? (rendering.poll s.journal).2.calls with
    | none =>
      rw [done] at response
      cases response
    | some outcome =>
      rw [done] at response
      obtain rfl : outcome = reached := Response.rendered.inj response
      exact polled.rendered formed done

end

section

variable (opens : String → HostResult)

def opening (gates : List String) : List Command :=
  gates.map fun gate => .release gate (opens gate)

variable {opens} in
theorem exists_gate_of_mem_opening {gates : List String} {command : Command}
    (member : command ∈ opening opens gates) : ∃ gate, command = .release gate (opens gate) := by
  obtain ⟨gate, _, rfl⟩ := List.mem_map.mp member
  exact ⟨gate, rfl⟩

theorem after_opening (s : Session) (gates : List String) :
    s.after (opening opens gates) = { s with journal := s.journal.openAll opens gates } := by
  induction gates generalizing s with
  | nil => rfl
  | cons gate rest ih => exact ih _

theorem advance_after (s : Session) (commands : List Command) :
    s.journal.calls.Advance (s.after commands).journal.calls := by
  induction commands generalizing s with
  | nil => exact .refl _
  | cons command rest ih => exact (s.advance_step command).trans (ih _)

theorem exists_opening (s : Session) : ∃ gates,
    let opened := (s.after (opening opens gates)).journal.calls
    ∀ id < opened.length, opened.isFinished id = true := by
  obtain ⟨gates, finished⟩ := s.journal.exists_isFinished_openAll opens
  refine ⟨gates, ?_⟩
  intro opened id inside
  simp only [opened, after_opening] at inside ⊢
  rw [Journal.calls_openAll, List.length_map] at inside
  exact finished id inside

variable {source : RenderSource} {globals locals : Option Declaration} {base : Journal} {id : Nat}
  {own : List CallId} {s : Session}

theorem exists_rendered_of_leaves {kind : Section} {body style : Walk}
    (there : s.renders[id]? = some (some (.leaves kind body style)))
    (snapshot : Rendering.Snapshot source globals locals base own
      (.leaves kind body style, s.journal)) :
    ∃ gates reached, ((s.after (opening opens gates)).step (.pollRender id)).1 =
      .rendered reached := by
  obtain ⟨gates, finished⟩ := s.exists_opening opens
  have opened := snapshot.pass (s.advance_after (opening opens gates))
  obtain ⟨reached, done⟩ := Option.isSome_iff_exists.mp (opened.isSome_rendered? finished)
  have still : (s.after (opening opens gates)).renders[id]? =
      some (some (.leaves kind body style)) := by
    rw [after_opening]
    exact there
  refine ⟨gates, reached, ?_⟩
  rw [step_pollRender still, Rendering.poll, done]

theorem rendered_or_leaves (formed : source.Formed) (distinctGlobals : ∀ d ∈ globals, d.Distinct)
    (distinctLocals : ∀ d ∈ locals, d.Distinct) {rendering : Rendering}
    (there : s.renders[id]? = some (some rendering))
    (snapshot : Rendering.Snapshot source globals locals base own (rendering, s.journal))
    (finished : ∀ call < s.journal.calls.length, s.journal.calls.isFinished call = true) :
    let polled := s.step (.pollRender id)
    (∃ reached, polled.1 = .rendered reached) ∨ ∃ kind body style,
      polled.2.renders[id]? = some (some (.leaves kind body style)) ∧
        Rendering.Snapshot source globals locals base
          (own ++ s.journal.since (rendering.poll s.journal).2)
          (.leaves kind body style, polled.2.journal) := by
  have polled := snapshot.poll formed distinctGlobals distinctLocals
  obtain ⟨kind, body, style, later, poll_eq⟩ := snapshot.exists_poll_eq finished
  have inside : id < s.renders.length := (List.getElem?_eq_some_iff.mp there).1
  dsimp only
  rw [step_pollRender there]
  rw [poll_eq] at polled ⊢
  split
  · exact .inl ⟨_, rfl⟩
  · exact .inr ⟨kind, body, style, List.getElem?_set_self inside, polled⟩

/-- A render under way is not lost: it is under way until it is taken up and handed over. -/
theorem delivered_or_underWay {rendering : Rendering}
    (there : s.renders[id]? = some (some rendering)) (commands : List Command) :
    (∃ earlier rest reached, commands = earlier ++ .pollRender id :: rest ∧
        ((s.after earlier).step (.pollRender id)).1 = .rendered reached) ∨
      ∃ rendering, (s.after commands).renders[id]? = some (some rendering) := by
  induction commands generalizing s rendering with
  | nil => exact .inr ⟨rendering, there⟩
  | cons command rest ih =>
    have inside : id < s.renders.length := (List.getElem?_eq_some_iff.mp there).1
    have onward {next : Rendering} (still : (s.step command).2.renders[id]? = some (some next)) :
        (∃ earlier after reached, command :: rest = earlier ++ .pollRender id :: after ∧
            ((s.after earlier).step (.pollRender id)).1 = .rendered reached) ∨
          ∃ rendering, (s.after (command :: rest)).renders[id]? = some (some rendering) := by
      rcases ih still with ⟨earlier, after, reached, split, delivered⟩ | underWay
      · exact .inl ⟨command :: earlier, after, reached, congrArg (command :: ·) split, delivered⟩
      · exact .inr underWay
    by_cases taking : command = .pollRender id
    · subst taking
      cases done : (rendering.poll s.journal).1.rendered? (rendering.poll s.journal).2.calls with
      | some reached =>
        refine .inl ⟨[], rest, reached, rfl, ?_⟩
        show (s.step (.pollRender id)).1 = _
        rw [step_pollRender there]
        simp only [done]
      | none =>
        apply onward
        rw [step_pollRender there]
        simp only [done]
        exact List.getElem?_set_self inside
    · exact onward ((s.renders_step taking inside).trans there)

/-- A render under way is done when it is taken up twice, each time after the gates were opened. -/
theorem InFlight.exists_rendered (formed : source.Formed)
    (distinctGlobals : ∀ d ∈ globals, d.Distinct) (distinctLocals : ∀ d ∈ locals, d.Distinct)
    (inFlight : InFlight source globals locals base id own s) {rendering : Rendering}
    (there : s.renders[id]? = some (some rendering)) :
    ∃ more reached, (∀ command ∈ more, command = .pollRender id ∨
        ∃ gate, command = .release gate (opens gate)) ∧
      ((s.after more).step (.pollRender id)).1 = .rendered reached := by
  cases inFlight with
  | done taken =>
    rw [taken] at there
    cases there
  | @underWay held same snapshot =>
    obtain rfl : held = rendering := Option.some.inj (Option.some.inj (same.symm.trans there))
    obtain ⟨gates, finished⟩ := s.exists_opening opens
    have still : (s.after (opening opens gates)).renders[id]? = some (some held) := by
      rw [after_opening]
      exact there
    have opened := snapshot.pass (s.advance_after (opening opens gates))
    obtain ⟨reached, done⟩ | ⟨kind, body, style, has_variables, polled⟩ :=
      rendered_or_leaves formed distinctGlobals distinctLocals still opened finished
    · exact ⟨opening opens gates, reached,
        fun command member => .inr (exists_gate_of_mem_opening member), done⟩
    · obtain ⟨others, reached, done⟩ := exists_rendered_of_leaves opens has_variables polled
      refine ⟨opening opens gates ++ .pollRender id :: opening opens others, reached, ?_, ?_⟩
      · intro command member
        rcases List.mem_append.mp member with first | rest
        · exact .inr (exists_gate_of_mem_opening first)
        · rcases List.mem_cons.mp rest with taken_up | rest
          · exact .inl taken_up
          · exact .inr (exists_gate_of_mem_opening rest)
      · rw [after_append]
        exact done

end

/-- A render that is started is a snapshot, and has started all calls since. -/
theorem snapshot_of_render {s : Session} (sound : s.Sound) (distinct : s.subject.Distinct)
    {rendering : Rendering} {subject : Instance} {last : Journal}
    (rendered : s.subject.render s.journal = some (rendering, subject, last)) :
    ∃ source, s.subject.renderSource? = some source ∧ source.Formed ∧
      Rendering.Snapshot source s.subject.globals.dynamicVariables
        (s.subject.config.bind (·.dynamicVariables)) s.journal (s.journal.since last)
        (rendering, last) := by
  obtain ⟨source, found, _, formed, start_eq⟩ :=
    Instance.exists_start_of_render sound.statics distinct.config rendered
  have started := Rendering.snapshot_start s.journal formed distinct.globals distinct.locals
  dsimp only at start_eq started
  rw [start_eq] at started
  exact ⟨source, found, formed, started⟩

theorem rendered_at_once {s : Session} (sound : s.Sound) (distinct : s.subject.Distinct)
    {reached : Rendered} (response : (s.step .render).1 = .rendered reached) :
    let journal := (s.step .render).2.journal
    (∀ call ∈ s.started .render, journal.calls.isObserved call = true) ∧
      s.subject.snapshot? (journal.calls.results (s.started .render)) = some reached := by
  intro journal
  cases rendered : s.subject.render s.journal with
  | none =>
    rw [step_render_of_unready rendered] at response
    cases response
  | some started =>
    obtain ⟨rendering, subject, last⟩ := started
    obtain ⟨source, found, formed, snapshot⟩ := snapshot_of_render sound distinct rendered
    have journal_eq : journal = last := by
      simp only [journal, step_render rendered]
      split <;> rfl
    rw [started_render rendered, Instance.snapshot?_eq found, journal_eq]
    rw [step_render rendered] at response
    cases done : rendering.rendered? last.calls with
    | none =>
      rw [done] at response
      cases response
    | some outcome =>
      rw [done] at response
      obtain rfl : outcome = reached := Response.rendered.inj response
      obtain ⟨observed, outcome_eq⟩ := snapshot.rendered formed done
      exact ⟨observed, congrArg some outcome_eq.symm⟩

theorem inFlight_render {s : Session} (sound : s.Sound) (distinct : s.subject.Distinct) {id : Nat}
    (response : (s.step .render).1 = .rendering id) :
    ∃ source rendering, s.subject.renderSource? = some source ∧ source.Formed ∧
      (s.step .render).2.renders[id]? = some (some rendering) ∧
        InFlight source s.subject.globals.dynamicVariables
          (s.subject.config.bind (·.dynamicVariables)) s.journal id (s.started .render)
          (s.step .render).2 := by
  cases rendered : s.subject.render s.journal with
  | none =>
    rw [step_render_of_unready rendered] at response
    cases response
  | some started =>
    obtain ⟨rendering, subject, last⟩ := started
    obtain ⟨source, found, formed, snapshot⟩ := snapshot_of_render sound distinct rendered
    rw [started_render rendered]
    rw [step_render rendered] at response ⊢
    cases done : rendering.rendered? last.calls with
    | some outcome =>
      rw [done] at response
      cases response
    | none =>
      rw [done] at response
      obtain rfl : s.renders.length = id := Response.rendering.inj response
      have there : (s.renders ++ [some rendering])[s.renders.length]? = some (some rendering) :=
        List.getElem?_concat_length
      exact ⟨source, rendering, found, formed, there, .underWay there snapshot⟩

/-- A render is a snapshot of what the instance holds when it is asked for. Whether it is done at
once or later, after any commands, it has observed all calls that it started itself, and it comes to
the value of body and style with the variables settled by the results of these calls. One that was
not handed over yet can be brought to its end by opening gates and taking it up. -/
theorem render_is_snapshot (engine : Engine) (before : List Command) :
    let s := after { subject := { engine } } before
    s.subject.Distinct →
    (∀ reached, (s.step .render).1 = .rendered reached →
      let journal := (s.step .render).2.journal
      (∀ call ∈ s.started .render, journal.calls.isObserved call = true) ∧
        s.subject.snapshot? (journal.calls.results (s.started .render)) = some reached) ∧
    ∀ id, (s.step .render).1 = .rendering id → ∀ commands,
      let u := s.after (.render :: commands)
      (∀ reached, (u.step (.pollRender id)).1 = .rendered reached →
        let own := s.callsOf id (commands ++ [.pollRender id])
        let journal := (u.step (.pollRender id)).2.journal
        (∀ call ∈ own, journal.calls.isObserved call = true) ∧
          s.subject.snapshot? (journal.calls.results own) = some reached) ∧
      ((∃ earlier rest reached, commands = earlier ++ .pollRender id :: rest ∧
          ((s.after (.render :: earlier)).step (.pollRender id)).1 = .rendered reached) ∨
        ∀ opens : String → HostResult, ∃ more reached,
          (∀ command ∈ more, command = .pollRender id ∨
            ∃ gate, command = .release gate (opens gate)) ∧
          ((u.after more).step (.pollRender id)).1 = .rendered reached) := by
  intro s distinct
  have sound : s.Sound := (sound_start engine).after before
  refine ⟨fun reached response => rendered_at_once sound distinct response, ?_⟩
  intro id response commands u
  obtain ⟨source, rendering, found, formed, there, inFlight⟩ :=
    inFlight_render sound distinct response
  have later := inFlight.after formed distinct.globals distinct.locals commands
  constructor
  · intro reached response own journal
    obtain ⟨observed, outcome_eq⟩ :=
      later.rendered formed distinct.globals distinct.locals response
    have own_eq : own = s.started .render ++ (s.step .render).2.startedBy id commands ++
        u.started (.pollRender id) := s.callsOf_concat id commands
    rw [own_eq, Instance.snapshot?_eq found]
    exact ⟨observed, congrArg some outcome_eq.symm⟩
  · rcases delivered_or_underWay there commands with delivered | ⟨_, still⟩
    · exact .inl delivered
    · exact .inr fun opens =>
        later.exists_rendered opens formed distinct.globals distinct.locals still

/-- A row with a call in its variables and one in its body. -/
def lamps : Config where
  entities := some (.array [])
  row := some (.object [("lamp", .text "<$ later('lamp') $>")])
  dynamicVariables := some (.named [("lamp", .text "<$ later('lamp') $>")])

def prepared : Session :=
  after { subject := { engine := { registry := Expr.gated } } }
    [.setConfig lamps, .setHost {}, .loadHelpers, .prepare]

/-- All that the render was started with is replaced, and the call of its variables is answered. -/
def replacing : List Command := [
  .setConfig { lamps with row := some .null, dynamicVariables := none },
  .setGlobals { dynamicVariables := some (.named [("lamp", .null)]) },
  .setHost { user := .bool true }, .shouldUpdate none, .release "gate" (.ok (.text "on"))]

/-- The call of the body is answered in its turn. -/
def answering : List Command := [.release "gate" (.ok (.text "dim"))]

/-- What the render of the row is started with. -/
def lampSource : RenderSource where
  engine := { registry := Expr.gated }
  host := {}
  statics := { tier := .static }
  kind := .row
  body := .object [("lamp", .text "<$ later('lamp') $>")]
  style := .emptyObject

/-- The variables when their call has been answered. -/
def lit (result : HostResult) : Environment where
  tier := .dynamic
  named := [("lamp", .ready (Engine.orFallback .null result))]

theorem step_render_prepared :
    prepared.step .render = (.rendering 0, { prepared with
      subject := { prepared.subject with dirty := false }
      renders := [some (.awaitingVariables lampSource ((Deferred.ofCall 0).map lit))]
      journal := {
        calls := [⟨some "later('lamp')", .waiting "gate"⟩]
        events := [.staticsReady 1] } }) := by
  have built : Environment.build { registry := Expr.gated } {} .dynamic (some { tier := .static })
      none lamps.dynamicVariables prepared.journal = ({
        tier := .dynamic
        named := [("lamp", .pending ((Deferred.ofCall 0).map (Engine.orFallback .null)))] },
      { calls := [⟨some "later('lamp')", .waiting "gate"⟩], events := [.staticsReady 1] }) := by
    simp only [lamps, Environment.build, Environment.order, Merged.merge, Merged.add,
      Fields.putAll, Fields.put, List.foldl, List.map, List.nil_append, Environment.extend,
      Environment.evaluateEntry, Walk.evaluateTemplate_later]
    rfl
  have rendered : prepared.subject.render prepared.journal = some (
      .awaitingVariables lampSource ((Deferred.ofCall 0).map lit),
      { prepared.subject with dirty := false }, {
        calls := [⟨some "later('lamp')", .waiting "gate"⟩]
        events := [.staticsReady 1] }) := by
    have source : prepared.subject.renderSource? = some lampSource := rfl
    have dynamics : prepared.subject.buildDynamic? lampSource prepared.journal = some _ :=
      congrArg some built
    simp only [Instance.render, source, Option.bind_eq_bind, Option.bind_some, dynamics]
    rfl
  rw [step_render rendered]
  rfl

/-- The row with its call under way. -/
def lampRow : Rendering :=
  .leaves .row {
      tree := .object [("lamp", .pending ((Deferred.ofCall 1).map (Engine.orFallback .null)))]
      awaited := [([.key "lamp"], (Deferred.ofCall 1).map (Engine.orFallback .null))] }
    { tree := .object [] }

theorem evaluate_lit {journal : Journal} {call : Call} (calls : journal.calls = [call]) :
    Rendering.evaluate lampSource (lit (.ok (.text "on"))) journal =
      (lampRow, (journal.start (some "later('lamp')") (.waiting "gate")).2) := by
  obtain ⟨own, events⟩ := journal
  obtain rfl : own = [call] := calls
  simp only [Rendering.evaluate, lampSource, Walk.run, Value.strings, Value.fieldStrings,
    List.foldl, Walk.visit, Walk.evaluateTemplate_later, List.append_nil]
  rfl

theorem poll_awaiting_lit (events : List Event) :
    (Rendering.awaitingVariables lampSource ((Deferred.ofCall 0).map lit)).poll
        { calls := [⟨some "later('lamp')", .arrived (.ok (.text "on"))⟩], events } =
      (lampRow, { calls := [⟨some "later('lamp')", .observed (.ok (.text "on"))⟩,
        ⟨some "later('lamp')", .waiting "gate"⟩], events }) := by
  simp only [Rendering.poll]
  rw [show (Deferred.map lit (Deferred.ofCall 0)).value? _ = some (lit (.ok (.text "on"))) from rfl]
  dsimp only
  rw [evaluate_lit rfl]
  rfl

theorem after_replacing :
    let u := prepared.after (.render :: (replacing ++ .pollRender 0 :: answering))
    u.renders = [some lampRow] ∧
      u.journal = {
        calls := [⟨some "later('lamp')", .observed (.ok (.text "on"))⟩,
          ⟨some "later('lamp')", .arrived (.ok (.text "dim"))⟩]
        events := [.staticsReady 1] } ∧
      prepared.callsOf 0 (replacing ++ .pollRender 0 :: answering) = [0, 1] := by
  have first : prepared.started .render = [0] := by
    rw [started, step_render_prepared]
    rfl
  have replaced : ((prepared.step .render).2.after replacing).renders =
        [some (.awaitingVariables lampSource ((Deferred.ofCall 0).map lit))] ∧
      ((prepared.step .render).2.after replacing).journal = {
        calls := [⟨some "later('lamp')", .arrived (.ok (.text "on"))⟩]
        events := [.staticsReady 1] } := by
    rw [step_render_prepared]
    exact ⟨rfl, rfl⟩
  have rest : (prepared.step .render).2.startedBy 0 (replacing ++ .pollRender 0 :: answering) =
      ((prepared.step .render).2.after replacing).started (.pollRender 0) ++ [] := by
    rw [startedBy_append]
    rfl
  intro u
  have u_eq : u = (((prepared.step .render).2.after replacing).step (.pollRender 0)).2.after
      answering := after_append (prepared.step .render).2 replacing (.pollRender 0 :: answering)
  rw [callsOf, rest, first]
  generalize (prepared.step .render).2.after replacing = t at replaced u_eq
  obtain ⟨renders, journal⟩ := replaced
  have there : t.renders[0]? = some (some (.awaitingVariables lampSource
      ((Deferred.ofCall 0).map lit))) := by
    rw [renders]
    rfl
  have polled := step_pollRender there
  rw [started_pollRender there]
  rw [journal, poll_awaiting_lit] at polled ⊢
  rw [u_eq, polled, renders]
  exact ⟨rfl, rfl, rfl⟩

theorem poll_lampRow (events : List Event) :
    lampRow.poll {
        calls := [⟨some "later('lamp')", .observed (.ok (.text "on"))⟩,
          ⟨some "later('lamp')", .arrived (.ok (.text "dim"))⟩]
        events } =
      (.leaves .row { tree := .object [("lamp", .ready (.text "dim"))] } { tree := .object [] }, {
        calls := [⟨some "later('lamp')", .observed (.ok (.text "on"))⟩,
          ⟨some "later('lamp')", .observed (.ok (.text "dim"))⟩]
        events }) := rfl

/-- The row shows what its own calls resulted in, although there is another configuration, and there
are other variables and another host by then. -/
theorem render_is_snapshot_later :
    let s := prepared
    let u := s.after (.render :: (replacing ++ .pollRender 0 :: answering))
    s.subject.Distinct ∧ (s.step .render).1 = .rendering 0 ∧
      (u.step (.pollRender 0)).1 = .rendered {
        kind := .row, body := .object [("lamp", .text "dim")], style := .emptyObject } ∧
      s.subject.snapshot? [.ok (.text "on"), .ok (.text "dim")] = some {
        kind := .row, body := .object [("lamp", .text "dim")], style := .emptyObject } := by
  intro s u
  obtain ⟨renders, journal, own⟩ := after_replacing
  have distinct : s.subject.Distinct := by
    refine ⟨?_, nofun, ?_⟩
    · intro config held
      obtain rfl : lamps = config := Option.some.inj held
      refine ⟨fun kind body chosen => ?_, nofun⟩
      obtain ⟨_, rfl⟩ := Prod.mk.inj (Option.some.inj chosen)
      exact Walk.distinct_later
    · intro d held
      obtain rfl : Declaration.named [("lamp", .text "<$ later('lamp') $>")] = d :=
        Option.some.inj held
      exact .named (List.nodup_singleton "lamp") (List.forall_mem_singleton.mpr (.text _))
  have rendering : (s.step .render).1 = .rendering 0 := by rw [step_render_prepared]
  obtain ⟨-, underWay⟩ := render_is_snapshot { registry := Expr.gated }
    [.setConfig lamps, .setHost {}, .loadHelpers, .prepare] distinct
  obtain ⟨settles, -⟩ := underWay 0 rendering (replacing ++ .pollRender 0 :: answering)
  have there : u.renders[0]? = some (some lampRow) := by
    rw [show u.renders = _ from renders]
    rfl
  have polled := step_pollRender there
  have started := started_pollRender there
  rw [show u.journal = _ from journal, poll_lampRow] at polled started
  have response : (u.step (.pollRender 0)).1 = .rendered {
      kind := .row, body := .object [("lamp", .text "dim")], style := .emptyObject } := by
    rw [polled]
    rfl
  have all : s.callsOf 0 ((replacing ++ .pollRender 0 :: answering) ++ [.pollRender 0]) =
      [0, 1] := by
    rw [callsOf_concat, own, started]
    rfl
  have value : s.subject.snapshot? ((u.step (.pollRender 0)).2.journal.calls.results
      (s.callsOf 0 ((replacing ++ .pollRender 0 :: answering) ++ [.pollRender 0]))) = some _ :=
    (settles _ response).2
  rw [all, polled] at value
  exact ⟨distinct, rendering, response, value⟩

end Session

end LiveConfig
