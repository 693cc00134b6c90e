import LiveConfig.Instance

set_option autoImplicit false

namespace LiveConfig

/-- An instance with builds and renders under way side by side. -/
structure Session where
  subject : Instance
  /-- All builds that were started; a build that is finished is taken out. -/
  builds : List (Option StaticBuild) := []
  /-- All renders that were not done at once; one that is done is taken out. -/
  renders : List (Option Rendering) := []
  journal : Journal := {}

namespace Session

inductive Command where
  | setConfig (config : Config)
  | setGlobals (globals : Globals)
  | setHost (host : HostState)
  | loadHelpers
  | prepare
  | beginStatic
  | finishStatic (build : Nat)
  | release (gate : String) (result : HostResult)
  | shouldUpdate (previous : Option HostState)
  | render
  | pollRender (render : Nat)
  | evaluate (source : String)

inductive Response where
  | done
  | refused (error : ConfigError)
  /-- The instance is as ready as it can be at the moment. -/
  | prepared (readiness : Readiness)
  /-- There is no build or render of that number. -/
  | absent
  /-- What was asked for is still under way. -/
  | underWay
  /-- The instance is not ready for what was asked for. -/
  | unready
  | building (build generation : Nat) (pending : Bool)
  | installed (accepted : Bool)
  | update (wanted : Bool)
  | rendering (render : Nat)
  | rendered (rendered : Rendered)
  | value (v : Value)

def beginStatic (s : Session) : Response × Session :=
  match s.subject.beginStatic s.journal with
  | none => (.unready, s)
  | some (build, journal) =>
    (.building s.builds.length build.generation build.outcome.isPending,
      { s with builds := s.builds ++ [some build], journal })

/-- Takes up what has arrived for a build, and hands it to the instance once it is settled. -/
def finishStatic (s : Session) (id : Nat) : Response × Session :=
  match s.builds[id]?.join with
  | none => (.absent, s)
  | some build =>
    let journal := build.poll s.journal
    match build.environment? journal.calls with
    | none => (.underWay, { s with journal })
    | some env =>
      let (accepted, subject, journal) := s.subject.finishStatic build.generation env journal
      (.installed accepted, { s with subject, builds := s.builds.set id none, journal })

def render (s : Session) : Response × Session :=
  match s.subject.render s.journal with
  | none => (.unready, s)
  | some (rendering, subject, journal) =>
    match rendering.rendered? journal.calls with
    | some rendered => (.rendered rendered, { s with subject, journal })
    | none =>
      (.rendering s.renders.length,
        { s with subject, renders := s.renders ++ [some rendering], journal })

def pollRender (s : Session) (id : Nat) : Response × Session :=
  match s.renders[id]?.join with
  | none => (.absent, s)
  | some rendering =>
    let (rendering, journal) := rendering.poll s.journal
    match rendering.rendered? journal.calls with
    | some rendered => (.rendered rendered, { s with renders := s.renders.set id none, journal })
    | none => (.underWay, { s with renders := s.renders.set id (some rendering), journal })

def step (s : Session) : Command → Response × Session
  | .setConfig config =>
    match s.subject.setConfig config s.journal with
    | .ok (subject, journal) => (.done, { s with subject, journal })
    | .error error => (.refused error, s)
  | .setGlobals globals => (.done, { s with subject := s.subject.setGlobals globals })
  | .setHost host => (.done, { s with subject := s.subject.setHost host })
  | .loadHelpers => (.done, { s with subject := s.subject.loadHelpers })
  | .prepare =>
    let (readiness, subject, journal) := s.subject.prepare s.journal
    ((readiness.map .prepared).getD .underWay, { s with subject, journal })
  | .beginStatic => s.beginStatic
  | .finishStatic id => s.finishStatic id
  | .release gate result => (.done, { s with journal := s.journal.release gate result })
  | .shouldUpdate previous =>
    let (wanted, journal) := s.subject.shouldUpdate previous s.journal
    (.update wanted, { s with journal })
  | .render => s.render
  | .pollRender id => s.pollRender id
  | .evaluate source =>
    let (outcome, journal) := s.subject.evaluate source s.journal
    ((outcome.ready?.map .value).getD .underWay, { s with journal })

/-- Gives commands one after another and collects the responses. -/
def run (s : Session) : List Command → List Response × Session
  | [] => ([], s)
  | command :: rest =>
    let (response, s) := s.step command
    let (responses, s) := run s rest
    (response :: responses, s)

end Session

end LiveConfig
