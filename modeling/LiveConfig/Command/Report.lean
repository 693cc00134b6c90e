import LiveConfig.Event

set_option autoImplicit false

namespace LiveConfig.Command

/-- A line of a report. -/
inductive Line where
  /-- What is done with which configuration. -/
  | header (action path : String)
  | done (message : String)
  | warning (message : String)
  | failed (source message : String)
  | note (message : String)

/-- A text in a style of the terminal. -/
def paint (style text : String) : String :=
  "\x1b[" ++ style ++ "m" ++ text ++ "\x1b[0m"

def padLeft (width : Nat) (text : String) : String :=
  String.ofList (List.replicate (width - text.length) ' ') ++ text

namespace Line

def render : Line → String
  | .header action path => paint "1;36" (padLeft 12 action) ++ " " ++ path
  | .done message => paint "32" "  ✓" ++ " " ++ message
  | .warning message => paint "33" "  !" ++ " " ++ message
  | .failed source message => paint "1;31" "failed:" ++ " '" ++ source ++ "': " ++ message
  | .note message => paint "2" ("  " ++ message)

def ofEvent : Event → Line
  | .expressionFailed source failure => .failed source failure.message
  | .entitiesIgnored complaint => .warning ("Entity list ignored: " ++ complaint.message)
  | .configWarning w => .warning w.message
  | .staticsReady generation =>
    .note ("static variables ready (generation " ++ toString generation ++ ")")
  | .staticsDiscarded generation =>
    .note ("discarded static variables (generation " ++ toString generation ++ ")")

end Line

/-- All lines, each with its end. -/
def renderLines (lines : List Line) : String :=
  String.join (lines.map fun line => line.render ++ "\n")

end LiveConfig.Command
