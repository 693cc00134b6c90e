import LiveConfig.Command.Arguments

set_option autoImplicit false

namespace LiveConfig.Command

def versionText : String := "config-template 0.1.0\n"

def logLevelHelp : String :=
  "      --log-level <LEVEL>  Log filter used when RUST_LOG is not set (e.g. debug,\n" ++
  "                           config_template=trace) [default: warn]\n"

def programHelp : String :=
  "Command-line host for rendering config-template instances\n\n" ++
  "Usage: config-template [OPTIONS] <COMMAND>\n\n" ++
  "Commands:\n" ++
  "  render  Render the section and style of an instance as JSON\n" ++
  "  check   Report whether moving between two host states warrants a re-render\n" ++
  "  help    Print this message or the help of the given subcommand(s)\n\n" ++
  "Options:\n" ++ logLevelHelp ++
  "  -h, --help               Print help\n" ++
  "  -V, --version            Print version\n"

def sourcesHelp : String :=
  "      --globals <FILE>     Dashboard-wide variables\n" ++
  "      --engine <FILE>      Engine settings (error sentinel, interpolation error text)\n"

def renderHelp : String :=
  "Render the section and style of an instance as JSON\n\n" ++
  "Usage: config-template render [OPTIONS] --config <FILE> --states <FILE>\n\n" ++
  "Options:\n" ++
  "      --config <FILE>      Instance configuration (YAML or JSON)\n" ++
  "      --states <FILE>      Host state: entity states and the current user\n" ++ sourcesHelp ++
  "      --compact            Print compact JSON\n" ++ logLevelHelp ++
  "  -h, --help               Print help\n"

def checkHelp : String :=
  "Report whether moving between two host states warrants a re-render\n\n" ++
  "Usage: config-template check [OPTIONS] --config <FILE> --old <FILE> --new <FILE>\n\n" ++
  "Options:\n" ++
  "      --config <FILE>      Instance configuration (YAML or JSON)\n" ++
  "      --old <FILE>         Host state of the last render\n" ++
  "      --new <FILE>         Incoming host state\n" ++ sourcesHelp ++ logLevelHelp ++
  "  -h, --help               Print help\n"

def helpHelp : String :=
  "Print this message or the help of the given subcommand(s)\n\n" ++
  "Usage: config-template help [COMMAND]...\n\n" ++
  "Arguments:\n" ++
  "  [COMMAND]...  Print help for the subcommand(s)\n"

def Topic.text : Topic → String
  | .program => programHelp
  | .render => renderHelp
  | .check => checkHelp
  | .help => helpHelp

end LiveConfig.Command
