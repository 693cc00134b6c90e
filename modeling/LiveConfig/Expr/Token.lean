import LiveConfig.Number.Text

set_option autoImplicit false

namespace LiveConfig

/-- Operators and delimiters. -/
inductive Symbol where
  | plus
  | minus
  | star
  | slash
  | percent
  | equal
  | unequal
  | less
  | lessEqual
  | greater
  | greaterEqual
  | and
  | or
  | nullish
  | not
  | dot
  | optionalDot
  | comma
  | colon
  | question
  | openParen
  | closeParen
  | openBracket
  | closeBracket
  | openBrace
  | closeBrace
deriving DecidableEq, Repr

/-- How a symbol is written. -/
def Symbol.text : Symbol → String
  | .plus => "+"
  | .minus => "-"
  | .star => "*"
  | .slash => "/"
  | .percent => "%"
  | .equal => "=="
  | .unequal => "!="
  | .less => "<"
  | .lessEqual => "<="
  | .greater => ">"
  | .greaterEqual => ">="
  | .and => "&&"
  | .or => "||"
  | .nullish => "??"
  | .not => "!"
  | .dot => "."
  | .optionalDot => "?."
  | .comma => ","
  | .colon => ":"
  | .question => "?"
  | .openParen => "("
  | .closeParen => ")"
  | .openBracket => "["
  | .closeBracket => "]"
  | .openBrace => "\x7b"
  | .closeBrace => "\x7d"

inductive Token where
  | null
  | bool (b : Bool)
  | number (x : Float)
  | text (s : String)
  | name (s : String)
  | symbol (s : Symbol)
  | eof

/-- How messages show a token. -/
def Token.display : Token → String
  | .null => "null"
  | .bool b => if b then "true" else "false"
  | .number x => String.ofList (Number.plainText x)
  | .text s => "'" ++ s ++ "'"
  | .name s => s
  | .symbol s => s.text
  | .eof => "EOF"

end LiveConfig
