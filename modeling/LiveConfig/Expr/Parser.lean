import LiveConfig.Expr
import LiveConfig.Expr.Token.Lexer

set_option autoImplicit false

/- Reading tokens into a syntax tree by recursive descent. Every function takes the tokens still to
be read and gives back those it left. The fuel bounds the depth of the descent; `parseTokens`
supplies enough for its tokens. -/

namespace LiveConfig.Expr

/-- Why tokens form no expression. -/
inductive ParseCause where
  | lexical (cause : Token.LexCause)
  | empty
  | unexpected (token : Token)
  | noTernaryColon
  | noCloseBracket
  | noCloseParen
  | noOpenParen
  | noCloseBrace
  | noKeyColon
  | noProperty
  | noKey
  | outOfFuel

def ParseCause.message : ParseCause → String
  | .lexical cause => cause.message
  | .empty => "empty expression"
  | .unexpected token => "unexpected token: " ++ token.display
  | .noTernaryColon => "expected ':' in ternary expression"
  | .noCloseBracket => "expected ']'"
  | .noCloseParen => "expected ')'"
  | .noOpenParen => "expected '('"
  | .noCloseBrace => "expected '\x7d'"
  | .noKeyColon => "expected ':' after object key"
  | .noProperty => "expected property name after '.'"
  | .noKey => "expected object key"
  | .outOfFuel => "expression is nested too deeply"

/-- A refusal and the tokens from the refused one on. -/
structure Refusal where
  cause : ParseCause
  left : List Token

-- Steps past the last token are not counted. Only where tokens end without an `eof` do they matter,
-- and there only to the position of a refusal.
/-- Past the last token stands `eof`. -/
def peek (tokens : List Token) : Token :=
  tokens.headD .eof

/-- Whether the next token is the given symbol. -/
def sees (symbol : Symbol) (tokens : List Token) : Bool :=
  match peek tokens with
  | .symbol s => decide (s = symbol)
  | _ => false

/-- The tokens after the given symbol, which has to come next. -/
def expect (symbol : Symbol) (cause : ParseCause) (tokens : List Token) :
    Except Refusal (List Token) :=
  if sees symbol tokens then .ok tokens.tail else .error ⟨cause, tokens⟩

/-- The binary operators of one precedence. -/
abbrev Level := List (Symbol × BinaryOp)

/-- The precedences of the binary operators, loosest first. All of them associate to the left. -/
def levels : List Level := [
  [(.nullish, .logical .nullish)],
  [(.or, .logical .or)],
  [(.and, .logical .and)],
  [(.equal, .equal), (.unequal, .unequal)],
  [(.less, .comparison .less), (.lessEqual, .comparison .lessEqual),
    (.greater, .comparison .greater), (.greaterEqual, .comparison .greaterEqual)],
  [(.plus, .arithmetic .add), (.minus, .arithmetic .subtract)],
  [(.star, .arithmetic .multiply), (.slash, .arithmetic .divide), (.percent, .arithmetic .modulo)]]

/-- The operator of the level that a token is written as. -/
def Level.operator? (level : Level) (token : Token) : Option BinaryOp :=
  match token with
  | .symbol s => level.lookup s
  | _ => none

def unaryOperator? : Token → Option UnaryOp
  | .symbol .not => some .not
  | .symbol .minus => some .negate
  | _ => none

/-- A chain is marked as a whole when one of its steps is optional. -/
def closeChain (optional : Bool) (e : Expr) : Expr :=
  if optional then .chain e else e

mutual

/-- An expression: a condition with two branches, or an expression without. -/
def parseTernary (fuel : Nat) (tokens : List Token) : Except Refusal (Expr × List Token) :=
  match fuel with
  | 0 => .error ⟨.outOfFuel, tokens⟩
  | fuel + 1 => do
    let (condition, tokens) ← parseLevels fuel levels tokens
    if sees .question tokens then
      let (yes, tokens) ← parseTernary fuel tokens.tail
      let tokens ← expect .colon .noTernaryColon tokens
      let (no, tokens) ← parseTernary fuel tokens
      return (.ternary condition yes no, tokens)
    else return (condition, tokens)

/-- An expression of the given precedences and of all tighter ones. -/
def parseLevels (fuel : Nat) (remaining : List Level) (tokens : List Token) :
    Except Refusal (Expr × List Token) :=
  match fuel with
  | 0 => .error ⟨.outOfFuel, tokens⟩
  | fuel + 1 =>
    match remaining with
    | [] => parseUnary fuel tokens
    | level :: tighter => do
      let (left, tokens) ← parseLevels fuel tighter tokens
      parseOperands fuel level tighter left tokens

/-- The operators of one level and their right operands, after a left operand. -/
def parseOperands (fuel : Nat) (level : Level) (tighter : List Level) (left : Expr)
    (tokens : List Token) : Except Refusal (Expr × List Token) :=
  match fuel with
  | 0 => .error ⟨.outOfFuel, tokens⟩
  | fuel + 1 =>
    match level.operator? (peek tokens) with
    | none => return (left, tokens)
    | some op => do
      let (right, tokens) ← parseLevels fuel tighter tokens.tail
      parseOperands fuel level tighter (.binary op left right) tokens

/-- Operators in front of a postfix chain. -/
def parseUnary (fuel : Nat) (tokens : List Token) : Except Refusal (Expr × List Token) :=
  match fuel with
  | 0 => .error ⟨.outOfFuel, tokens⟩
  | fuel + 1 =>
    match unaryOperator? (peek tokens) with
    | none => do
      let (receiver, tokens) ← parsePrimary fuel tokens
      parseSteps fuel false receiver tokens
    | some op => do
      let (operand, tokens) ← parseUnary fuel tokens.tail
      return (.unary op operand, tokens)

/-- The steps of a postfix chain: members, method calls and indexes. -/
def parseSteps (fuel : Nat) (optional : Bool) (receiver : Expr) (tokens : List Token) :
    Except Refusal (Expr × List Token) :=
  match fuel with
  | 0 => .error ⟨.outOfFuel, tokens⟩
  | fuel + 1 =>
    if sees .dot tokens then
      parseProperty fuel optional receiver tokens.tail
    else if sees .optionalDot tokens then
      parseProperty fuel true (.guard receiver) tokens.tail
    else if sees .openBracket tokens then do
      let (place, tokens) ← parseTernary fuel tokens.tail
      let tokens ← expect .closeBracket .noCloseBracket tokens
      parseSteps fuel optional (.index receiver place) tokens
    else return (closeChain optional receiver, tokens)

/-- The property after a point, which is a method when arguments follow, and the further steps. -/
def parseProperty (fuel : Nat) (optional : Bool) (receiver : Expr) (tokens : List Token) :
    Except Refusal (Expr × List Token) :=
  match fuel with
  | 0 => .error ⟨.outOfFuel, tokens⟩
  | fuel + 1 =>
    match peek tokens with
    | .name property =>
      if sees .openParen tokens.tail then do
        let (arguments, tokens) ← parseArguments fuel tokens.tail
        parseSteps fuel optional (.call property (receiver :: arguments)) tokens
      else parseSteps fuel optional (.member receiver property) tokens.tail
    | _ => .error ⟨.noProperty, tokens.tail⟩

/-- A literal, a name, a call, or an expression in parentheses. -/
def parsePrimary (fuel : Nat) (tokens : List Token) : Except Refusal (Expr × List Token) :=
  match fuel with
  | 0 => .error ⟨.outOfFuel, tokens⟩
  | fuel + 1 =>
    match peek tokens with
    | .null => return (.null, tokens.tail)
    | .bool b => return (.bool b, tokens.tail)
    | .number x => return (.number x, tokens.tail)
    | .text s => return (.text s, tokens.tail)
    | .name s =>
      if sees .openParen tokens.tail then do
        let (arguments, tokens) ← parseArguments fuel tokens.tail
        return (.call s arguments, tokens)
      else return (.name s, tokens.tail)
    | .symbol .openParen => do
      let (e, tokens) ← parseTernary fuel tokens.tail
      let tokens ← expect .closeParen .noCloseParen tokens
      return (e, tokens)
    | .symbol .openBracket => do
      let (items, tokens) ← parseItems fuel .closeBracket tokens.tail
      let tokens ← expect .closeBracket .noCloseBracket tokens
      return (.array items, tokens)
    | .symbol .openBrace => do
      let (fields, tokens) ← parseFields fuel tokens.tail
      let tokens ← expect .closeBrace .noCloseBrace tokens
      return (.object fields, tokens)
    | token => .error ⟨.unexpected token, tokens⟩

/-- Arguments in parentheses. -/
def parseArguments (fuel : Nat) (tokens : List Token) : Except Refusal (List Expr × List Token) :=
  match fuel with
  | 0 => .error ⟨.outOfFuel, tokens⟩
  | fuel + 1 => do
    let tokens ← expect .openParen .noOpenParen tokens
    let (arguments, tokens) ← parseItems fuel .closeParen tokens
    let tokens ← expect .closeParen .noCloseParen tokens
    return (arguments, tokens)

/-- Expressions with commas between them, up to the closing symbol; a comma may stand before it. -/
def parseItems (fuel : Nat) (close : Symbol) (tokens : List Token) :
    Except Refusal (List Expr × List Token) :=
  match fuel with
  | 0 => .error ⟨.outOfFuel, tokens⟩
  | fuel + 1 =>
    if sees close tokens then return ([], tokens)
    else do
      let (item, tokens) ← parseTernary fuel tokens
      if sees .comma tokens then
        let (items, tokens) ← parseItems fuel close tokens.tail
        return (item :: items, tokens)
      else return ([item], tokens)

/-- The entries of an object literal, like the items of an array. -/
def parseFields (fuel : Nat) (tokens : List Token) :
    Except Refusal (List (String × Expr) × List Token) :=
  match fuel with
  | 0 => .error ⟨.outOfFuel, tokens⟩
  | fuel + 1 =>
    if sees .closeBrace tokens then return ([], tokens)
    else do
      let (field, tokens) ← parseField fuel tokens
      if sees .comma tokens then
        let (fields, tokens) ← parseFields fuel tokens.tail
        return (field :: fields, tokens)
      else return ([field], tokens)

/-- A key, which is a name or a text, and its value. -/
def parseField (fuel : Nat) (tokens : List Token) : Except Refusal ((String × Expr) × List Token) :=
  match fuel with
  | 0 => .error ⟨.outOfFuel, tokens⟩
  | fuel + 1 => do
    let key ← match peek tokens with
      | .name s => pure s
      | .text s => pure s
      | _ => .error ⟨.noKey, tokens.tail⟩
    let tokens ← expect .colon .noKeyColon tokens.tail
    let (value, tokens) ← parseTernary fuel tokens
    return ((key, value), tokens)

end

/-- Enough fuel for any list of tokens: between two tokens the descent passes each precedence
once. -/
def fuelFor (tokens : List Token) : Nat :=
  16 * (tokens.length + 1)

def isEof : Token → Bool
  | .eof => true
  | _ => false

/-- Reads all tokens up to `eof` as one expression. -/
def parseTokens (tokens : List Token) : Except Refusal Expr :=
  if isEof (peek tokens) then .error ⟨.empty, tokens⟩
  else do
    let (e, left) ← parseTernary (fuelFor tokens) tokens
    if isEof (peek left) then return e else .error ⟨.unexpected (peek left), left⟩

/-- A refusal and where it stands: the number of bytes before it for the text's tokens, the number
of tokens before it for their order. -/
structure ParseError where
  cause : ParseCause
  position : Nat

def ParseError.message (e : ParseError) : String :=
  e.cause.message

def ParseError.display (e : ParseError) : String :=
  "parse error at position " ++ toString e.position ++ ": " ++ e.message

/-- Reads a text as one expression. -/
def parse (source : String) : Except ParseError Expr :=
  match Token.lex source with
  | .error e => .error ⟨.lexical e.cause, e.position⟩
  | .ok tokens =>
    (parseTokens tokens).mapError fun refusal =>
      ⟨refusal.cause, tokens.length - refusal.left.length⟩

end LiveConfig.Expr
