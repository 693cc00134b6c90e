import LiveConfig.Yaml
import LiveConfig.Yaml.Token.Lexer

set_option autoImplicit false

namespace LiveConfig.Yaml

/-- Whether an entry of a block collection was left out before this token. -/
def Token.endsEntry : Token → Bool
  | .key => true
  | .value => true
  | .blockEnd => true
  | _ => false

/-- Whether a node inside a flow collection was left out before this token. -/
def Token.endsFlow (close : Token) (token : Token) : Bool :=
  token == .comma || token == close

/-- Passes over the comma that stands before every item but the first. -/
def afterComma? (first : Bool) (tokens : List Token) : Option (List Token) :=
  if first then some tokens
  else
    match tokens with
    | .comma :: rest => some rest
    | _ => none

mutual

/-- A node. Block collections stand in blocks only; a block sequence need not be indented inside a
mapping. -/
def node (block unindented : Bool) : Nat → List Token → Option (Yaml × List Token)
  | 0, _ => none
  | _ + 1, [] => none
  | fuel + 1, token :: rest =>
    match token with
    | .scalar text plain => some (.scalar text plain, rest)
    | .openBracket => (flowItems true fuel rest).map fun (items, rest) => (.sequence items, rest)
    | .openBrace => (flowEntries true fuel rest).map fun (entries, rest) => (.mapping entries, rest)
    | .dash =>
      if unindented then
        (dashes fuel (token :: rest)).map fun (items, rest) => (.sequence items, rest)
      else none
    | .blockSequence =>
      if block then (blockItems fuel rest).map fun (items, rest) => (.sequence items, rest)
      else none
    | .blockMapping =>
      if block then (blockEntries fuel rest).map fun (entries, rest) => (.mapping entries, rest)
      else none
    | _ => none

/-- A node, or nothing before a token that ends its place. -/
def optionalNode (block unindented : Bool) (ends : Token → Bool) :
    Nat → List Token → Option (Yaml × List Token)
  | 0, _ => none
  | _ + 1, [] => none
  | fuel + 1, token :: rest =>
    if ends token then some (empty, token :: rest) else node block unindented fuel (token :: rest)

/-- The entries of a block sequence, up to its end. -/
def blockItems : Nat → List Token → Option (List Yaml × List Token)
  | 0, _ => none
  | _ + 1, .blockEnd :: rest => some ([], rest)
  | fuel + 1, .dash :: rest => do
    let (item, rest) ← optionalNode true false (fun t => t == .dash || t == .blockEnd) fuel rest
    let (items, rest) ← blockItems fuel rest
    return (item :: items, rest)
  | _ + 1, _ => none

/-- The entries of a sequence that is not indented; it ends where no dash follows. -/
def dashes : Nat → List Token → Option (List Yaml × List Token)
  | 0, _ => none
  | fuel + 1, .dash :: rest => do
    let (item, rest) ← optionalNode true false (fun t => t == .dash || t.endsEntry) fuel rest
    let (items, rest) ← dashes fuel rest
    return (item :: items, rest)
  | _ + 1, rest => some ([], rest)

/-- The entries of a block mapping, up to its end. -/
def blockEntries : Nat → List Token → Option (List (Yaml × Yaml) × List Token)
  | 0, _ => none
  | _ + 1, .blockEnd :: rest => some ([], rest)
  | fuel + 1, .key :: rest => do
    let (name, rest) ← optionalNode true true Token.endsEntry fuel rest
    let (value, rest) ←
      match rest with
      | .value :: rest => optionalNode true true Token.endsEntry fuel rest
      | rest => some (empty, rest)
    let (entries, rest) ← blockEntries fuel rest
    return ((name, value) :: entries, rest)
  | _ + 1, _ => none

/-- The value of an entry inside a flow collection, which may be left out. -/
def flowValue (close : Token) : Nat → List Token → Option (Yaml × List Token)
  | 0, _ => none
  | fuel + 1, .value :: rest => optionalNode false false (Token.endsFlow close) fuel rest
  | _ + 1, rest => some (empty, rest)

/-- An entry inside a flow collection, behind the mark of its key. -/
def flowEntry (close : Token) : Nat → List Token → Option ((Yaml × Yaml) × List Token)
  | 0, _ => none
  | fuel + 1, tokens => do
    let (name, rest) ←
      optionalNode false false (fun t => t == .value || t.endsFlow close) fuel tokens
    let (value, rest) ← flowValue close fuel rest
    return ((name, value), rest)

/-- The items of a flow sequence, up to its end. An item with a key is a mapping of its own. -/
def flowItems (first : Bool) : Nat → List Token → Option (List Yaml × List Token)
  | 0, _ => none
  | _ + 1, .closeBracket :: rest => some ([], rest)
  | fuel + 1, tokens => do
    let tokens ← afterComma? first tokens
    match tokens with
    | .closeBracket :: rest => return ([], rest)
    | .key :: rest =>
      let (entry, rest) ← flowEntry .closeBracket fuel rest
      let (items, rest) ← flowItems false fuel rest
      return (.mapping [entry] :: items, rest)
    | tokens =>
      let (item, rest) ← node false false fuel tokens
      let (items, rest) ← flowItems false fuel rest
      return (item :: items, rest)

/-- The entries of a flow mapping, up to its end. An entry without a key mark has no value. -/
def flowEntries (first : Bool) : Nat → List Token → Option (List (Yaml × Yaml) × List Token)
  | 0, _ => none
  | _ + 1, .closeBrace :: rest => some ([], rest)
  | fuel + 1, tokens => do
    let tokens ← afterComma? first tokens
    match tokens with
    | .closeBrace :: rest => return ([], rest)
    | .key :: rest =>
      let (entry, rest) ← flowEntry .closeBrace fuel rest
      let (entries, rest) ← flowEntries false fuel rest
      return (entry :: entries, rest)
    | tokens =>
      let (name, rest) ← node false false fuel tokens
      let (entries, rest) ← flowEntries false fuel rest
      return ((name, empty) :: entries, rest)

end

/-- The content of a document that was opened by a mark. -/
def content (fuel : Nat) (tokens : List Token) : Option (Yaml × List Token) :=
  match tokens with
  | [] => some (empty, [])
  | .documentStart :: _ => some (empty, tokens)
  | .documentEnd :: _ => some (empty, tokens)
  | _ => node true false fuel tokens

/-- The only document in some tokens; nothing if there is none. -/
def ofTokens? (tokens : List Token) : Option (Option Yaml) :=
  let fuel := 4 * tokens.length + 4
  match tokens with
  | [] => some none
  | .documentStart :: rest => (content fuel rest).bind fun (root, rest) => finish root rest
  | tokens => (node true false fuel tokens).bind fun (root, rest) => finish root rest
where
  finish (root : Yaml) (rest : List Token) : Option (Option Yaml) :=
    if rest.all (· == .documentEnd) then some (some root) else none

/-- Reads a text with at most one document. -/
def read? (text : String) : Option (Option Yaml) :=
  (Token.lex? text).bind ofTokens?

end LiveConfig.Yaml
