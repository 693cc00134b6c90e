import LiveConfig.Yaml.Scalar
import LiveConfig.Yaml.Token

set_option autoImplicit false

/- Cutting a document into tokens. A text turns out to be a key only at the colon behind it, so the
latest text that may be one is remembered, and the tokens that belong before it are put there
when the colon comes. -/

namespace LiveConfig.Yaml

/-- A token that may be the key of a mapping. -/
structure Candidate where
  /-- How many tokens stand before it. -/
  place : Nat
  line : Nat
  column : Nat
  offset : Nat
  /-- Nothing else than a key may stand there. -/
  required : Bool

/-- How far a document has been read. -/
structure Layout where
  /-- The tokens so far. -/
  tokens : Array Token := #[]
  /-- The columns of the open block collections, innermost first. -/
  columns : List Nat := []
  candidate : Option Candidate := none
  /-- The candidates outside of each open flow collection, innermost first. -/
  outer : List (Option Candidate) := []
  /-- Whether a key may stand here. -/
  keyAllowed : Bool := true

namespace Layout

/-- Whether a flow collection is open. -/
def flowing (l : Layout) : Bool :=
  !l.outer.isEmpty

def push (l : Layout) (token : Token) : Layout :=
  { l with tokens := l.tokens.push token }

/-- Puts tokens behind the first `place` ones. -/
def insert (l : Layout) (place : Nat) (tokens : List Token) : Layout :=
  { l with
    tokens := tokens.foldr (fun token all => all.insertIdxIfInBounds place token) l.tokens }

/-- Gives up the candidate; one that had to be a key cannot be given up. -/
def forget? (l : Layout) : Option Layout :=
  match l.candidate with
  | some c => if c.required then none else some { l with candidate := none }
  | none => some l

/-- The token that comes next may be a key, if a key may stand here. -/
def offer? (l : Layout) (g : Glyph) : Option Layout :=
  if l.keyAllowed then
    l.forget?.map fun l =>
      { l with
        candidate := some {
          place := l.tokens.size
          line := g.line
          column := g.column
          offset := g.offset
          required := !l.flowing && l.columns.head? == some g.column } }
  else some l

def isIndented (l : Layout) (column : Nat) : Bool :=
  match l.columns with
  | [] => true
  | innermost :: _ => decide (innermost < column)

/-- The tokens that open a block collection at a column, unless one is open there. -/
def opening (l : Layout) (column : Nat) (token : Token) : List Token :=
  if !l.flowing && l.isIndented column then [token] else []

/-- Notes that a block collection is open at a column. -/
def indent (l : Layout) (column : Nat) : Layout :=
  if !l.flowing && l.isIndented column then { l with columns := column :: l.columns } else l

/-- Closes the block collections whose column is not reached. -/
def closeAfter (l : Layout) (reached : Nat → Bool) : Layout :=
  if l.flowing then l
  else
    let closed := l.columns.takeWhile fun column => !reached column
    { l with
      tokens := l.tokens ++ closed.map fun _ => Token.blockEnd
      columns := l.columns.drop closed.length }

def closeAll (l : Layout) : Layout :=
  l.closeAfter fun _ => false

/-- A mark between documents ends all collections. -/
def mark? (l : Layout) (token : Token) : Option Layout :=
  l.closeAll.forget?.map fun l => { l.push token with keyAllowed := false }

def openFlow? (l : Layout) (g : Glyph) (token : Token) : Option Layout :=
  (l.offer? g).map fun l =>
    { l.push token with
      candidate := none
      outer := l.candidate :: l.outer
      keyAllowed := true }

def closeFlow? (l : Layout) (token : Token) : Option Layout :=
  l.forget?.map fun l =>
    { l.push token with
      candidate := l.outer.head?.join
      outer := l.outer.tail
      keyAllowed := false }

def comma? (l : Layout) : Option Layout :=
  l.forget?.map fun l => { l.push .comma with keyAllowed := true }

/-- An entry of a block sequence. -/
def dash? (l : Layout) (g : Glyph) : Option Layout :=
  if !l.flowing && !l.keyAllowed then none
  else
    let l := (l.insert l.tokens.size (l.opening g.column .blockSequence)).indent g.column
    l.forget?.map fun l => { l.push .dash with keyAllowed := true }

/-- A key that is announced by a question mark. -/
def key? (l : Layout) (g : Glyph) : Option Layout :=
  if !l.flowing && !l.keyAllowed then none
  else
    let l := (l.insert l.tokens.size (l.opening g.column .blockMapping)).indent g.column
    l.forget?.map fun l => { l.push .key with keyAllowed := !l.flowing }

/-- A key stands on one line and is not longer than 1024 bytes. -/
def reaches (c : Candidate) (g : Glyph) : Bool :=
  c.line == g.line && decide (g.offset ≤ c.offset + 1024)

/-- A colon behind the candidate makes it a key; any other colon begins a value without a text
before it. -/
def value? (l : Layout) (g : Glyph) : Option Layout :=
  match l.candidate.filter (reaches · g) with
  | some c =>
    let l := (l.insert c.place (l.opening c.column .blockMapping ++ [.key])).indent c.column
    some { l.push .value with candidate := none, keyAllowed := false }
  | none =>
    if !l.flowing && !l.keyAllowed then none
    else
      l.forget?.map fun l =>
        let l := (l.insert l.tokens.size (l.opening g.column .blockMapping)).indent g.column
        { l.push .value with keyAllowed := !l.flowing }

/-- A text that was read at a glyph; after a line break a key may follow it. -/
def scalar? (l : Layout) (g : Glyph) (text : List Char) (plain keyAllowed : Bool) :
    Option Layout :=
  (l.offer? g).map fun l => { l.push (.scalar (String.ofList text) plain) with keyAllowed }

/-- Passes over blanks, comments and byte order marks. Tabs may not indent a line where a key may
stand. -/
def skip (l : Layout) (inComment : Bool) : List Glyph → Layout × List Glyph
  | [] => (l, [])
  | g :: rest =>
    if g.isBreak then skip (if l.flowing then l else { l with keyAllowed := true }) false rest
    else if inComment then skip l true rest
    else if g.isLineMark then skip l false rest
    else if g.isSpace || (g.isTab && (l.flowing || !l.keyAllowed)) then skip l false rest
    else if g.char = '#' then skip l true rest
    else (l, g :: rest)

/-- The characters besides blanks and signs of entries that begin no plain text. -/
def indicators : List Char :=
  [',', '[', ']', '\x7b', '\x7d', '#', '&', '*', '!', '|', '>', '\'', '"', '%', '@',
    Char.ofNat 0x60]

/-- Whether a plain text may begin with this character. -/
def startsPlain (l : Layout) (g : Glyph) (rest : List Glyph) : Bool :=
  if g.char == '-' then
    match rest with
    | h :: _ => !h.isGap
    | [] => true
  else if g.char == '?' || g.char == ':' then !l.flowing && !Glyph.blankNext rest
  else
    !g.isBlank && !indicators.contains g.char

def margin (l : Layout) : Nat :=
  match l.columns with
  | [] => 0
  | column :: _ => column + 1

/-- Reads a plain text. -/
def plain? (l : Layout) (g : Glyph) (glyphs : List Glyph) : Option (Layout × List Glyph) := do
  let (pieces, rest) ← plain l.flowing l.margin false false glyphs
  let (inner, trailing) := splitEnd pieces
  let l ← l.scalar? g (fold .none inner) true (trailing.any Piece.isLineBreak)
  return (l, rest)

def quoted? (l : Layout) (g : Glyph) (read : Option (List Piece × List Glyph)) :
    Option (Layout × List Glyph) := do
  let (pieces, rest) ← read
  let l ← l.scalar? g (fold .none pieces) false false
  return (l, rest)

/-- Reads the token at the first of some glyphs. -/
def token? (l : Layout) (g : Glyph) (rest : List Glyph) : Option (Layout × List Glyph) :=
  if Glyph.isMark '-' (g :: rest) then (l.mark? .documentStart).map (·, rest.drop 2)
  else if Glyph.isMark '.' (g :: rest) then (l.mark? .documentEnd).map (·, rest.drop 2)
  else if g.char = '[' then (l.openFlow? g .openBracket).map (·, rest)
  else if g.char = '\x7b' then (l.openFlow? g .openBrace).map (·, rest)
  else if g.char = ']' then (l.closeFlow? .closeBracket).map (·, rest)
  else if g.char = '\x7d' then (l.closeFlow? .closeBrace).map (·, rest)
  else if g.char = ',' then l.comma?.map (·, rest)
  else if g.char = '-' ∧ Glyph.blankNext rest then (l.dash? g).map (·, rest)
  else if g.char = '?' ∧ (l.flowing ∨ Glyph.blankNext rest) then (l.key? g).map (·, rest)
  else if g.char = ':' ∧ (l.flowing ∨ Glyph.blankNext rest) then (l.value? g).map (·, rest)
  else if g.char = '\'' then l.quoted? g (singleQuoted rest)
  else if g.char = '"' then l.quoted? g (doubleQuoted 0 rest)
  else if l.startsPlain g rest then l.plain? g (g :: rest)
  else none

/-- Reads all tokens. Each takes a glyph, so as much fuel as there are glyphs is enough. -/
def readAll : Nat → Layout → List Glyph → Option Layout
  | 0, _, _ => none
  | fuel + 1, l, glyphs =>
    match l.skip false glyphs with
    | (l, []) => l.closeAll.forget?
    | (l, g :: rest) => do
      let (l, rest) ← (l.closeAfter (decide <| · ≤ g.column)).token? g rest
      readAll fuel l rest

end Layout

/-- The tokens of a document, if it can be cut into tokens. -/
def Token.lex? (text : String) : Option (List Token) := do
  let glyphs ← Glyph.ofText? text
  let layout ← Layout.readAll (glyphs.length + 1) {} glyphs
  return layout.tokens.toList

end LiveConfig.Yaml
