import LiveConfig.Yaml.Folding
import LiveConfig.Yaml.Glyph

set_option autoImplicit false

namespace LiveConfig.Yaml

/-- A character of a scalar as a piece. -/
def Piece.ofGlyph (g : Glyph) : Piece :=
  if g.isGap then .gap g.char else if g.isBreak then .lineBreak g.char else .solid g.char

def addPieces (pieces : List Piece) :
    Option (List Piece × List Glyph) → Option (List Piece × List Glyph) :=
  Option.map fun (more, rest) => (pieces ++ more, rest)

/-- The rest of a text in single quotes; a quote inside it is written twice. -/
def singleQuoted : List Glyph → Option (List Piece × List Glyph)
  | [] => none
  | [g] => if g.char = '\'' then some ([], []) else none
  | g :: h :: rest =>
    if Glyph.atMark (g :: h :: rest) then none
    else if g.char = '\'' then
      if h.char = '\'' then addPieces [.solid '\''] (singleQuoted rest)
      else some ([], h :: rest)
    else addPieces [.ofGlyph g] (singleQuoted (h :: rest))

/-- Escapes of one character. -/
def escape? : Char → Option Char
  | '0' => some (Char.ofNat 0)
  | 'a' => some (Char.ofNat 7)
  | 'b' => some (Char.ofNat 8)
  | 't' => some '\t'
  | '\t' => some '\t'
  | 'n' => some '\n'
  | 'v' => some (Char.ofNat 11)
  | 'f' => some (Char.ofNat 12)
  | 'r' => some '\r'
  | 'e' => some (Char.ofNat 27)
  | ' ' => some ' '
  | '"' => some '"'
  | '/' => some '/'
  | '\\' => some '\\'
  | 'N' => some '\u0085'
  | '_' => some '\u00a0'
  | 'L' => some '\u2028'
  | 'P' => some '\u2029'
  | _ => none

/-- How many hexadecimal digits follow an escape that names a code point. -/
def escapeWidth? : Char → Option Nat
  | 'x' => some 2
  | 'u' => some 4
  | 'U' => some 8
  | _ => none

def hexValue? (c : Char) : Option Nat :=
  if '0' ≤ c ∧ c ≤ '9' then some (c.toNat - '0'.toNat)
  else if 'a' ≤ c ∧ c ≤ 'f' then some (c.toNat - 'a'.toNat + 10)
  else if 'A' ≤ c ∧ c ≤ 'F' then some (c.toNat - 'A'.toNat + 10)
  else none

/-- The character that some hexadecimal digits name. -/
def codePoint? (digits : List Glyph) : Option Char := do
  let values ← digits.mapM fun g => hexValue? g.char
  let code := values.foldl (fun code digit => 16 * code + digit) 0
  if valid : code.isValidChar then some (Char.ofNatAux code valid) else none

/-- One escape, with the backslash read already: its piece and the number of glyphs it takes. -/
def escapePiece? : List Glyph → Option (Piece × Nat)
  | [] => none
  | g :: rest =>
    if g.isBreak then some (.joint, 1)
    else
      match escapeWidth? g.char with
      | some width =>
        if rest.length < width then none
        else (codePoint? (rest.take width)).map fun c => (.solid c, width + 1)
      | none => (escape? g.char).map fun c => (.solid c, 1)

/-- The rest of a text in double quotes. The first `skip` glyphs belong to an escape that was read
already. -/
def doubleQuoted (skip : Nat) : List Glyph → Option (List Piece × List Glyph)
  | [] => none
  | g :: rest =>
    match skip with
    | skip + 1 => doubleQuoted skip rest
    | 0 =>
      if Glyph.atMark (g :: rest) then none
      else if g.char = '"' then some ([], rest)
      else if g.char = '\\' then
        match escapePiece? rest with
        | none => none
        | some (piece, taken) => addPieces [piece] (doubleQuoted taken rest)
      else addPieces [.ofGlyph g] (doubleQuoted 0 rest)

/-- Whether a colon inside a flow collection stands directly before an indicator, which is an
error. -/
def strayColon : List Glyph → Bool
  | g :: h :: _ => g.char == ':' && [',', '?', '[', ']', '\x7b', '\x7d'].contains h.char
  | _ => false

def isFlowIndicator (c : Char) : Bool :=
  [',', '[', ']', '\x7b', '\x7d'].contains c

/-- The pieces of a plain text. It ends before a colon and a blank, before a comment, at a mark
between documents, inside a flow collection before an indicator, and outside of one where a line
begins left of column `margin`. A glyph is `fresh` when it follows a blank; the line is `indented`
when a break and only spaces come before the glyph. -/
def plain (flowing : Bool) (margin : Nat) (fresh broken : Bool) :
    List Glyph → Option (List Piece × List Glyph)
  | [] => some ([], [])
  | g :: rest =>
    if g.isBlank then
      if g.isTab && broken && decide (g.column < margin) then none
      else addPieces [.ofGlyph g] (plain flowing margin true (broken || g.isBreak) rest)
    else if fresh &&
        (Glyph.atMark (g :: rest) || g.char == '#' || (!flowing && decide (g.column < margin))) then
      some ([], g :: rest)
    else if flowing && strayColon (g :: rest) then none
    else if (g.char == ':' && Glyph.blankNext rest) || (flowing && isFlowIndicator g.char) then
      some ([], g :: rest)
    else addPieces [.solid g.char] (plain flowing margin false false rest)

end LiveConfig.Yaml
