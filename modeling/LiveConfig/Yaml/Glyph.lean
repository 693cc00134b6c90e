set_option autoImplicit false

namespace LiveConfig.Yaml

structure Glyph where
  char : Char
  line : Nat
  column : Nat
  /-- Counts the bytes of the characters before it. -/
  offset : Nat

namespace Glyph

def isSpace (g : Glyph) : Bool :=
  g.char == ' '

def isTab (g : Glyph) : Bool :=
  g.char == '\t'

def isGap (g : Glyph) : Bool :=
  g.isSpace || g.isTab

def isBreakChar (c : Char) : Bool :=
  c == '\n' || c == '\u2028' || c == '\u2029'

def isBreak (g : Glyph) : Bool :=
  isBreakChar g.char

def isBlank (g : Glyph) : Bool :=
  g.isGap || g.isBreak

/-- A byte order mark may stand at the beginning of any line. -/
def isLineMark (g : Glyph) : Bool :=
  g.column == 0 && g.char == '\ufeff'

/-- The characters that a document may hold. -/
def admits (c : Char) : Bool :=
  let code := c.toNat
  code == 0x9 || code == 0xa || code == 0xd || (0x20 ≤ code && code ≤ 0x7e) || code == 0x85
    || (0xa0 ≤ code && code ≤ 0xfffd) || 0x10000 ≤ code

/-- Gives each character its place. -/
def locate (line column offset : Nat) : List Char → List Glyph
  | [] => []
  | '\r' :: '\n' :: rest => ⟨'\n', line, column, offset⟩ :: locate (line + 1) 0 (offset + 2) rest
  | c :: rest =>
    let next := offset + c.utf8Size
    if c = '\r' ∨ c = '\u0085' then ⟨'\n', line, column, offset⟩ :: locate (line + 1) 0 next rest
    else if isBreakChar c then ⟨c, line, column, offset⟩ :: locate (line + 1) 0 next rest
    else ⟨c, line, column, offset⟩ :: locate line (column + 1) next rest

/-- The characters of a document, unless one of them may not stand in it. -/
def ofText? (text : String) : Option (List Glyph) :=
  if text.toList.all admits then some (locate 0 0 0 text.toList) else none

/-- Whether the end or a blank comes next. -/
def blankNext : List Glyph → Bool
  | [] => true
  | g :: _ => g.isBlank

/-- Whether the line begins with a mark of three equal characters between documents. -/
def isMark (c : Char) : List Glyph → Bool
  | a :: b :: d :: rest =>
    a.column == 0 && a.char == c && b.char == c && d.char == c && blankNext rest
  | _ => false

/-- Whether the line begins with the start or the end of a document. -/
def atMark (glyphs : List Glyph) : Bool :=
  isMark '-' glyphs || isMark '.' glyphs

end Glyph

end LiveConfig.Yaml
