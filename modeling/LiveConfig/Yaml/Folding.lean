set_option autoImplicit false

namespace LiveConfig.Yaml

/-- The pieces of a scalar. -/
inductive Piece where
  | solid (c : Char)
  | gap (c : Char)
  | lineBreak (c : Char)
  /-- An escaped line break, which joins two lines. -/
  | joint

/-- Blanks whose meaning depends on what follows them. -/
inductive Seam where
  | blanks (gaps : List Char)
  | broken (first : Char) (more : List Char)
  | joined (more : List Char)

namespace Seam

def none : Seam := .blanks []

def text : Seam → List Char
  | .blanks gaps => gaps
  | .broken first more =>
    if first = '\n' then if more.isEmpty then [' '] else more else first :: more
  | .joined more => more

def addGap (c : Char) : Seam → Seam
  | .blanks gaps => .blanks (gaps ++ [c])
  | seam => seam

def addBreak (c : Char) : Seam → Seam
  | .blanks _ => .broken c []
  | .broken first more => .broken first (more ++ [c])
  | .joined more => .joined (more ++ [c])

end Seam

/-- The folded text of pieces that follow a seam; blanks at the end are kept. -/
def fold (seam : Seam) : List Piece → List Char
  | [] => seam.text
  | .solid c :: rest => seam.text ++ c :: fold .none rest
  | .gap c :: rest => fold (seam.addGap c) rest
  | .lineBreak c :: rest => fold (seam.addBreak c) rest
  | .joint :: rest => seam.text ++ fold (.joined []) rest

def Piece.isSolid : Piece → Bool
  | .solid _ => true
  | _ => false

def Piece.isLineBreak : Piece → Bool
  | .lineBreak _ => true
  | _ => false

/-- The pieces up to the last solid one, and those after it. -/
def splitEnd (pieces : List Piece) : List Piece × List Piece :=
  let backwards := pieces.reverse
  ((backwards.dropWhile (fun p => !p.isSolid)).reverse,
    (backwards.takeWhile (fun p => !p.isSolid)).reverse)

end LiveConfig.Yaml
