import LiveConfig.Text.CaseTable

set_option autoImplicit false

/- Full case mapping of texts. A capital sigma at the end of a word becomes a final sigma; no other
character depends on its neighbours. -/

namespace LiveConfig.Text

def CaseRun.covers (run : CaseRun) (code : Nat) : Bool :=
  decide (run.first ≤ code) && decide (code ≤ run.last) && (code - run.first) % run.stride == 0

/-- The image of one character under a table of expansions and a table of runs. -/
def mapCase (expansions : List (Nat × List Nat)) (runs : List CaseRun) (c : Char) : List Char :=
  match expansions.find? (fun entry => entry.1 == c.toNat) with
  | some (_, codes) => codes.map Char.ofNat
  | none =>
    match runs.find? (fun run => run.covers c.toNat) with
    | some run => [Char.ofNat ((c.toNat : Int) + run.shift).toNat]
    | none => [c]

def upperChar (c : Char) : List Char :=
  if c.toNat < 128 then [c.toUpper] else mapCase upperExpansions upperRuns c

def lowerChar (c : Char) : List Char :=
  if c.toNat < 128 then [c.toLower] else mapCase lowerExpansions lowerRuns c

def toUpper (text : List Char) : List Char :=
  text.flatMap upperChar

/-- Whether the first character that is not passed over has case. -/
def meetsCased (text : List Char) : Bool :=
  match text.dropWhile caseIgnorableRanges.contains with
  | c :: _ => casedRanges.contains c
  | [] => false

/-- Lower case of a text that follows the characters `before`, nearest first. A sigma is final when
a cased letter stands before it and none after it. -/
def toLowerAfter (before : List Char) : List Char → List Char
  | [] => []
  | 'Σ' :: rest =>
    let sigma := if meetsCased before && !meetsCased rest then 'ς' else 'σ'
    sigma :: toLowerAfter ('Σ' :: before) rest
  | c :: rest => lowerChar c ++ toLowerAfter (c :: before) rest

def toLower (text : List Char) : List Char :=
  toLowerAfter [] text

theorem toUpper_append (first second : List Char) :
    toUpper (first ++ second) = toUpper first ++ toUpper second := by
  simp [toUpper]

end LiveConfig.Text
