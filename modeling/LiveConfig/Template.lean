import LiveConfig.Text.Blank

set_option autoImplicit false

namespace LiveConfig

/-- A piece of a template. -/
inductive Segment where
  | text (s : String)
  | expr (source : String)
deriving DecidableEq, Repr

/-- How a string of a configuration is to be treated. -/
inductive Template where
  /-- Everything after the escape mark, never evaluated. -/
  | literal (rest : String)
  /-- One embedded expression and nothing else. -/
  | whole (source : String)
  /-- Text with embedded expressions. -/
  | interpolated (segments : List Segment)
  /-- No embedded expression. -/
  | plain
deriving DecidableEq, Repr

namespace Template

/-- The text before the first opening delimiter, and what follows that delimiter. -/
def cutOpen : List Char → Option (List Char × List Char)
  | [] => none
  | '<' :: '$' :: rest => some ([], rest)
  | c :: rest => (cutOpen rest).map fun (before, body) => (c :: before, body)

/-- Where the scan for the closing delimiter stands: outside a literal, or inside one with the given
quote, perhaps just after a backslash. -/
inductive Scan where
  | outside
  | inside (quote : Char)
  | escaped (quote : Char)
deriving DecidableEq, Repr

def Scan.next (scan : Scan) (c : Char) : Scan :=
  match scan with
  | .outside => if c = '\'' ∨ c = '"' then .inside c else .outside
  | .inside quote =>
    if c = '\\' then .escaped quote else if c = quote then .outside else .inside quote
  | .escaped quote => .inside quote

/-- The expression before the first closing delimiter outside its literals, and what follows. -/
def cutClose (scan : Scan) : List Char → Option (List Char × List Char)
  | [] => none
  | c :: rest =>
    if scan = .outside ∧ c = '$' ∧ rest.head? = some '>' then some ([], rest.tail)
    else (cutClose (scan.next c) rest).map fun (body, after) => (c :: body, after)

theorem eq_of_cutOpen {text before body : List Char} (found : cutOpen text = some (before, body)) :
    text = before ++ '<' :: '$' :: body := by
  induction text generalizing before with
  | nil => simp [cutOpen] at found
  | cons c rest ih =>
    unfold cutOpen at found
    split at found
    · cases ‹_ :: _ = []›
    · next h =>
      simp only [Option.some.injEq, Prod.mk.injEq] at found
      obtain ⟨rfl, rfl⟩ := found
      exact h
    · next h =>
      obtain ⟨rfl, rfl⟩ := List.cons.inj h
      obtain ⟨⟨front, back⟩, inner, eq⟩ := Option.map_eq_some_iff.mp found
      simp only [Prod.mk.injEq] at eq
      obtain ⟨rfl, rfl⟩ := eq
      rw [ih inner]
      rfl

theorem eq_of_cutClose {scan : Scan} {text body after : List Char}
    (found : cutClose scan text = some (body, after)) : text = body ++ '$' :: '>' :: after := by
  induction text generalizing scan body with
  | nil => simp [cutClose] at found
  | cons c rest ih =>
    unfold cutClose at found
    split at found
    · next closing =>
      obtain ⟨_, rfl, next⟩ := closing
      simp only [Option.some.injEq, Prod.mk.injEq] at found
      obtain ⟨rfl, rfl⟩ := found
      cases rest with
      | nil => simp at next
      | cons d more =>
        simp only [List.head?_cons, Option.some.injEq] at next
        simp [next]
    · obtain ⟨⟨front, back⟩, inner, eq⟩ := Option.map_eq_some_iff.mp found
      simp only [Prod.mk.injEq] at eq
      obtain ⟨rfl, rfl⟩ := eq
      rw [ih inner]
      rfl

/-- A text segment, unless it would be empty. -/
def textSegment (text : List Char) : List Segment :=
  if text = [] then [] else [.text (String.ofList text)]

/-- The segments of a template, in order. -/
def splitChars (text : List Char) : List Segment :=
  match _opened : cutOpen text with
  | none => textSegment text
  | some (before, body) =>
    match _closed : cutClose .outside body with
    | none => textSegment text
    | some (source, after) =>
      textSegment before ++ .expr (String.ofList (Text.trim source)) :: splitChars after
termination_by text.length
decreasing_by
  have whole := congrArg List.length (eq_of_cutOpen _opened)
  have inner := congrArg List.length (eq_of_cutClose _closed)
  simp only [List.length_append, List.length_cons] at whole inner
  omega

def split (s : String) : List Segment :=
  splitChars s.toList

/-- Text that is not evaluated stands after this mark. -/
def escapeMark : List Char :=
  ['$', '!', ' ']

def ofSegments (segments : List Segment) : Template :=
  match segments with
  | [.expr source] => .whole source
  | _ =>
    if segments.any fun | .expr _ => true | .text _ => false then .interpolated segments
    else .plain

/-- Classifies a string of a configuration. -/
def classify (s : String) : Template :=
  if escapeMark.isPrefixOf s.toList then
    .literal (String.ofList (s.toList.drop escapeMark.length))
  else ofSegments (split s)

end Template

end LiveConfig
