set_option autoImplicit false

namespace LiveConfig.Text

/-- The text before the leftmost occurrence of a pattern, and the text after it. -/
def cutAt? (pattern text : List Char) : Option (List Char × List Char) :=
  if pattern.isPrefixOf text then some ([], text.drop pattern.length)
  else
    match text with
    | [] => none
    | c :: rest => (cutAt? pattern rest).map fun (before, after) => (c :: before, after)

def contains (text pattern : List Char) : Bool :=
  (cutAt? pattern text).isSome

theorem eq_of_cutAt? {pattern text before after : List Char}
    (found : cutAt? pattern text = some (before, after)) : text = before ++ pattern ++ after := by
  induction text generalizing before with
  | nil =>
    unfold cutAt? at found
    split at found
    · next starts =>
      simp only [Option.some.injEq, Prod.mk.injEq, List.drop_nil] at found
      obtain ⟨rfl, rfl⟩ := found
      simp_all
    · simp at found
  | cons c rest ih =>
    unfold cutAt? at found
    split at found
    · next starts =>
      obtain ⟨remaining, eq⟩ := List.isPrefixOf_iff_prefix.mp starts
      simp only [Option.some.injEq, Prod.mk.injEq] at found
      obtain ⟨rfl, rfl⟩ := found
      simp [← eq]
    · obtain ⟨⟨front, back⟩, inner, eq⟩ := Option.map_eq_some_iff.mp found
      simp only [Prod.mk.injEq] at eq
      obtain ⟨rfl, rfl⟩ := eq
      rw [ih inner]
      rfl

theorem length_cutAt? {pattern text before after : List Char}
    (found : cutAt? pattern text = some (before, after)) :
    text.length = before.length + pattern.length + after.length := by
  rw [eq_of_cutAt? found]
  simp only [List.length_append]

/-- The pieces between the occurrences of a pattern that is not empty. -/
def pieces (pattern text : List Char) (solid : pattern ≠ []) : List (List Char) :=
  match _found : cutAt? pattern text with
  | none => [text]
  | some (before, after) => before :: pieces pattern after solid
termination_by text.length
decreasing_by
  have := length_cutAt? _found
  have := List.length_pos_iff.mpr solid
  omega

/-- The pieces of a text between the occurrences of a delimiter. The empty delimiter leaves the
single characters, with an empty piece at either end. -/
def split (delimiter text : List Char) : List (List Char) :=
  if empty : delimiter = [] then [] :: text.map ([·]) ++ [[]]
  else pieces delimiter text empty

/-- Puts a text in the place of every occurrence of a pattern that is not empty. -/
def substitute (pattern replacement text : List Char) (solid : pattern ≠ []) : List Char :=
  match _found : cutAt? pattern text with
  | none => text
  | some (before, after) => before ++ replacement ++ substitute pattern replacement after solid
termination_by text.length
decreasing_by
  have := length_cutAt? _found
  have := List.length_pos_iff.mpr solid
  omega

/-- Puts a text in the place of every occurrence of a pattern. -/
def replace (pattern replacement text : List Char) : List Char :=
  if empty : pattern = [] then replacement ++ text.flatMap (fun c => c :: replacement)
  else substitute pattern replacement text empty

/-- Texts one after another with a separator between them. -/
def join (separator : List Char) : List (List Char) → List Char
  | [] => []
  | [piece] => piece
  | piece :: rest => piece ++ separator ++ join separator rest

theorem join_cons_of_ne_nil (separator piece : List Char) (rest : List (List Char))
    (more : rest ≠ []) :
    join separator (piece :: rest) = piece ++ separator ++ join separator rest := by
  cases rest with
  | nil => exact absurd rfl more
  | cons => rfl

end LiveConfig.Text
