import LiveConfig.Text.Ranges

set_option autoImplicit false

/- White space: the characters with the White_Space property. -/

namespace LiveConfig.Text

def blankRanges : Ranges := [
  (0x9, 0xd), (0x20, 0x20), (0x85, 0x85), (0xa0, 0xa0), (0x1680, 0x1680), (0x2000, 0x200a),
  (0x2028, 0x2029), (0x202f, 0x202f), (0x205f, 0x205f), (0x3000, 0x3000)]

def isBlank (c : Char) : Bool :=
  blankRanges.contains c

/-- Every character of the core library's narrower class is white space here. -/
theorem isBlank_of_isWhitespace (c : Char) (white : c.isWhitespace = true) : isBlank c = true := by
  simp only [Char.isWhitespace, Bool.or_eq_true, decide_eq_true_eq] at white
  rcases white with ((rfl | rfl) | rfl) | rfl <;> decide

def trimStart (text : List Char) : List Char :=
  text.dropWhile isBlank

def trimEnd (text : List Char) : List Char :=
  (text.reverse.dropWhile isBlank).reverse

/-- Removes white space at both ends. -/
def trim (text : List Char) : List Char :=
  trimEnd (trimStart text)

theorem trimStart_of_head (c : Char) (text : List Char) (solid : isBlank c = false) :
    trimStart (c :: text) = c :: text := by
  simp [trimStart, solid]

/-- Trimming cuts a blank text off each end and nothing else. -/
theorem trim_append (text : List Char) :
    ∃ before after, text = before ++ trim text ++ after ∧
      (∀ c ∈ before, isBlank c = true) ∧ ∀ c ∈ after, isBlank c = true := by
  refine ⟨text.takeWhile isBlank, ((trimStart text).reverse.takeWhile isBlank).reverse, ?_, ?_, ?_⟩
  · have ending : trimEnd (trimStart text) ++
        ((trimStart text).reverse.takeWhile isBlank).reverse = trimStart text := by
      rw [trimEnd, ← List.reverse_append, List.takeWhile_append_dropWhile, List.reverse_reverse]
    rw [trim, List.append_assoc, ending, trimStart, List.takeWhile_append_dropWhile]
  · intro c member
    exact List.all_eq_true.mp List.all_takeWhile c member
  · intro c member
    exact List.all_eq_true.mp List.all_takeWhile c (List.mem_reverse.mp member)

end LiveConfig.Text
