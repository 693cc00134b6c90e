import LiveConfig.Text.Search

set_option autoImplicit false

namespace LiveConfig.Text

/-- The number of places at which a pattern begins. -/
def occurrences (pattern : List Char) : List Char → Nat
  | [] => 0
  | c :: rest =>
    if pattern.isPrefixOf (c :: rest) then occurrences pattern rest + 1
    else occurrences pattern rest

section

variable {pattern : List Char} (solid : pattern ≠ []) (new : List Char)
include solid

theorem replace_of_none {text : List Char} (missing : cutAt? pattern text = none) :
    replace pattern new text = text := by
  rw [replace, dif_neg solid, substitute]
  split
  · rfl
  · next before after found => cases missing.symm.trans found

theorem replace_of_cut {text before after : List Char}
    (found : cutAt? pattern text = some (before, after)) :
    replace pattern new text = before ++ new ++ replace pattern new after := by
  rw [replace, replace, dif_neg solid, dif_neg solid, substitute]
  split
  · next missing => cases missing.symm.trans found
  · next front back cut =>
    cases found.symm.trans cut
    rfl

theorem replace_nil : replace pattern new [] = [] := by
  have other : pattern.isPrefixOf [] = false := by
    cases pattern with
    | nil => exact absurd rfl solid
    | cons _ _ => rfl
  refine replace_of_none solid new ?_
  unfold cutAt?
  rw [if_neg (Bool.eq_false_iff.mp other)]

theorem replace_leading (rest : List Char) :
    replace pattern new (pattern ++ rest) = new ++ replace pattern new rest := by
  have starts : pattern.isPrefixOf (pattern ++ rest) = true :=
    List.isPrefixOf_iff_prefix.mpr (List.prefix_append pattern rest)
  have found : cutAt? pattern (pattern ++ rest) = some ([], rest) := by
    unfold cutAt?
    rw [if_pos starts, List.drop_left]
  exact replace_of_cut solid new found

theorem replace_cons {c : Char} {rest : List Char}
    (other : pattern.isPrefixOf (c :: rest) = false) :
    replace pattern new (c :: rest) = c :: replace pattern new rest := by
  have later : cutAt? pattern (c :: rest) =
      (cutAt? pattern rest).map (Prod.map (List.cons c) id) := by
    conv => lhs; unfold cutAt?
    exact if_neg (Bool.eq_false_iff.mp other)
  cases found : cutAt? pattern rest with
  | none =>
    rw [found] at later
    rw [replace_of_none solid new later, replace_of_none solid new found]
  | some cut =>
    rw [found] at later
    rw [replace_of_cut solid new later, replace_of_cut solid new found]
    rfl

end

section

variable {pattern : List Char}

theorem occurrences_of_starts {c : Char} {rest : List Char}
    (starts : pattern.isPrefixOf (c :: rest) = true) :
    occurrences pattern (c :: rest) = occurrences pattern rest + 1 := by
  rw [occurrences, if_pos starts]

theorem occurrences_of_not_starts {c : Char} {rest : List Char}
    (other : pattern.isPrefixOf (c :: rest) = false) :
    occurrences pattern (c :: rest) = occurrences pattern rest := by
  rw [occurrences, if_neg (Bool.eq_false_iff.mp other)]

theorem occurrences_le_append (pattern front rest : List Char) :
    occurrences pattern rest ≤ occurrences pattern (front ++ rest) := by
  induction front with
  | nil => exact Nat.le_refl _
  | cons c front ih =>
    refine Nat.le_trans ih ?_
    rw [List.cons_append, occurrences]
    split
    · exact Nat.le_succ _
    · exact Nat.le_refl _

theorem replace_append (solid : pattern ≠ []) (new : List Char) {front rest : List Char}
    (none : occurrences pattern (front ++ rest) = occurrences pattern rest) :
    replace pattern new (front ++ rest) = front ++ replace pattern new rest := by
  induction front with
  | nil => rfl
  | cons c front ih =>
    have least := occurrences_le_append pattern front rest
    rw [List.cons_append] at none ⊢
    cases starts : pattern.isPrefixOf (c :: (front ++ rest)) with
    | true =>
      rw [occurrences_of_starts starts] at none
      omega
    | false =>
      rw [occurrences_of_not_starts starts] at none
      rw [replace_cons solid new starts, ih none]
      rfl

end

section

variable {first : Char} {inner : List Char}

theorem not_starts_of_ne {c : Char} (other : c ≠ first) (rest : List Char) :
    (first :: inner).isPrefixOf (c :: rest) = false := by
  rw [List.isPrefixOf, beq_false_of_ne other.symm]
  rfl

theorem occurrences_append_of_notMem {front : List Char} (absent : first ∉ front)
    (rest : List Char) :
    occurrences (first :: inner) (front ++ rest) = occurrences (first :: inner) rest := by
  induction front with
  | nil => rfl
  | cons c front ih =>
    have other : c ≠ first := fun same => absent (same ▸ List.mem_cons_self)
    have later : first ∉ front := fun member => absent (List.mem_cons_of_mem _ member)
    rw [List.cons_append, occurrences_of_not_starts (not_starts_of_ne other _), ih later]

theorem occurrences_leading (fresh : first ∉ inner) (rest : List Char) :
    occurrences (first :: inner) (first :: inner ++ rest) =
      occurrences (first :: inner) rest + 1 := by
  have starts : (first :: inner).isPrefixOf (first :: (inner ++ rest)) = true :=
    List.isPrefixOf_iff_prefix.mpr (List.prefix_append (first :: inner) rest)
  rw [List.cons_append, occurrences_of_starts starts, occurrences_append_of_notMem fresh]

/-- Every place is replaced, so the lengths of what is taken out and put in tell their number. -/
theorem length_replace (fresh : first ∉ inner) (new text : List Char) :
    (replace (first :: inner) new text).length +
        occurrences (first :: inner) text * (first :: inner).length =
      text.length + occurrences (first :: inner) text * new.length := by
  have solid : first :: inner ≠ [] := List.cons_ne_nil first inner
  cases text with
  | nil => simp [replace_nil solid, occurrences]
  | cons c rest =>
    cases starts : (first :: inner).isPrefixOf (c :: rest) with
    | true =>
      obtain ⟨after, split⟩ := List.isPrefixOf_iff_prefix.mp starts
      have shorter : after.length < (c :: rest).length := by
        rw [← split, List.length_append, List.length_cons]
        omega
      have later := length_replace fresh new after
      rw [← split, replace_leading solid, occurrences_leading fresh, List.length_append,
        List.length_append, Nat.succ_mul, Nat.succ_mul]
      omega
    | false =>
      have later := length_replace fresh new rest
      rw [replace_cons solid new starts, occurrences_of_not_starts starts]
      simp only [List.length_cons] at later ⊢
      omega
termination_by text.length
decreasing_by
  · exact Nat.lt_succ_self _
  · exact shorter

end

end LiveConfig.Text
