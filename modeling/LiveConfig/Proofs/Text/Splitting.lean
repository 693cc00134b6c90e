import Mathlib.Data.List.Sort
import LiveConfig.Builtin.Apply
import LiveConfig.Proofs.Text.Occurrences

set_option autoImplicit false

namespace LiveConfig.Text

/-- The places where the occurrences of a pattern begin that are met on the way from left to right,
going on behind each of them. -/
structure MetFromLeft (pattern text : List Char) (places : List Nat) : Prop where
  begins : ∀ place ∈ places, pattern <+: text.drop place
  apart : places.Pairwise fun earlier later => earlier + pattern.length ≤ later
  /-- An occurrence that is not met overlaps one before it that is. -/
  met : ∀ place, pattern <+: text.drop place →
    ∃ before ∈ places, before ≤ place ∧ place < before + pattern.length

theorem exists_cutAt?_of_begins {pattern text : List Char} {place : Nat}
    (begins : pattern <+: text.drop place) :
    ∃ before after, cutAt? pattern text = some (before, after) ∧ before.length ≤ place := by
  induction text generalizing place with
  | nil =>
    have empty : pattern = [] := by simpa using begins
    subst empty
    exact ⟨[], [], rfl, Nat.zero_le place⟩
  | cons c rest ih =>
    unfold cutAt?
    cases starts : pattern.isPrefixOf (c :: rest) with
    | true => exact ⟨[], _, rfl, Nat.zero_le place⟩
    | false =>
      cases place with
      | zero =>
        have here : pattern.isPrefixOf (c :: rest) = true := List.isPrefixOf_iff_prefix.mpr begins
        exact absurd (starts.symm.trans here) Bool.false_ne_true
      | succ place =>
        obtain ⟨before, after, found, within⟩ := ih begins
        refine ⟨c :: before, after, ?_, Nat.succ_le_succ within⟩
        show (cutAt? pattern rest).map _ = _
        rw [found]
        rfl

theorem not_begins_of_missing {pattern text : List Char} (missing : cutAt? pattern text = none)
    (place : Nat) : ¬ pattern <+: text.drop place := by
  intro begins
  obtain ⟨before, after, found, -⟩ := exists_cutAt?_of_begins begins
  cases missing.symm.trans found

theorem length_before_le {pattern text before after : List Char}
    (found : cutAt? pattern text = some (before, after)) {place : Nat}
    (begins : pattern <+: text.drop place) : before.length ≤ place := by
  obtain ⟨front, back, cut, within⟩ := exists_cutAt?_of_begins begins
  cases found.symm.trans cut
  exact within

theorem begins_of_infix {pattern front : List Char} (inside : pattern <:+: front)
    (back : List Char) :
    ∃ place, place + pattern.length ≤ front.length ∧ pattern <+: (front ++ back).drop place := by
  obtain ⟨left, right, rfl⟩ := inside
  refine ⟨left.length, by simp, right ++ back, ?_⟩
  rw [List.append_assoc, List.append_assoc, List.drop_left]

section

variable {pattern : List Char} (solid : pattern ≠ [])
include solid

theorem split_of_none {text : List Char} (missing : cutAt? pattern text = none) :
    split pattern text = [text] := by
  rw [split, dif_neg solid, pieces]
  split
  · rfl
  · next before after found => cases missing.symm.trans found

theorem split_of_cut {text before after : List Char}
    (found : cutAt? pattern text = some (before, after)) :
    split pattern text = before :: split pattern after := by
  rw [split, split, dif_neg solid, dif_neg solid, pieces]
  split
  · next missing => cases missing.symm.trans found
  · next front back cut =>
    cases found.symm.trans cut
    rfl

theorem split_ne_nil (text : List Char) : split pattern text ≠ [] := by
  cases found : cutAt? pattern text with
  | none =>
    rw [split_of_none solid found]
    exact List.cons_ne_nil _ _
  | some cut =>
    rw [split_of_cut solid found]
    exact List.cons_ne_nil _ _

theorem join_split_of_solid (text : List Char) : join pattern (split pattern text) = text := by
  induction text using pieces.induct pattern solid with
  | case1 text missing =>
    rw [split_of_none solid missing]
    rfl
  | case2 text before after found ih =>
    rw [split_of_cut solid found, join_cons_of_ne_nil _ _ _ (split_ne_nil solid after), ih,
      ← eq_of_cutAt? found]

theorem replace_eq_join_split_of_solid (new text : List Char) :
    replace pattern new text = join new (split pattern text) := by
  induction text using pieces.induct pattern solid with
  | case1 text missing =>
    rw [replace_of_none solid new missing, split_of_none solid missing]
    rfl
  | case2 text before after found ih =>
    rw [replace_of_cut solid new found, split_of_cut solid found,
      join_cons_of_ne_nil _ _ _ (split_ne_nil solid after), ih]

theorem not_infix_of_mem_split {text piece : List Char} (member : piece ∈ split pattern text) :
    ¬ pattern <:+: piece := by
  induction text using pieces.induct pattern solid with
  | case1 text missing =>
    rw [split_of_none solid missing] at member
    obtain rfl := List.mem_singleton.mp member
    intro inside
    obtain ⟨place, -, begins⟩ := begins_of_infix inside []
    rw [List.append_nil] at begins
    exact not_begins_of_missing missing place begins
  | case2 text before after found ih =>
    rw [split_of_cut solid found] at member
    rcases List.mem_cons.mp member with rfl | later
    · intro inside
      obtain ⟨place, within, begins⟩ := begins_of_infix inside (pattern ++ after)
      rw [← List.append_assoc, ← eq_of_cutAt? found] at begins
      have leftmost := length_before_le found begins
      have := List.length_pos_iff.mpr solid
      omega
    · exact ih later

end

theorem metFromLeft_nil {pattern text : List Char} (missing : cutAt? pattern text = none) :
    MetFromLeft pattern text [] where
  begins := List.forall_mem_nil _
  apart := .nil
  met place begins := absurd begins (not_begins_of_missing missing place)

/-- The occurrence that the text is cut at is met first, and then those behind it. -/
theorem MetFromLeft.cut {pattern text before after : List Char} {places : List Nat}
    (later : MetFromLeft pattern after places)
    (found : cutAt? pattern text = some (before, after)) :
    MetFromLeft pattern text
      (before.length :: places.map (before.length + pattern.length + ·)) := by
  have text_eq := eq_of_cutAt? found
  have behind (place : Nat) :
      text.drop (before.length + pattern.length + place) = after.drop place := by
    rw [text_eq, ← List.length_append, ← List.drop_drop, List.drop_left]
  refine ⟨List.forall_mem_cons.mpr ⟨?_, ?_⟩, List.pairwise_cons.mpr ⟨?_, ?_⟩, ?_⟩
  · rw [text_eq, List.append_assoc, List.drop_left]
    exact List.prefix_append pattern after
  · simp only [List.forall_mem_map, behind]
    exact later.begins
  · simp only [List.forall_mem_map]
    exact fun place _ => Nat.le_add_right _ _
  · refine List.pairwise_map.mpr (later.apart.imp fun apart => ?_)
    omega
  · intro place begins
    have leftmost := length_before_le found begins
    by_cases overlaps : place < before.length + pattern.length
    · exact ⟨before.length, List.mem_cons_self, leftmost, overlaps⟩
    · obtain ⟨rest, rfl⟩ := Nat.exists_eq_add_of_le (Nat.le_of_not_lt overlaps)
      rw [behind] at begins
      obtain ⟨first, member, low, high⟩ := later.met rest begins
      refine ⟨before.length + pattern.length + first,
        List.mem_cons_of_mem _ (List.mem_map_of_mem member), ?_, ?_⟩
      · omega
      · omega

namespace MetFromLeft

variable {pattern text : List Char} {places others : List Nat}

theorem add_length_le (met : MetFromLeft pattern text places) {earlier later : Nat}
    (first : earlier ∈ places) (second : later ∈ places) (before : earlier < later) :
    earlier + pattern.length ≤ later := by
  have apart := met.apart
  clear met
  induction apart with
  | nil => cases first
  | @cons head rest all _ ih =>
    rcases List.mem_cons.mp first with rfl | listed
    · rcases List.mem_cons.mp second with rfl | listed'
      · exact absurd before (Nat.lt_irrefl _)
      · exact all later listed'
    · rcases List.mem_cons.mp second with rfl | listed'
      · have := all earlier listed
        omega
      · exact ih listed listed'

/-- A place that is met on one way is met on the other if the places before it are. -/
theorem mem_of_mem (met : MetFromLeft pattern text places) (met' : MetFromLeft pattern text others)
    {place : Nat} (member : place ∈ places) (before : ∀ m < place, m ∈ others → m ∈ places) :
    place ∈ others := by
  obtain ⟨earlier, listed, low, high⟩ := met'.met place (met.begins place member)
  rcases Nat.lt_or_eq_of_le low with less | rfl
  · have apart := met.add_length_le (before earlier less listed) member less
    omega
  · exact listed

theorem unique (met : MetFromLeft pattern text places) (met' : MetFromLeft pattern text others)
    (solid : pattern ≠ []) : places = others := by
  have same (place : Nat) : place ∈ places ↔ place ∈ others := by
    induction place using Nat.strong_induction_on with
    | h place ih =>
      exact ⟨fun member => met.mem_of_mem met' member fun m less => (ih m less).mpr,
        fun member => met'.mem_of_mem met member fun m less => (ih m less).mp⟩
  have ascending {list : List Nat} (met : MetFromLeft pattern text list) :
      list.Pairwise (· < ·) := by
    refine met.apart.imp fun apart => ?_
    have := List.length_pos_iff.mpr solid
    omega
  exact (ascending met).eq_of_mem_iff (ascending met') same

end MetFromLeft

/-- A text has one piece more than occurrences of the delimiter that are met from the left. -/
theorem exists_metFromLeft {pattern : List Char} (solid : pattern ≠ []) (text : List Char) :
    ∃ places, MetFromLeft pattern text places ∧
      (split pattern text).length = places.length + 1 := by
  induction text using pieces.induct pattern solid with
  | case1 text missing =>
    refine ⟨[], metFromLeft_nil missing, ?_⟩
    rw [split_of_none solid missing]
    rfl
  | case2 text before after found ih =>
    obtain ⟨places, met, length⟩ := ih
    refine ⟨_, met.cut found, ?_⟩
    rw [split_of_cut solid found, List.length_cons, length, List.length_cons, List.length_map]

theorem join_characters (separator text : List Char) :
    join separator (text.map ([·]) ++ [[]]) = text.flatMap fun c => c :: separator := by
  induction text with
  | nil => rfl
  | cons c rest ih =>
    have more : rest.map ([·]) ++ [[]] ≠ [] := List.append_ne_nil_of_right_ne_nil _ (by simp)
    rw [List.map_cons, List.cons_append, join_cons_of_ne_nil _ _ _ more, ih, List.flatMap_cons]
    rfl

theorem replace_eq_join_split (pattern new text : List Char) :
    replace pattern new text = join new (split pattern text) := by
  by_cases empty : pattern = []
  · have more : text.map ([·]) ++ [[]] ≠ [] := List.append_ne_nil_of_right_ne_nil _ (by simp)
    rw [replace, split, dif_pos empty, dif_pos empty, List.cons_append,
      join_cons_of_ne_nil _ _ _ more, join_characters]
    rfl
  · exact replace_eq_join_split_of_solid empty new text

theorem join_split (delimiter text : List Char) :
    join delimiter (split delimiter text) = text := by
  by_cases empty : delimiter = []
  · rw [← replace_eq_join_split, replace, dif_pos empty, empty, List.nil_append]
    exact List.flatMap_singleton' text
  · exact join_split_of_solid empty text

end LiveConfig.Text

namespace LiveConfig.Builtin

theorem chars_text (s : String) : chars (.text s) = s.toList := rfl

theorem chars_textOf (text : List Char) : chars (textOf text) = text :=
  String.toList_ofList

theorem textOf_toList (s : String) : textOf s.toList = .text s :=
  congrArg Value.text String.ofList_toList

theorem call_split (s d : String) :
    call "split" [.text s, .text d] =
      .ok (.array ((Text.split d.toList s.toList).map textOf)) := rfl

theorem call_join (texts : List (List Char)) (separator : String) :
    call "join" [.array (texts.map textOf), .text separator] =
      .ok (textOf (Text.join separator.toList texts)) := by
  have back : (texts.map textOf).map chars = texts := by
    rw [List.map_map]
    exact (List.map_congr_left fun text _ => chars_textOf text).trans (List.map_id _)
  show joinItems (.array (texts.map textOf)) (chars (.text separator)) = _
  rw [joinItems, back, chars_text]

theorem call_replace (s d r : String) :
    call "replace" [.text s, .text d, .text r] =
      .ok (textOf (Text.replace d.toList r.toList s.toList)) := rfl

/-- Joining undoes splitting with the same delimiter, and joining with another separator is what
replacing the delimiter does; for these two the delimiter may be empty. The pieces do not have the
delimiter inside, and there is one more of them than occurrences that are met from the left. -/
theorem split_join_replace_coherent (s d r : String) :
    ∃ pieces : List String,
      call "split" [.text s, .text d] = .ok (.array (pieces.map .text)) ∧
      call "join" [.array (pieces.map .text), .text d] = .ok (.text s) ∧
      (∃ changed, call "replace" [.text s, .text d, .text r] = .ok (.text changed) ∧
        call "join" [.array (pieces.map .text), .text r] = .ok (.text changed)) ∧
      (d ≠ "" →
        (∀ piece ∈ pieces, ¬ d.toList <:+: piece.toList) ∧
        ∃ places, (∀ others, Text.MetFromLeft d.toList s.toList others ↔ others = places) ∧
          pieces.length = places.length + 1) := by
  have texts : ((Text.split d.toList s.toList).map String.ofList).map Value.text =
      (Text.split d.toList s.toList).map textOf := List.map_map
  refine ⟨(Text.split d.toList s.toList).map String.ofList, ?_, ?_, ⟨_, call_replace s d r, ?_⟩, ?_⟩
  · rw [texts]
    exact call_split s d
  · rw [texts, call_join, Text.join_split, textOf_toList]
  · rw [texts, call_join, Text.replace_eq_join_split]
    rfl
  · intro filled
    have solid : d.toList ≠ [] := by simpa using filled
    obtain ⟨places, met, length⟩ := Text.exists_metFromLeft solid s.toList
    refine ⟨?_, places, fun others => ⟨fun met' => met'.unique met solid, ?_⟩, ?_⟩
    · rintro piece member
      obtain ⟨chars, listed, rfl⟩ := List.mem_map.mp member
      rw [String.toList_ofList]
      exact Text.not_infix_of_mem_split solid listed
    · rintro rfl
      exact met
    · rw [List.length_map, length]

/-- Of the two occurrences of `aa` in `aaa` the left one counts, since they overlap. -/
theorem split_aaa_at_aa :
    "aa" ≠ "" ∧ ∃ pieces : List String,
      call "split" [.text "aaa", .text "aa"] = .ok (.array (pieces.map .text)) ∧
      call "join" [.array (pieces.map .text), .text "aa"] = .ok (.text "aaa") ∧
      (∀ piece ∈ pieces, ¬ "aa".toList <:+: piece.toList) ∧ pieces.length = 2 := by
  obtain ⟨pieces, cut, joined, -, delimited⟩ := split_join_replace_coherent "aaa" "aa" ""
  obtain ⟨free, places, unique, length⟩ := delimited (by decide)
  have met : Text.MetFromLeft "aa".toList "aaa".toList [0] := by
    refine ⟨by decide, by decide, fun place begins => ⟨0, by decide, Nat.zero_le place, ?_⟩⟩
    have within : 2 ≤ 3 - place := by simpa using begins.length_le
    show place < 2
    omega
  obtain rfl : [0] = places := (unique [0]).mp met
  exact ⟨by decide, pieces, cut, joined, free, length⟩

end LiveConfig.Builtin
