import LiveConfig.Proofs.Grammar.Delimiters

set_option autoImplicit false

namespace LiveConfig

theorem Text.trim_trim (text : List Char) : Text.trim (Text.trim text) = Text.trim text := by
  have start : Text.trimStart (Text.trim text) = Text.trim text := by
    obtain ⟨rest, split⟩ : Text.trim text <+: Text.trimStart text := List.rdropWhile_prefix _ _
    cases shape : Text.trim text with
    | nil => rfl
    | cons c more =>
      rw [shape, List.cons_append] at split
      have again : Text.trimStart (c :: (more ++ rest)) = c :: (more ++ rest) := by
        rw [split]
        exact List.dropWhile_idempotent ..
      have solid := List.dropWhile_eq_self_iff.mp again (Nat.succ_pos _)
      exact Text.trimStart_of_head c more (Bool.eq_false_iff.mpr solid)
  rw [Text.trim, start]
  exact List.rdropWhile_idempotent ..

/-- How a segment is written: a text as it is, an expression between its delimiters. -/
def Segment.chars : Segment → List Char
  | .text s => s.toList
  | .expr source => '<' :: '$' :: (source.toList ++ ['$', '>'])

namespace Template

def join (segments : List Segment) : String :=
  String.ofList (segments.flatMap Segment.chars)

/-- The text consists of the segments, with blanks around the expressions. -/
inductive Written : List Segment → List Char → Prop where
  | nil : Written [] []
  | text {s : String} {segments : List Segment} {rest : List Char}
      (later : Written segments rest) : Written (.text s :: segments) (s.toList ++ rest)
  | expr {source : String} {before after : List Char} {segments : List Segment} {rest : List Char}
      (leading : ∀ c ∈ before, Text.isBlank c = true)
      (trailing : ∀ c ∈ after, Text.isBlank c = true) (later : Written segments rest) :
      Written (.expr source :: segments)
        ('<' :: '$' :: (before ++ source.toList ++ after ++ '$' :: '>' :: rest))

/-- No expression starts in the text: nothing closes what its first opening delimiter opens. -/
def Unclosed (text : List Char) : Prop :=
  ∀ before body, text = before ++ '<' :: '$' :: body → ¬ ['<', '$'] <:+: before → ¬ Closes body

/-- The source of an expression without blanks at its ends and made of whole literals, which no
delimiter closes early. -/
structure IsSource (source : String) : Prop where
  trimmed : Text.trim source.toList = source.toList
  balanced : ∃ contents, Token.Literals source.toList contents
  unclosed : ¬ Closes source.toList

/-- Segments that some template has. -/
structure Canonical (segments : List Segment) : Prop where
  solid : .text "" ∉ segments
  apart : segments.IsChain fun first second => ∀ s t, ¬ (first = .text s ∧ second = .text t)
  unopened : segments.Pairwise fun first second =>
    ∀ s source, first = .text s → second = .expr source → ¬ ['<', '$'] <:+: s.toList
  ending : ∀ s, segments.getLast? = some (.text s) → Unclosed s.toList
  sources : ∀ source, .expr source ∈ segments → IsSource source

theorem unopened_of_cutOpen {text before body : List Char}
    (found : cutOpen text = some (before, body)) : ¬ ['<', '$'] <:+: before := by
  induction text generalizing before with
  | nil => cases found
  | cons c rest ih =>
    unfold cutOpen at found
    split at found
    · cases ‹_ :: _ = []›
    · cases found
      simp
    · next d more passes same =>
      obtain ⟨rfl, rfl⟩ := List.cons.inj same
      obtain ⟨⟨front, back⟩, inner, eq⟩ := Option.map_eq_some_iff.mp found
      cases eq
      rintro inside
      obtain ⟨tail, starts⟩ | later := List.infix_cons_iff.mp inside
      · obtain ⟨rfl, next⟩ := List.cons.inj starts
        have opening := eq_of_cutOpen inner
        rw [← next] at opening
        exact passes _ rfl opening
      · exact ih inner later

theorem cutClose_eq_none {text : List Char} (unclosed : ¬ Closes text) :
    cutClose .outside text = none := by
  cases found : cutClose .outside text with
  | none => rfl
  | some cut =>
    obtain ⟨contents, whole⟩ := literals_of_cutClose found
    exact absurd ⟨cut.1, cut.2, contents, eq_of_cutClose found, whole⟩ unclosed

theorem unclosed_iff {text : List Char} :
    Unclosed text ↔
      ∀ before body, cutOpen text = some (before, body) → cutClose .outside body = none := by
  constructor
  · intro unclosed before body opened
    exact cutClose_eq_none
      (unclosed before body (eq_of_cutOpen opened) (unopened_of_cutOpen opened))
  · rintro none before body rfl free
    exact not_closes_of_cutClose_eq_none (none before body (cutOpen_append free body))

theorem splitChars_of_unclosed {text : List Char} (unclosed : Unclosed text) :
    splitChars text = textSegment text := by
  rw [splitChars]
  split
  · rfl
  · next opened =>
    split
    · rfl
    · next closed =>
      rw [unclosed_iff.mp unclosed _ _ opened] at closed
      cases closed

theorem splitChars_expr {before : List Char} {source : String} (free : ¬ ['<', '$'] <:+: before)
    (valid : IsSource source) (after : List Char) :
    splitChars (before ++ (Segment.expr source).chars ++ after) =
      textSegment before ++ .expr source :: splitChars after := by
  obtain ⟨trimmed, ⟨contents, whole⟩, unclosed⟩ := valid
  have opened := cutOpen_append free (source.toList ++ '$' :: '>' :: after)
  have shape : before ++ (Segment.expr source).chars ++ after =
      before ++ '<' :: '$' :: (source.toList ++ '$' :: '>' :: after) := by
    simp [Segment.chars]
  rw [shape, splitChars_of_cut opened (cutClose_of_literals whole unclosed after), trimmed,
    String.ofList_toList]

theorem isSource_of_cutClose {text body after : List Char}
    (found : cutClose .outside text = some (body, after)) :
    IsSource (String.ofList (Text.trim body)) := by
  obtain ⟨contents, whole⟩ := literals_of_cutClose found
  constructor
  · rw [String.toList_ofList, Text.trim_trim]
  · rw [String.toList_ofList]
    exact ⟨contents, literals_trim whole⟩
  · rw [String.toList_ofList]
    exact fun closes => not_closes_of_cutClose found (closes_of_trim closes)

theorem canonical_nil : Canonical [] :=
  ⟨by simp, .nil, .nil, by simp, by simp⟩

theorem canonical_text {s : String} : Canonical [.text s] ↔ s ≠ "" ∧ Unclosed s.toList := by
  constructor
  · rintro ⟨solid, _, _, ending, _⟩
    refine ⟨?_, ending s rfl⟩
    rintro rfl
    exact solid List.mem_cons_self
  · rintro ⟨some, unclosed⟩
    refine ⟨?_, .singleton _, List.pairwise_singleton _ _, ?_, by simp⟩
    · simpa using Ne.symm some
    · intro t last
      obtain rfl : s = t := by simpa using last
      exact unclosed

theorem canonical_expr_cons {source : String} {rest : List Segment} :
    Canonical (.expr source :: rest) ↔ IsSource source ∧ Canonical rest := by
  constructor
  · rintro ⟨solid, apart, unopened, ending, sources⟩
    refine ⟨sources source List.mem_cons_self, ?_, apart.tail, unopened.of_cons, ?_, ?_⟩
    · exact fun member => solid (List.mem_cons_of_mem _ member)
    · intro s last
      exact ending s (by rw [List.getLast?_cons, last, Option.getD_some])
    · exact fun other member => sources other (List.mem_cons_of_mem _ member)
  · rintro ⟨valid, solid, apart, unopened, ending, sources⟩
    refine ⟨by simpa using solid, ?_, ?_, ?_, ?_⟩
    · refine List.isChain_cons.mpr ⟨?_, apart⟩
      rintro second _ s t ⟨impossible, _⟩
      cases impossible
    · refine List.pairwise_cons.mpr ⟨?_, unopened⟩
      intro second _ s other impossible
      cases impossible
    · intro s last
      rw [List.getLast?_cons] at last
      cases final : rest.getLast? with
      | none =>
        rw [final] at last
        cases last
      | some segment =>
        rw [final] at last
        exact ending s (final.trans last)
    · intro other member
      obtain ⟨⟨⟩⟩ | later := List.mem_cons.mp member
      · exact valid
      · exact sources other later

theorem canonical_text_cons {s source : String} {rest : List Segment} :
    Canonical (.text s :: .expr source :: rest) ↔
      s ≠ "" ∧ ¬ ['<', '$'] <:+: s.toList ∧ Canonical (.expr source :: rest) := by
  constructor
  · rintro ⟨solid, apart, unopened, ending, sources⟩
    refine ⟨?_, ?_, ?_, apart.tail, unopened.of_cons, ?_, ?_⟩
    · rintro rfl
      exact solid List.mem_cons_self
    · exact List.rel_of_pairwise_cons unopened List.mem_cons_self s source rfl rfl
    · exact fun member => solid (List.mem_cons_of_mem _ member)
    · exact fun t last => ending t last
    · exact fun other member => sources other (List.mem_cons_of_mem _ member)
  · rintro ⟨some, free, solid, apart, unopened, ending, sources⟩
    refine ⟨?_, ?_, ?_, fun t last => ending t last, ?_⟩
    · simpa [Ne.symm some] using solid
    · refine List.isChain_cons_cons.mpr ⟨?_, apart⟩
      rintro t u ⟨_, impossible⟩
      cases impossible
    · refine List.pairwise_cons.mpr ⟨?_, unopened⟩
      rintro second _ t other ⟨⟩ _
      exact free
    · intro other member
      obtain impossible | later := List.mem_cons.mp member
      · cases impossible
      · exact sources other later

theorem not_canonical_texts {s t : String} {rest : List Segment} :
    ¬ Canonical (.text s :: .text t :: rest) := by
  rintro ⟨_, apart, _, _, _⟩
  exact (List.isChain_cons_cons.mp apart).1 s t ⟨rfl, rfl⟩

theorem textSegment_of_ne_nil {text : List Char} (some : text ≠ []) :
    textSegment text = [.text (String.ofList text)] :=
  if_neg some

theorem textSegment_toList {s : String} (some : s ≠ "") : textSegment s.toList = [.text s] := by
  rw [textSegment_of_ne_nil (by simpa using some), String.ofList_toList]

theorem canonical_textSegment {text : List Char} (unclosed : Unclosed text) :
    Canonical (textSegment text) := by
  by_cases empty : text = []
  · rw [empty]
    exact canonical_nil
  · rw [textSegment_of_ne_nil empty, canonical_text, String.toList_ofList]
    exact ⟨by simpa using empty, unclosed⟩

theorem canonical_splitChars (text : List Char) : Canonical (splitChars text) := by
  fun_induction splitChars text with
  | case1 text none =>
    refine canonical_textSegment (unclosed_iff.mpr fun before body opened => ?_)
    rw [none] at opened
    cases opened
  | case2 text before body opened none =>
    refine canonical_textSegment (unclosed_iff.mpr fun before' body' opened' => ?_)
    obtain ⟨rfl, rfl⟩ := Prod.mk.inj (Option.some.inj (opened.symm.trans opened'))
    exact none
  | case3 text before body opened source after closed ih =>
    have later := canonical_expr_cons.mpr ⟨isSource_of_cutClose closed, ih⟩
    by_cases empty : before = []
    · rw [empty]
      exact later
    · rw [textSegment_of_ne_nil empty]
      refine canonical_text_cons.mpr ⟨by simpa using empty, ?_, later⟩
      rw [String.toList_ofList]
      exact unopened_of_cutOpen opened

theorem Written.textSegment {segments : List Segment} {rest : List Char} (text : List Char)
    (later : Written segments rest) :
    Written (Template.textSegment text ++ segments) (text ++ rest) := by
  by_cases empty : text = []
  · rw [empty]
    exact later
  · rw [textSegment_of_ne_nil empty]
    have written := Written.text (s := String.ofList text) later
    rwa [String.toList_ofList] at written

theorem written_splitChars (text : List Char) : Written (splitChars text) text := by
  fun_induction splitChars text with
  | case1 text none =>
    have written := Written.nil.textSegment text
    rwa [List.append_nil, List.append_nil] at written
  | case2 text before body opened none =>
    have written := Written.nil.textSegment text
    rwa [List.append_nil, List.append_nil] at written
  | case3 text before body opened source after closed ih =>
    obtain ⟨leading, trailing, split, first, last⟩ := Text.trim_append source
    have written : Written (Template.textSegment before ++
          .expr (String.ofList (Text.trim source)) :: splitChars after) _ :=
      .textSegment before (.expr first last ih)
    rw [String.toList_ofList, ← split, ← eq_of_cutClose closed, ← eq_of_cutOpen opened] at written
    exact written

theorem splitChars_flatMap : ∀ {segments : List Segment}, Canonical segments →
    splitChars (segments.flatMap Segment.chars) = segments
  | [], _ => by
    rw [List.flatMap_nil, splitChars]
    rfl
  | [.text s], canonical => by
    obtain ⟨some, unclosed⟩ := canonical_text.mp canonical
    rw [List.flatMap_singleton, Segment.chars, splitChars_of_unclosed unclosed,
      textSegment_toList some]
  | .text s :: .text t :: rest, canonical => absurd canonical not_canonical_texts
  | .text s :: .expr source :: rest, canonical => by
    obtain ⟨some, free, later⟩ := canonical_text_cons.mp canonical
    obtain ⟨valid, canonical⟩ := canonical_expr_cons.mp later
    have parts := splitChars_expr free valid (rest.flatMap Segment.chars)
    rw [splitChars_flatMap canonical, textSegment_toList some, List.append_assoc] at parts
    exact parts
  | .expr source :: rest, canonical => by
    obtain ⟨valid, canonical⟩ := canonical_expr_cons.mp canonical
    have free : ¬ ['<', '$'] <:+: [] := by simp
    have parts := splitChars_expr free valid (rest.flatMap Segment.chars)
    rw [splitChars_flatMap canonical] at parts
    exact parts

theorem ofSegments_ne_literal (segments : List Segment) (rest : String) :
    ofSegments segments ≠ .literal rest := by
  unfold ofSegments
  split
  · exact nofun
  · split <;> exact nofun

theorem ofSegments_eq_whole_iff {segments : List Segment} {source : String} :
    ofSegments segments = .whole source ↔ segments = [.expr source] := by
  constructor
  · intro whole
    unfold ofSegments at whole
    split at whole
    · cases whole
      rfl
    · split at whole <;> cases whole
  · rintro rfl
    rfl

theorem any_expr_iff {segments : List Segment} :
    (segments.any fun | .expr _ => true | .text _ => false) = true ↔
      ∃ source, .expr source ∈ segments := by
  rw [List.any_eq_true]
  constructor
  · rintro ⟨segment, member, holds⟩
    cases segment with
    | expr source => exact ⟨source, member⟩
    | text s => cases holds
  · rintro ⟨source, member⟩
    exact ⟨_, member, rfl⟩

theorem ofSegments_eq_interpolated_iff {segments parts : List Segment} :
    ofSegments segments = .interpolated parts ↔
      parts = segments ∧ (∃ source, .expr source ∈ segments) ∧
        ∀ source, segments ≠ [.expr source] := by
  constructor
  · intro interpolated
    unfold ofSegments at interpolated
    split at interpolated
    · cases interpolated
    · next several =>
      split at interpolated
      · next some =>
        cases interpolated
        exact ⟨rfl, any_expr_iff.mp some, several⟩
      · cases interpolated
  · rintro ⟨rfl, some, several⟩
    unfold ofSegments
    split
    · next source => exact absurd rfl (several source)
    · exact if_pos (any_expr_iff.mpr some)

theorem ofSegments_eq_plain_iff {segments : List Segment} :
    ofSegments segments = .plain ↔ ∀ source, .expr source ∉ segments := by
  constructor
  · intro plain source member
    unfold ofSegments at plain
    split at plain
    · cases plain
    · split at plain
      · cases plain
      · next none => exact none (any_expr_iff.mpr ⟨source, member⟩)
  · intro none
    unfold ofSegments
    split
    · next source => exact absurd List.mem_cons_self (none source)
    · refine if_neg fun some => ?_
      obtain ⟨source, member⟩ := any_expr_iff.mp some
      exact none source member

theorem isPrefixOf_escapeMark_iff {s : String} :
    escapeMark.isPrefixOf s.toList = true ↔ ∃ rest, s = "$! " ++ rest := by
  rw [List.isPrefixOf_iff_prefix]
  constructor
  · rintro ⟨tail, shape⟩
    refine ⟨String.ofList tail, ?_⟩
    rw [← String.toList_inj, ← shape]
    simp [escapeMark]
  · rintro ⟨rest, rfl⟩
    exact ⟨rest.toList, by simp [escapeMark]⟩

theorem classify_marked (rest : String) : classify ("$! " ++ rest) = .literal rest := by
  rw [classify, if_pos (isPrefixOf_escapeMark_iff.mpr ⟨rest, rfl⟩)]
  simp [escapeMark]

theorem classify_of_unmarked {s : String} (unmarked : ∀ rest, s ≠ "$! " ++ rest) :
    classify s = ofSegments (split s) := by
  refine if_neg fun marked => ?_
  obtain ⟨rest, shape⟩ := isPrefixOf_escapeMark_iff.mp marked
  exact unmarked rest shape

theorem classify_eq_literal_iff {s rest : String} :
    classify s = .literal rest ↔ s = "$! " ++ rest := by
  constructor
  · intro literal
    by_cases marked : ∃ tail, s = "$! " ++ tail
    · obtain ⟨tail, rfl⟩ := marked
      rw [classify_marked] at literal
      rw [Template.literal.inj literal]
    · rw [classify_of_unmarked fun tail shape => marked ⟨tail, shape⟩] at literal
      exact absurd literal (ofSegments_ne_literal _ _)
  · rintro rfl
    exact classify_marked rest

/-- The segments of a template are canonical and make it up again with the blanks around its
expressions; every canonical list is the segments of the template it is written as; and the class
of a template can be read off its escape mark and its segments. -/
theorem split_lossless :
    (∀ s, Canonical (split s) ∧ Written (split s) s.toList) ∧
    (∀ segments, Canonical segments → split (join segments) = segments) ∧
    ∀ s, (∀ rest, classify s = .literal rest ↔ s = "$! " ++ rest) ∧
      ((∀ rest, s ≠ "$! " ++ rest) →
        (∀ source, classify s = .whole source ↔ split s = [.expr source]) ∧
        (∀ segments, classify s = .interpolated segments ↔
          segments = split s ∧ (∃ source, .expr source ∈ split s) ∧
            ∀ source, split s ≠ [.expr source]) ∧
        (classify s = .plain ↔ ∀ source, .expr source ∉ split s)) := by
  refine ⟨fun s => ⟨canonical_splitChars _, written_splitChars _⟩, ?_, ?_⟩
  · intro segments canonical
    rw [split, join, String.toList_ofList]
    exact splitChars_flatMap canonical
  · intro s
    refine ⟨fun rest => classify_eq_literal_iff, fun unmarked => ?_⟩
    rw [classify_of_unmarked unmarked]
    exact ⟨fun source => ofSegments_eq_whole_iff, fun segments => ofSegments_eq_interpolated_iff,
      ofSegments_eq_plain_iff⟩

/-- Delimiters that overlap with the text, stand within a literal or open nothing. -/
theorem split_overlapping :
    let segments : List Segment := [.text "a<", .expr "b + '$>'", .text "$> <$ 'c"]
    Canonical segments ∧ split "a<<$b + '$>'$>$> <$ 'c" = segments ∧
      classify "a<<$b + '$>'$>$> <$ 'c" = .interpolated segments := by
  intro segments
  have valid : IsSource "b + '$>'" := by
    have cut : cutClose .outside "b + '$>'$>".toList = some ("b + '$>'".toList, []) := by cbv
    have source := isSource_of_cutClose cut
    have trimmed : String.ofList (Text.trim "b + '$>'".toList) = "b + '$>'" := by cbv
    rwa [trimmed] at source
  have unclosed : Unclosed "$> <$ 'c".toList := by
    refine unclosed_iff.mpr fun before body opened => ?_
    have found : cutOpen "$> <$ 'c".toList = some ("$> ".toList, " 'c".toList) := by cbv
    obtain ⟨rfl, rfl⟩ := Prod.mk.inj (Option.some.inj (found.symm.trans opened))
    cbv
  have canonical : Canonical segments :=
    canonical_text_cons.mpr ⟨by decide, by decide, canonical_expr_cons.mpr
      ⟨valid, canonical_text.mpr ⟨by decide, unclosed⟩⟩⟩
  have parts : split "a<<$b + '$>'$>$> <$ 'c" = segments := split_lossless.2.1 segments canonical
  refine ⟨canonical, parts, ?_⟩
  have unmarked : ∀ rest, "a<<$b + '$>'$>$> <$ 'c" ≠ "$! " ++ rest := by
    intro rest same
    have first := congrArg (fun s : String => s.toList.head?) same
    simp at first
  refine (((split_lossless.2.2 _).2 unmarked).2.1 segments).mpr ⟨parts.symm, ?_, ?_⟩
  · exact ⟨"b + '$>'", by simp [parts, segments]⟩
  · simp [parts, segments]

end Template

end LiveConfig
