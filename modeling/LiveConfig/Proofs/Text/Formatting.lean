import LiveConfig.Builtin.Apply
import LiveConfig.Proofs.Text.Occurrences
import Mathlib

set_option autoImplicit false

/- Putting arguments in the place of their placeholders. The function goes over the text once for
each argument, and each time over what the earlier ones left; told apart from that is what would
come of going over the template once. The two agree as long as no placeholder arises from what
was put in. -/

namespace LiveConfig.Builtin

open Text (occurrences)

/-- What a template is read as: characters that stand for themselves, and placeholders. -/
inductive Piece where
  | char (c : Char)
  | mark (index : Nat)
deriving DecidableEq

/-- The pieces of a template, with `count` placeholders to look for; the first characters still
belong to the placeholder before. -/
def piecesFrom (count : Nat) : Nat → List Char → List Piece
  | _, [] => []
  | skip + 1, _ :: rest => piecesFrom count skip rest
  | 0, c :: rest =>
    match (List.range count).find? fun index => (placeholder index).isPrefixOf (c :: rest) with
    | some index => .mark index :: piecesFrom count ((placeholder index).length - 1) rest
    | none => .char c :: piecesFrom count 0 rest

/-- The text of pieces, with the given texts for the placeholders. -/
def write (insert : Nat → List Char) : List Piece → List Char
  | [] => []
  | .char c :: rest => c :: write insert rest
  | .mark index :: rest => insert index ++ write insert rest

/-- The text in the place of a placeholder, which stays where there is none. -/
def insertion (texts : List (List Char)) (index : Nat) : List Char :=
  texts[index]?.getD (placeholder index)

/-- The template with the first `done` of the texts in place, put there all at once. -/
def filledTo (texts : List (List Char)) (template : List Char) (done : Nat) : List Char :=
  write (insertion (texts.take done)) (piecesFrom texts.length 0 template)

/-- The template with all texts in place, put there all at once. -/
def fillAtOnce (texts : List (List Char)) (template : List Char) : List Char :=
  write (insertion texts) (piecesFrom texts.length 0 template)

/-- No placeholder of the given index has arisen from the texts before it. -/
def Undisturbed (texts : List (List Char)) (template : List Char) (index : Nat) : Prop :=
  occurrences (placeholder index) (filledTo texts template index) =
    occurrences (placeholder index) template

instance (texts : List (List Char)) (template : List Char) (index : Nat) :
    Decidable (Undisturbed texts template index) :=
  inferInstanceAs (Decidable (_ = _))

/-- A text whose first character does not go on with a placeholder that has begun before it. -/
def OpensApart (text : List Char) : Prop :=
  ∃ first rest, text = first :: rest ∧ first.isDigit = false ∧ first ≠ '\x7d'

/-- No placeholder can arise from the texts: they hold no opening brace, and either the template has
none outside its placeholders or every text opens apart. The last text is never read again. -/
structure Harmless (texts : List (List Char)) (template : List Char) : Prop where
  unopened : ∀ text ∈ texts.dropLast, '\x7b' ∉ text
  apart : .char '\x7b' ∉ piecesFrom texts.length 0 template ∨
    ∀ text ∈ texts.dropLast, OpensApart text

theorem placeholder_ne_nil (index : Nat) : placeholder index ≠ [] := nofun

theorem isDigit_of_mem_digitsOf {index : Nat} {c : Char} (member : c ∈ Number.digitsOf index) :
    c.isDigit = true :=
  Nat.isDigit_of_mem_toDigits (by decide) (by decide) member

theorem isDigit_or_closing {index : Nat} {c : Char}
    (member : c ∈ Number.digitsOf index ++ ['\x7d']) : c.isDigit = true ∨ c = '\x7d' :=
  (List.mem_append.mp member).imp isDigit_of_mem_digitsOf List.mem_singleton.mp

theorem opening_notMem (index : Nat) : '\x7b' ∉ Number.digitsOf index ++ ['\x7d'] :=
  fun member => absurd (isDigit_or_closing member) (by decide)

theorem takeWhile_digitsOf (index : Nat) (rest : List Char) :
    (Number.digitsOf index ++ '\x7d' :: rest).takeWhile Char.isDigit = Number.digitsOf index := by
  rw [List.takeWhile_append_of_pos fun _ member => isDigit_of_mem_digitsOf member]
  exact List.append_nil _

theorem eq_of_isPrefixOf {index other : Nat} {rest : List Char}
    (starts : (placeholder index).isPrefixOf (placeholder other ++ rest) = true) :
    index = other := by
  obtain ⟨after, split⟩ := List.isPrefixOf_iff_prefix.mp starts
  have tails : Number.digitsOf index ++ '\x7d' :: after =
      Number.digitsOf other ++ '\x7d' :: rest := by
    simpa [placeholder] using split
  have digits := congrArg (List.takeWhile Char.isDigit) tails
  rw [takeWhile_digitsOf, takeWhile_digitsOf] at digits
  have number := congrArg (Nat.ofDigitChars 10 · 0) digits
  exact Nat.ofDigitChars_ten_toDigits.symm.trans (number.trans Nat.ofDigitChars_ten_toDigits)

theorem occurrences_placeholder (index other : Nat) (rest : List Char) :
    occurrences (placeholder index) (placeholder other ++ rest) =
      occurrences (placeholder index) rest + if other = index then 1 else 0 := by
  by_cases same : other = index
  · subst same
    rw [if_pos rfl]
    exact Text.occurrences_leading (opening_notMem other) rest
  · have apart : (placeholder index).isPrefixOf (placeholder other ++ rest) = false :=
      Bool.eq_false_iff.mpr fun starts => same (eq_of_isPrefixOf starts).symm
    rw [if_neg same]
    refine (Text.occurrences_of_not_starts apart).trans ?_
    exact Text.occurrences_append_of_notMem (opening_notMem other) rest

theorem count_char (index : Nat) (c : Char) (rest : List Piece) :
    (Piece.char c :: rest).count (.mark index) = rest.count (.mark index) := by
  have apart : Piece.char c ≠ .mark index := nofun
  exact List.count_cons_of_ne apart

theorem count_mark_of_ne {index other : Nat} (apart : other ≠ index) (rest : List Piece) :
    (Piece.mark other :: rest).count (.mark index) = rest.count (.mark index) :=
  List.count_cons_of_ne fun equal => apart (Piece.mark.inj equal)

theorem piecesFrom_cons (count : Nat) (c : Char) (rest : List Char) :
    (∃ index after, index < count ∧ c :: rest = placeholder index ++ after ∧
      piecesFrom count 0 (c :: rest) =
        .mark index :: piecesFrom count ((placeholder index).length - 1) rest ∧
      rest.drop ((placeholder index).length - 1) = after) ∨
    ((∀ index < count, (placeholder index).isPrefixOf (c :: rest) = false) ∧
      piecesFrom count 0 (c :: rest) = .char c :: piecesFrom count 0 rest) := by
  rw [piecesFrom]
  split
  · next index found =>
    have starts := List.find?_some found
    obtain ⟨after, split⟩ := List.isPrefixOf_iff_prefix.mp starts
    refine .inl ⟨index, after, List.mem_range.mp (List.mem_of_find?_eq_some found), split.symm,
      rfl, ?_⟩
    have dropped := congrArg (List.drop (placeholder index).length) split
    rw [List.drop_left] at dropped
    exact dropped.symm
  · next none =>
    refine .inr ⟨fun index below => ?_, rfl⟩
    exact Bool.eq_false_iff.mpr (List.find?_eq_none.mp none index (List.mem_range.mpr below))

theorem write_placeholder (count skip : Nat) (text : List Char) :
    write placeholder (piecesFrom count skip text) = text.drop skip := by
  induction text generalizing skip with
  | nil => simp [piecesFrom, write]
  | cons c rest ih =>
    cases skip with
    | succ skip => exact ih skip
    | zero =>
      obtain ⟨index, after, -, split, pieces, dropped⟩ | ⟨-, pieces⟩ :=
        piecesFrom_cons count c rest
      · rw [pieces, write, ih, dropped, List.drop_zero, split]
      · rw [pieces, write, ih]
        rfl

theorem count_piecesFrom {count index : Nat} (sought : index < count) (skip : Nat)
    (text : List Char) :
    (piecesFrom count skip text).count (.mark index) =
      occurrences (placeholder index) (text.drop skip) := by
  induction text generalizing skip with
  | nil => simp [piecesFrom, occurrences]
  | cons c rest ih =>
    cases skip with
    | succ skip => exact ih skip
    | zero =>
      obtain ⟨other, after, -, split, pieces, dropped⟩ | ⟨apart, pieces⟩ :=
        piecesFrom_cons count c rest
      · rw [pieces, List.count_cons, ih, dropped, List.drop_zero, split, occurrences_placeholder]
        simp
      · rw [pieces, List.count_cons, ih, List.drop_zero, List.drop_zero,
          Text.occurrences_of_not_starts (apart index sought)]
        simp

/-- What begins in the text of pieces, and goes on as placeholders do, begins in their template. -/
theorem prefix_write {insert : Nat → List Char} (apart : ∀ index, OpensApart (insert index))
    {inner : List Char} (inside : ∀ c ∈ inner, c.isDigit = true ∨ c = '\x7d') {pieces : List Piece}
    (starts : inner <+: write insert pieces) : inner <+: write placeholder pieces := by
  induction pieces generalizing inner with
  | nil => exact starts
  | cons piece rest ih =>
    cases inner with
    | nil => exact List.nil_prefix
    | cons c inner =>
      cases piece with
      | char d =>
        obtain ⟨rfl, later⟩ := List.cons_prefix_cons.mp starts
        have tail := ih (fun e member => inside e (List.mem_cons_of_mem c member)) later
        exact List.cons_prefix_cons.mpr ⟨rfl, tail⟩
      | mark index =>
        obtain ⟨first, after, opens, noDigit, noClosing⟩ := apart index
        rw [write, opens] at starts
        obtain ⟨rfl, -⟩ := List.cons_prefix_cons.mp starts
        obtain digit | closing := inside c List.mem_cons_self
        · exact absurd (noDigit.symm.trans digit) Bool.false_ne_true
        · exact absurd closing noClosing

theorem opensApart_placeholder (index : Nat) : OpensApart (placeholder index) :=
  ⟨'\x7b', _, rfl, by decide, by decide⟩

/-- Texts without an opening brace bring no placeholder with them, and none is completed by them
when there is no brace before them or when they open apart. -/
theorem occurrences_write {count index : Nat} (sought : index < count)
    {insert : Nat → List Char} (kept : insert index = placeholder index)
    (unopened : ∀ other, insert other = placeholder other ∨ '\x7b' ∉ insert other)
    (skip : Nat) (text : List Char)
    (apart : .char '\x7b' ∉ piecesFrom count skip text ∨ ∀ other, OpensApart (insert other)) :
    occurrences (placeholder index) (write insert (piecesFrom count skip text)) =
      (piecesFrom count skip text).count (.mark index) := by
  induction text generalizing skip with
  | nil => simp [piecesFrom, write, occurrences]
  | cons c rest ih =>
    cases skip with
    | succ skip => exact ih skip apart
    | zero =>
      obtain ⟨other, -, -, -, pieces, -⟩ | ⟨unmarked, pieces⟩ := piecesFrom_cons count c rest
      · rw [pieces] at apart ⊢
        have inside := ih _ (apart.imp_left fun absent member =>
          absent (List.mem_cons_of_mem _ member))
        by_cases same : other = index
        · subst same
          rw [write, kept, occurrences_placeholder, if_pos rfl, inside, List.count_cons_self]
        · rw [write, count_mark_of_ne same, ← inside]
          obtain placed | absent := unopened other
          · rw [placed, occurrences_placeholder, if_neg same, Nat.add_zero]
          · exact Text.occurrences_append_of_notMem absent _
      · rw [pieces] at apart ⊢
        have inside := ih 0 (apart.imp_left fun absent member =>
          absent (List.mem_cons_of_mem _ member))
        rw [write, count_char, ← inside]
        refine Text.occurrences_of_not_starts ?_
        obtain absent | apart := apart
        · refine Text.not_starts_of_ne (fun brace => absent ?_) _
          rw [brace]
          exact List.mem_cons_self
        · refine Bool.eq_false_iff.mpr fun starts => ?_
          -- The template would have the placeholder here itself, and then this were no character.
          obtain ⟨rfl, later⟩ := List.cons_prefix_cons.mp (List.isPrefixOf_iff_prefix.mp starts)
          have tail := prefix_write apart (fun _ => isDigit_or_closing) later
          rw [write_placeholder, List.drop_zero] at tail
          refine Bool.false_ne_true ((unmarked index sought).symm.trans ?_)
          exact List.isPrefixOf_iff_prefix.mpr (List.cons_prefix_cons.mpr ⟨rfl, tail⟩)

section

variable {insert insert' : Nat → List Char} {index : Nat}
  (kept : insert index = placeholder index)
include kept

theorem count_le_occurrences (pieces : List Piece) :
    pieces.count (.mark index) ≤ occurrences (placeholder index) (write insert pieces) := by
  induction pieces with
  | nil => exact Nat.zero_le _
  | cons piece rest ih =>
    cases piece with
    | char c =>
      rw [count_char]
      exact Nat.le_trans ih (Text.occurrences_le_append _ [c] _)
    | mark other =>
      by_cases same : other = index
      · subst same
        rw [List.count_cons_self, write, kept, occurrences_placeholder, if_pos rfl]
        exact Nat.succ_le_succ ih
      · rw [count_mark_of_ne same]
        exact Nat.le_trans ih (Text.occurrences_le_append _ _ _)

/-- A pass that meets no other placeholder than those of the template puts its text into them. -/
theorem replace_write (agree : ∀ other, other ≠ index → insert other = insert' other)
    {pieces : List Piece}
    (undisturbed : occurrences (placeholder index) (write insert pieces) =
      pieces.count (.mark index)) :
    Text.replace (placeholder index) (insert' index) (write insert pieces) =
      write insert' pieces := by
  have solid := placeholder_ne_nil index
  induction pieces with
  | nil => exact Text.replace_nil solid _
  | cons piece rest ih =>
    have least := count_le_occurrences kept rest
    -- What is put in front without being a placeholder of this pass is passed over.
    have passed (front : List Char)
        (total : occurrences (placeholder index) (front ++ write insert rest) =
          rest.count (.mark index)) :
        Text.replace (placeholder index) (insert' index) (front ++ write insert rest) =
          front ++ write insert' rest := by
      have more := Text.occurrences_le_append (placeholder index) front (write insert rest)
      have inside : occurrences (placeholder index) (write insert rest) =
          rest.count (.mark index) := by omega
      rw [Text.replace_append solid _ (total.trans inside.symm), ih inside]
    cases piece with
    | char c =>
      rw [count_char] at undisturbed
      exact passed [c] undisturbed
    | mark other =>
      by_cases same : other = index
      · subst same
        rw [List.count_cons_self, write, kept, occurrences_placeholder, if_pos rfl] at undisturbed
        rw [write, kept, Text.replace_leading solid, ih (Nat.succ.inj undisturbed), write]
      · rw [count_mark_of_ne same] at undisturbed
        rw [write, write, ← agree other same]
        exact passed (insert other) undisturbed

end

theorem length_write {insert insert' : Nat → List Char} {index : Nat}
    (agree : ∀ other, other ≠ index → insert other = insert' other) (pieces : List Piece) :
    (write insert' pieces).length + pieces.count (.mark index) * (insert index).length =
      (write insert pieces).length + pieces.count (.mark index) * (insert' index).length := by
  induction pieces with
  | nil => simp [write]
  | cons piece rest ih =>
    cases piece with
    | char c =>
      rw [count_char]
      simp only [write, List.length_cons]
      omega
    | mark other =>
      simp only [write, List.length_append]
      by_cases same : other = index
      · subst same
        rw [List.count_cons_self, Nat.succ_mul, Nat.succ_mul]
        omega
      · rw [count_mark_of_ne same, agree other same]
        omega

/-- A pass that meets more placeholders than the template has takes out more, which shows in the
length when what it puts in is longer or shorter. -/
theorem occurrences_eq_of_replace_write {insert insert' : Nat → List Char} {index : Nat}
    (kept : insert index = placeholder index)
    (agree : ∀ other, other ≠ index → insert other = insert' other) {pieces : List Piece}
    (uneven : (insert' index).length ≠ (placeholder index).length)
    (same : Text.replace (placeholder index) (insert' index) (write insert pieces) =
      write insert' pieces) :
    occurrences (placeholder index) (write insert pieces) = pieces.count (.mark index) := by
  have passed := Text.length_replace (opening_notMem index) (insert' index) (write insert pieces)
  have atOnce := length_write agree pieces
  obtain ⟨more, total⟩ := Nat.exists_eq_add_of_le (count_le_occurrences kept pieces)
  rw [show '\x7b' :: (Number.digitsOf index ++ ['\x7d']) = placeholder index from rfl, same, total,
    Nat.add_mul, Nat.add_mul] at passed
  rw [kept] at atOnce
  -- The placeholders met in excess are all by which the two lengths can differ.
  have products : more * (placeholder index).length = more * (insert' index).length := by omega
  obtain rfl | positive := Nat.eq_zero_or_pos more
  · exact total
  · exact absurd (Nat.eq_of_mul_eq_mul_left positive products).symm uneven

section

variable (texts : List (List Char)) (template : List Char)

theorem insertion_take_self (index : Nat) :
    insertion (texts.take index) index = placeholder index := by
  rw [insertion, List.getElem?_take, if_neg (Nat.lt_irrefl index)]
  rfl

theorem insertion_take_succ {index other : Nat} (apart : other ≠ index) :
    insertion (texts.take index) other = insertion (texts.take (index + 1)) other := by
  simp only [insertion, List.getElem?_take]
  have bounds : other < index ↔ other < index + 1 := by omega
  simp only [bounds]

theorem insertion_take_eq {index : Nat} {text : List Char} (found : texts[index]? = some text) :
    insertion (texts.take (index + 1)) index = text := by
  simp [insertion, found]

theorem filledTo_zero : filledTo texts template 0 = template := by
  have none : insertion (texts.take 0) = placeholder := funext fun _ => rfl
  rw [filledTo, none, write_placeholder, List.drop_zero]

theorem filledTo_length : filledTo texts template texts.length = fillAtOnce texts template := by
  rw [filledTo, List.take_length, fillAtOnce]

variable {texts template}

theorem undisturbed_iff {index : Nat} (inside : index < texts.length) :
    Undisturbed texts template index ↔
      occurrences (placeholder index) (filledTo texts template index) =
        (piecesFrom texts.length 0 template).count (.mark index) := by
  rw [Undisturbed, count_piecesFrom inside, List.drop_zero]

theorem replace_filledTo {index : Nat} {text : List Char} (found : texts[index]? = some text)
    (undisturbed : Undisturbed texts template index) :
    Text.replace (placeholder index) text (filledTo texts template index) =
      filledTo texts template (index + 1) := by
  have inside := (List.getElem?_eq_some_iff.mp found).1
  have put := insertion_take_eq texts found
  have pass := replace_write (insertion_take_self texts index)
    (fun _ apart => insertion_take_succ texts apart) ((undisturbed_iff inside).mp undisturbed)
  rwa [put] at pass

theorem undisturbed_of_replace_filledTo {index : Nat} {text : List Char}
    (found : texts[index]? = some text) (uneven : text.length ≠ (placeholder index).length)
    (same : Text.replace (placeholder index) text (filledTo texts template index) =
      filledTo texts template (index + 1)) :
    Undisturbed texts template index := by
  have inside := (List.getElem?_eq_some_iff.mp found).1
  have put := insertion_take_eq texts found
  rw [← put] at uneven same
  exact (undisturbed_iff inside).mpr (occurrences_eq_of_replace_write
    (insertion_take_self texts index) (fun _ apart => insertion_take_succ texts apart) uneven same)

end

theorem fill_filledTo {texts : List (List Char)} {template : List Char} {args : List Value}
    (index : Nat) (listed : args.map chars <+: texts.drop index)
    (undisturbed : ∀ offset < args.length, Undisturbed texts template (index + offset)) :
    fill index (filledTo texts template index) args =
      filledTo texts template (index + args.length) := by
  -- Each argument finds the text as if those before it had been put in at once.
  induction args generalizing index with
  | nil => rfl
  | cons arg rest ih =>
    obtain ⟨after, split⟩ := listed
    have found : texts[index]? = some (chars arg) := by
      simpa using (congrArg List.head? split).symm
    have listed : rest.map chars <+: texts.drop (index + 1) :=
      ⟨after, by simpa using congrArg List.tail split⟩
    rw [fill, replace_filledTo found (undisturbed 0 (Nat.succ_pos _)), ih (index + 1) listed ?_,
      List.length_cons, Nat.add_assoc, Nat.add_comm 1]
    intro offset below
    rw [Nat.add_assoc, Nat.add_comm 1]
    exact undisturbed (offset + 1) (Nat.succ_lt_succ below)

theorem fill_append (index : Nat) (text : List Char) (first last : List Value) :
    fill index text (first ++ last) = fill (index + first.length) (fill index text first) last := by
  induction first generalizing index text with
  | nil => rfl
  | cons arg first ih =>
    rw [List.cons_append, fill, ih, fill, List.length_cons, Nat.add_right_comm, Nat.add_assoc]

theorem insertion_take_cases {texts : List (List Char)} {done : Nat} (inside : done < texts.length)
    (index : Nat) :
    insertion (texts.take done) index = placeholder index ∨
      insertion (texts.take done) index ∈ texts.dropLast := by
  rw [insertion]
  cases found : (texts.take done)[index]? with
  | none => exact .inl rfl
  | some text =>
    have member := List.mem_of_getElem? found
    rw [← List.take_append_drop done texts.dropLast, List.dropLast_eq_take, List.take_take,
      Nat.min_eq_left (Nat.le_sub_one_of_lt inside)]
    exact .inr (List.mem_append_left _ member)

theorem Harmless.undisturbed {texts : List (List Char)} {template : List Char}
    (harmless : Harmless texts template) {index : Nat} (inside : index < texts.length) :
    Undisturbed texts template index := by
  have stands := insertion_take_cases inside
  refine (undisturbed_iff inside).mpr (occurrences_write inside (insertion_take_self texts index)
    (fun other => (stands other).imp_right (harmless.unopened _)) 0 template ?_)
  refine harmless.apart.imp_right fun apart other => ?_
  obtain placed | member := stands other
  · exact placed ▸ opensApart_placeholder other
  · exact apart _ member

theorem fill_eq_fillAtOnce {template : List Char} {args : List Value}
    (undisturbed : ∀ index < args.length, Undisturbed (args.map chars) template index) :
    fill 0 template args = fillAtOnce (args.map chars) template := by
  have run := fill_filledTo 0 (List.prefix_refl (args.map chars)) (by simpa using undisturbed)
  have whole := filledTo_length (args.map chars) template
  rw [filledTo_zero, Nat.zero_add] at run
  rw [List.length_map] at whole
  exact run.trans whole

/-- With the passes before it undisturbed, the last one decides. -/
theorem fill_eq_fillAtOnce_iff {template : List Char} (first : List Value) (last : Value)
    (undisturbed : ∀ index < first.length,
      Undisturbed ((first ++ [last]).map chars) template index)
    (uneven : (chars last).length ≠ (placeholder first.length).length) :
    fill 0 template (first ++ [last]) = fillAtOnce ((first ++ [last]).map chars) template ↔
      Undisturbed ((first ++ [last]).map chars) template first.length := by
  have listed : first.map chars <+: (first ++ [last]).map chars := by
    rw [List.map_append]
    exact List.prefix_append _ _
  have found : ((first ++ [last]).map chars)[first.length]? = some (chars last) := by simp
  have run := fill_filledTo 0 listed (by simpa using undisturbed)
  have whole := filledTo_length ((first ++ [last]).map chars) template
  rw [filledTo_zero, Nat.zero_add] at run
  rw [List.length_map, List.length_append, List.length_singleton] at whole
  rw [fill_append, run, Nat.zero_add, ← whole]
  exact ⟨undisturbed_of_replace_filledTo found uneven, replace_filledTo found⟩

theorem apply_format_eq_iff (template : Value) (args : List Value) (text : List Char) :
    apply .format (template :: args) = .ok (textOf text) ↔
      fill 0 (chars template) args = text := by
  rw [apply, Except.ok.injEq, textOf, textOf, Value.text.injEq, String.ofList_inj]

/-- Passes that no inserted text disturbs put the arguments in verbatim, all other characters being
kept; texts that are harmless disturb none. When only the last pass may be disturbed, and its text
is not as long as the placeholder, the arguments are put in verbatim exactly when it is not. -/
theorem format_fills_at_once (template : Value) (args : List Value) :
    ((∀ index < args.length, Undisturbed (args.map chars) (chars template) index) →
      apply .format (template :: args) =
        .ok (textOf (fillAtOnce (args.map chars) (chars template)))) ∧
    (Harmless (args.map chars) (chars template) →
      apply .format (template :: args) =
        .ok (textOf (fillAtOnce (args.map chars) (chars template)))) ∧
    (∀ first last, args = first ++ [last] →
      (∀ index < first.length, Undisturbed (args.map chars) (chars template) index) →
      (chars last).length ≠ (placeholder first.length).length →
      (apply .format (template :: args) =
          .ok (textOf (fillAtOnce (args.map chars) (chars template))) ↔
        Undisturbed (args.map chars) (chars template) first.length)) := by
  simp only [apply_format_eq_iff]
  refine ⟨fill_eq_fillAtOnce, fun harmless => fill_eq_fillAtOnce fun index inside => ?_, ?_⟩
  · exact harmless.undisturbed (by rwa [List.length_map])
  · rintro first last rfl undisturbed uneven
    exact fill_eq_fillAtOnce_iff first last undisturbed uneven

/-- A placeholder without an argument is kept, and so is a brace before a text that opens apart; the
text of a placeholder for a later argument is not. -/
theorem format_fills_at_once_lamp :
    apply .format [.text "\x7b1\x7d is \x7b0\x7d, \x7b2\x7d", .text "on", .text "lamp"] =
        .ok (.text "lamp is on, \x7b2\x7d") ∧
      apply .format [.text "\x7b\x7b0\x7d\x7d \x7b1\x7d", .text "on", .text "7"] =
        .ok (.text "\x7bon\x7d 7") ∧
      apply .format [.text "\x7b0\x7d", .text "\x7b1\x7d", .text "x"] ≠
        .ok (.text "\x7b1\x7d") := by
  refine ⟨?_, ?_, fun verbatim => ?_⟩
  · exact (format_fills_at_once (.text "\x7b1\x7d is \x7b0\x7d, \x7b2\x7d")
      [.text "on", .text "lamp"]).1 (by decide +kernel)
  · have harmless : Harmless ["on".toList, "7".toList] "\x7b\x7b0\x7d\x7d \x7b1\x7d".toList :=
      ⟨by decide, .inr fun text member =>
        ⟨'o', ['n'], List.mem_singleton.mp member, by decide, by decide⟩⟩
    exact (format_fills_at_once (.text "\x7b\x7b0\x7d\x7d \x7b1\x7d")
      [.text "on", .text "7"]).2.1 harmless
  · have lastPass := (format_fills_at_once (.text "\x7b0\x7d")
      [.text "\x7b1\x7d", .text "x"]).2.2 [.text "\x7b1\x7d"] (.text "x") rfl
        (by decide +kernel) (by decide +kernel)
    exact absurd (lastPass.mp verbatim) (by decide +kernel)

/-- What an argument brings in, alone or between braces of the template, is read again. -/
theorem format_rereads_inserted :
    (apply .format [.text "\x7b0\x7d", .text "\x7b1\x7d", .text "x"] = .ok (.text "x") ∧
      fillAtOnce ["\x7b1\x7d".toList, "x".toList] "\x7b0\x7d".toList = "\x7b1\x7d".toList) ∧
    (apply .format [.text "\x7b\x7b0\x7d\x7d", .text "1", .text "x"] = .ok (.text "x") ∧
      fillAtOnce ["1".toList, "x".toList] "\x7b\x7b0\x7d\x7d".toList =
        "\x7b1\x7d".toList) :=
  ⟨⟨by cbv, by decide +kernel⟩, by cbv, by decide +kernel⟩

end LiveConfig.Builtin
