import ManifestOwnership.Number.Numeral
import ManifestOwnership.Proofs.Text.Digit
import Mathlib.Data.List.TakeWhile

/-! # The grammar of numerals

A numeral is an optional sign before a word for infinity or not-a-number, or before digits with an
optional fraction and exponent. Its digits are of any script and may be grouped by single
underscores.

The grammar leaves open what a run of digits is, so that it describes both the text of a numeral
and the plain digits it comes to. What leads from the one to the other can be cut at any
character that is neither a digit nor an underscore: each part of a numeral is read for itself.
-/

namespace ManifestOwnership

namespace Numeral

open Text

/-- Digits of any script, with single underscores between them. -/
inductive Digits : List Char → Prop
  | last {c : Char} : IsDigit c → Digits [c]
  | next {c : Char} {rest : List Char} : IsDigit c → Digits rest → Digits (c :: rest)
  | group {c : Char} {rest : List Char} : IsDigit c → Digits rest → Digits (c :: '_' :: rest)

/-- A sign, or none. -/
inductive Sign : List Char → Prop
  | none : Sign []
  | plus : Sign ['+']
  | minus : Sign ['-']

/-- Digits with a decimal point in front of them, among them, behind them or nowhere. -/
inductive Mantissa (Run : List Char → Prop) : List Char → Prop
  | whole {digits} : Run digits → Mantissa Run digits
  | point {digits} : Run digits → Mantissa Run (digits ++ ['.'])
  | fraction {digits} : Run digits → Mantissa Run ('.' :: digits)
  | both {digits fraction} : Run digits → Run fraction → Mantissa Run (digits ++ '.' :: fraction)

/-- An exponent, or none. -/
inductive Exponent (Run : List Char → Prop) : List Char → Prop
  | none : Exponent Run []
  | some {mark sign digits} : mark = 'e' ∨ mark = 'E' → Sign sign → Run digits →
      Exponent Run (mark :: (sign ++ digits))

/-- A numeral without its sign. -/
inductive Unsigned (Run : List Char → Prop) : List Char → Prop
  | word {word} : String.ofList (word.map (·.toLower)) ∈ ["inf", "infinity", "nan"] →
      Unsigned Run word
  | number {mantissa exponent} : Mantissa Run mantissa → Exponent Run exponent →
      Unsigned Run (mantissa ++ exponent)

/-- A text that is a numeral. -/
def Written (text : List Char) : Prop :=
  ∃ sign body, Sign sign ∧ Unsigned Digits body ∧ text = sign ++ body

def Basic (plain : List Char) : Prop :=
  plain ≠ [] ∧ ∀ c ∈ plain, c.isDigit = true

/-- A text comes to these characters: digits are made basic and the underscores between digits
left out. The flag says whether a digit stands before the text. -/
inductive Reads : Bool → List Char → List Char → Prop
  | nil {after : Bool} : Reads after [] []
  | char {after : Bool} {c : Char} {rest plain : List Char} : c ≠ '_' →
      Reads (basicDigit c).isDigit rest plain →
      Reads after (c :: rest) (basicDigit c :: plain)
  | mark {c : Char} {rest plain : List Char} : IsDigit c → Reads true rest plain →
      Reads true ('_' :: c :: rest) (basicDigit c :: plain)

variable {text front back rest plain body digits : List Char} {c : Char} {after : Bool}
  {Run : List Char → Prop}

private theorem basicDigit_ne_underscore (other : c ≠ '_') : basicDigit c ≠ '_' :=
  mt (basicDigit_eq_iff (by decide)).mp other

private theorem ungroup?_cons_of_ne (other : c ≠ '_') :
    ungroup? after (c :: rest) = (ungroup? c.isDigit rest).map (c :: ·) := by
  cases rest <;> simp [ungroup?, other]

private theorem ungroup?_of_reads (reads : Reads after text plain) :
    ungroup? after (text.map basicDigit) = some plain := by
  induction reads with
  | nil => rfl
  | char other _ ih =>
    rw [List.map_cons, ungroup?_cons_of_ne (basicDigit_ne_underscore other), ih, Option.map_some]
  | mark digit _ ih =>
    have underscore : basicDigit '_' = '_' := rfl
    rw [List.map_cons, List.map_cons, underscore, ungroup?, isDigit_basicDigit_iff.mpr digit,
      Bool.and_self, if_pos rfl, ih, Option.map_some]

private theorem reads_of_ungroup? (after : Bool) (text plain : List Char)
    (read : ungroup? after (text.map basicDigit) = some plain) : Reads after text plain := by
  match text with
  | [] =>
    cases read
    exact .nil
  | c :: rest =>
    by_cases marked : c = '_'
    · subst marked
      match rest with
      | [] => contradiction
      | c :: rest =>
        have underscore : basicDigit '_' = '_' := rfl
        rw [List.map_cons, List.map_cons, underscore, ungroup?] at read
        split at read
        case isTrue grouped =>
          obtain ⟨rfl, digit⟩ := Bool.and_eq_true_iff.mp grouped
          obtain ⟨plain, inner, rfl⟩ := Option.map_eq_some_iff.mp read
          exact .mark (isDigit_basicDigit_iff.mp digit) (reads_of_ungroup? _ _ _ inner)
        case isFalse => contradiction
    · rw [List.map_cons, ungroup?_cons_of_ne (basicDigit_ne_underscore marked)] at read
      obtain ⟨plain, inner, rfl⟩ := Option.map_eq_some_iff.mp read
      exact .char marked (reads_of_ungroup? _ _ _ inner)

/-- Ungrouping gives what the text comes to. -/
theorem ungroup?_eq_some_iff :
    ungroup? after (text.map basicDigit) = some plain ↔ Reads after text plain :=
  ⟨reads_of_ungroup? after text plain, ungroup?_of_reads⟩

/-- A character that is neither a digit nor an underscore. -/
def Cuts (c : Char) : Prop :=
  ¬ IsDigit c ∧ c ≠ '_'

theorem Cuts.of_lt (early : c.toNat < 0x660) (plain : c.isDigit = false) (other : c ≠ '_') :
    Cuts c := by
  refine ⟨?_, other⟩
  rw [isDigit_iff_of_lt early, plain]
  exact Bool.false_ne_true

theorem Cuts.basicDigit_eq_iff (cuts : Cuts c) {d : Char} : basicDigit d = c ↔ d = c :=
  Text.basicDigit_eq_iff cuts.1

theorem Cuts.isDigit_eq_false (cuts : Cuts c) : c.isDigit = false := by
  have same := cuts.basicDigit_eq_iff.mpr rfl
  rw [← Bool.not_eq_true, ← same, isDigit_basicDigit_iff]
  exact cuts.1

/-- A text that comes to a cut starts with it. -/
theorem reads_cons_iff (cuts : Cuts c) :
    Reads after text (c :: plain) ↔ ∃ rest, text = c :: rest ∧ Reads false rest plain := by
  constructor
  · intro reads
    generalize same : c :: plain = shown at reads
    cases reads with
    | nil => contradiction
    | @char _ first rest _ other reads =>
      obtain ⟨own, rfl⟩ := List.cons.inj same
      rw [← own, cuts.isDigit_eq_false] at reads
      obtain rfl := cuts.basicDigit_eq_iff.mp own.symm
      exact ⟨rest, rfl, reads⟩
    | @mark first rest _ digit reads =>
      obtain ⟨own, -⟩ := List.cons.inj same
      rw [← isDigit_basicDigit_iff, ← own, cuts.isDigit_eq_false] at digit
      contradiction
  · rintro ⟨rest, rfl, reads⟩
    have same := cuts.basicDigit_eq_iff.mpr rfl
    rw [← cuts.isDigit_eq_false, ← same] at reads
    nth_rewrite 2 [← same]
    exact .char cuts.2 reads

/-- A text can be read in two parts wherever the second starts with a cut. -/
theorem reads_append_iff (cuts : ∀ c ∈ back.head?, Cuts c) :
    Reads after text (front ++ back) ↔
      ∃ first second, text = first ++ second ∧ Reads after first front ∧
        Reads false second back := by
  induction front generalizing after text with
  | nil =>
    -- Whether a digit stands before a cut makes no difference to it.
    have start : Reads after text back ↔ Reads false text back := by
      cases back with
      | nil =>
        constructor <;>
        · rintro ⟨⟩
          exact .nil
      | cons c back => rw [reads_cons_iff (cuts c rfl), reads_cons_iff (cuts c rfl)]
    constructor
    · intro reads
      exact ⟨[], text, rfl, .nil, start.mp reads⟩
    · rintro ⟨_, second, rfl, ⟨⟩, reads⟩
      exact start.mpr reads
  | cons shown front ih =>
    constructor
    · intro reads
      rw [List.cons_append] at reads
      cases reads with
      | @char _ c _ _ other reads =>
        obtain ⟨first, second, rfl, reads, others⟩ := ih.mp reads
        exact ⟨c :: first, second, rfl, .char other reads, others⟩
      | @mark c _ _ digit reads =>
        obtain ⟨first, second, rfl, reads, others⟩ := ih.mp reads
        exact ⟨'_' :: c :: first, second, rfl, .mark digit reads, others⟩
    · rintro ⟨first, second, rfl, reads, others⟩
      cases reads with
      | char other reads => exact .char other (ih.mpr ⟨_, second, rfl, reads, others⟩)
      | mark digit reads => exact .mark digit (ih.mpr ⟨_, second, rfl, reads, others⟩)

/-- A text that comes to something with a cut in it is read in front of the cut and behind it. -/
theorem reads_append_cons_iff (cuts : Cuts c) :
    Reads after text (front ++ c :: plain) ↔
      ∃ first rest, text = first ++ c :: rest ∧ Reads after first front ∧
        Reads false rest plain := by
  have head : ∀ d ∈ (c :: plain).head?, Cuts d := by
    intro d first
    exact Option.some.inj first ▸ cuts
  rw [reads_append_iff head]
  constructor
  · rintro ⟨first, second, rfl, reads, others⟩
    obtain ⟨rest, rfl, behind⟩ := (reads_cons_iff cuts).mp others
    exact ⟨first, rest, rfl, reads, behind⟩
  · rintro ⟨first, rest, rfl, reads, others⟩
    exact ⟨first, c :: rest, rfl, reads, (reads_cons_iff cuts).mpr ⟨rest, rfl, others⟩⟩

private theorem reads_iff_of_cuts (cuts : ∀ c ∈ plain, Cuts c) :
    Reads false text plain ↔ text = plain := by
  induction plain generalizing text with
  | nil =>
    constructor
    · rintro ⟨⟩
      rfl
    · rintro rfl
      exact .nil
  | cons c plain ih =>
    have others : ∀ c ∈ plain, Cuts c := fun c member => cuts c (.tail _ member)
    rw [reads_cons_iff (cuts c (.head _))]
    simp only [ih others, exists_eq_right]

private theorem isDigit_ne_underscore (digit : IsDigit c) : c ≠ '_' := by
  rintro rfl
  exact (by decide : ¬ IsDigit '_') digit

private theorem digits_of_reads (reads : Reads after rest plain)
    (basic : ∀ c ∈ plain, c.isDigit = true) (digit : IsDigit c) : Digits (c :: rest) := by
  -- Each digit that is read becomes the one that the rest follows.
  induction reads generalizing c with
  | nil => exact .last digit
  | char _ _ ih =>
    have second := isDigit_basicDigit_iff.mp (basic _ (.head _))
    exact .next digit (ih (fun c member => basic c (.tail _ member)) second)
  | mark second _ ih =>
    exact .group digit (ih (fun c member => basic c (.tail _ member)) second)

private theorem reads_of_digits (digits : Digits text) : ∃ c rest plain, text = c :: rest ∧
    IsDigit c ∧ Reads true rest plain ∧ ∀ c ∈ plain, c.isDigit = true := by
  induction digits with
  | last digit => exact ⟨_, _, _, rfl, digit, .nil, by simp⟩
  | next digit _ ih =>
    obtain ⟨c, rest, plain, rfl, second, reads, basic⟩ := ih
    have shown := isDigit_basicDigit_iff.mpr second
    exact ⟨_, _, _, rfl, digit, .char (isDigit_ne_underscore second) (shown ▸ reads),
      List.forall_mem_cons.mpr ⟨shown, basic⟩⟩
  | group digit _ ih =>
    obtain ⟨c, rest, plain, rfl, second, reads, basic⟩ := ih
    exact ⟨_, _, _, rfl, digit, .mark second reads,
      List.forall_mem_cons.mpr ⟨isDigit_basicDigit_iff.mpr second, basic⟩⟩

/-- Digits in groups come to basic digits. -/
theorem digits_iff : Digits text ↔ ∃ plain, Reads false text plain ∧ Basic plain := by
  constructor
  · intro digits
    obtain ⟨c, rest, plain, rfl, digit, reads, basic⟩ := reads_of_digits digits
    have shown := isDigit_basicDigit_iff.mpr digit
    exact ⟨_, .char (isDigit_ne_underscore digit) (shown ▸ reads), List.cons_ne_nil _ _,
      List.forall_mem_cons.mpr ⟨shown, basic⟩⟩
  · rintro ⟨plain, reads, given, basic⟩
    cases reads with
    | nil => contradiction
    | char _ reads =>
      obtain ⟨digit, basic⟩ := List.forall_mem_cons.mp basic
      exact digits_of_reads reads basic (isDigit_basicDigit_iff.mp digit)

/-! ## The parts of a numeral -/

private theorem cuts_point : Cuts '.' := .of_lt (by decide) rfl (by decide)

private theorem reads_sign_iff (sign : Sign front) :
    Reads false text (front ++ plain) ↔ ∃ rest, text = front ++ rest ∧ Reads false rest plain := by
  cases sign with
  | none => simp
  | plus => exact reads_cons_iff (.of_lt (by decide) rfl (by decide))
  | minus => exact reads_cons_iff (.of_lt (by decide) rfl (by decide))

/-- An exponent starts with a letter. -/
theorem Exponent.cuts (exponent : Exponent Run text) : ∀ c ∈ text.head?, Cuts c ∧ c ≠ '.' := by
  intro c first
  cases exponent with
  | none => contradiction
  | some mark =>
    obtain rfl := Option.some.inj first
    obtain rfl | rfl := mark <;> exact ⟨.of_lt (by decide) rfl (by decide), by decide⟩

/-- A mantissa in grouped digits comes to one in basic digits. -/
theorem mantissa_iff :
    Mantissa Digits text ↔ ∃ plain, Reads false text plain ∧ Mantissa Basic plain := by
  constructor
  · rintro (digits | digits | digits | ⟨digits, fraction⟩)
    · obtain ⟨plain, reads, basic⟩ := digits_iff.mp digits
      exact ⟨plain, reads, .whole basic⟩
    · obtain ⟨plain, reads, basic⟩ := digits_iff.mp digits
      exact ⟨_, (reads_append_cons_iff cuts_point).mpr ⟨_, [], rfl, reads, .nil⟩, .point basic⟩
    · obtain ⟨plain, reads, basic⟩ := digits_iff.mp digits
      exact ⟨_, (reads_cons_iff cuts_point).mpr ⟨_, rfl, reads⟩, .fraction basic⟩
    · obtain ⟨plain, reads, basic⟩ := digits_iff.mp digits
      obtain ⟨behind, others, basicBehind⟩ := digits_iff.mp fraction
      exact ⟨_, (reads_append_cons_iff cuts_point).mpr ⟨_, _, rfl, reads, others⟩,
        .both basic basicBehind⟩
  · rintro ⟨plain, reads, mantissa⟩
    cases mantissa with
    | whole basic => exact .whole (digits_iff.mpr ⟨_, reads, basic⟩)
    | point basic =>
      obtain ⟨first, _, rfl, front, ⟨⟩⟩ := (reads_append_cons_iff cuts_point).mp reads
      exact .point (digits_iff.mpr ⟨_, front, basic⟩)
    | fraction basic =>
      obtain ⟨rest, rfl, back⟩ := (reads_cons_iff cuts_point).mp reads
      exact .fraction (digits_iff.mpr ⟨_, back, basic⟩)
    | both basic basicBehind =>
      obtain ⟨first, rest, rfl, front, back⟩ := (reads_append_cons_iff cuts_point).mp reads
      exact .both (digits_iff.mpr ⟨_, front, basic⟩) (digits_iff.mpr ⟨_, back, basicBehind⟩)

/-- An exponent in grouped digits comes to one in basic digits. -/
theorem exponent_iff :
    Exponent Digits text ↔ ∃ plain, Reads false text plain ∧ Exponent Basic plain := by
  constructor
  · rintro (_ | ⟨mark, sign, digits⟩)
    · exact ⟨[], .nil, .none⟩
    · obtain ⟨plain, reads, basic⟩ := digits_iff.mp digits
      have exponent := Exponent.some mark sign basic
      have signed := (reads_sign_iff sign).mpr ⟨_, rfl, reads⟩
      exact ⟨_, (reads_cons_iff (exponent.cuts _ rfl).1).mpr ⟨_, rfl, signed⟩, exponent⟩
  · rintro ⟨plain, reads, exponent⟩
    have cuts := exponent.cuts
    cases exponent with
    | none =>
      cases reads
      exact .none
    | some mark sign basic =>
      obtain ⟨rest, rfl, signed⟩ := (reads_cons_iff (cuts _ rfl).1).mp reads
      obtain ⟨digits, rfl, unsigned⟩ := (reads_sign_iff sign).mp signed
      exact .some mark sign (digits_iff.mpr ⟨_, unsigned, basic⟩)

private theorem letter_of_word
    (word : String.ofList (text.map (·.toLower)) ∈ ["inf", "infinity", "nan"]) :
    ∀ c ∈ text, c.toLower ∈ ['i', 'n', 'f', 't', 'y', 'a'] := by
  have letters : ∀ word ∈ ["inf", "infinity", "nan"], ∀ c ∈ word.toList,
      c ∈ ['i', 'n', 'f', 't', 'y', 'a'] := by simp
  intro c member
  apply letters _ word
  rw [String.toList_ofList]
  exact List.mem_map.mpr ⟨c, member, rfl⟩

private theorem cuts_of_letter
    (letter : c.toLower ∈ ['i', 'n', 'f', 't', 'y', 'a']) : Cuts c := by
  by_cases capital : 'A'.val ≤ c.val ∧ c.val ≤ 'Z'.val
  · simp only [UInt32.le_iff_toNat_le, Char.toNat_val] at capital
    obtain ⟨least, most⟩ : 0x41 ≤ c.toNat ∧ c.toNat ≤ 0x5A := capital
    refine .of_lt (by omega) ?_ ?_
    · rw [← Bool.not_eq_true, isDigit_iff_toNat]
      omega
    · rintro rfl
      contradiction
  · have same : c.toLower = c := dif_neg capital
    rw [same] at letter
    simp only [List.mem_cons, List.not_mem_nil, or_false] at letter
    obtain rfl | rfl | rfl | rfl | rfl | rfl := letter <;>
      exact .of_lt (by decide) rfl (by decide)

private theorem cuts_of_word
    (word : String.ofList (text.map (·.toLower)) ∈ ["inf", "infinity", "nan"]) :
    ∀ c ∈ text, Cuts c :=
  fun c member => cuts_of_letter (letter_of_word word c member)

/-- A numeral in grouped digits comes to one in basic digits. -/
theorem unsigned_iff :
    Unsigned Digits text ↔ ∃ plain, Reads false text plain ∧ Unsigned Basic plain := by
  constructor
  · rintro (word | ⟨mantissa, exponent⟩)
    · exact ⟨text, (reads_iff_of_cuts (cuts_of_word word)).mpr rfl, .word word⟩
    · obtain ⟨front, reads, mantissa⟩ := mantissa_iff.mp mantissa
      obtain ⟨back, others, exponent⟩ := exponent_iff.mp exponent
      have head : ∀ c ∈ back.head?, Cuts c := fun c first => (exponent.cuts c first).1
      exact ⟨_, (reads_append_iff head).mpr ⟨_, _, rfl, reads, others⟩, .number mantissa exponent⟩
  · rintro ⟨plain, reads, word | ⟨mantissa, exponent⟩⟩
    · obtain rfl := (reads_iff_of_cuts (cuts_of_word word)).mp reads
      exact .word word
    · have head : ∀ c ∈ _, Cuts c := fun c first => (exponent.cuts c first).1
      obtain ⟨first, second, rfl, front, back⟩ := (reads_append_iff head).mp reads
      exact .number (mantissa_iff.mpr ⟨_, front, mantissa⟩) (exponent_iff.mpr ⟨_, back, exponent⟩)

/-! ## Reading basic digits -/

private theorem isDigit_ne_sign (digit : c.isDigit = true) : c ≠ '+' ∧ c ≠ '-' := by
  constructor <;>
  · rintro rfl
    contradiction

/-- A sign in front of something else is split off. -/
theorem splitSign_append (sign : Sign front) (unsigned : ∀ c ∈ back.head?, c ≠ '+' ∧ c ≠ '-') :
    (splitSign (front ++ back)).2 = back := by
  cases sign with
  | plus => rfl
  | minus => rfl
  | none =>
    cases back with
    | nil => rfl
    | cons c back =>
      obtain ⟨positive, negative⟩ := unsigned c rfl
      simp [splitSign, positive, negative]

/-- What is split off is a sign. -/
theorem exists_sign (plain : List Char) :
    ∃ sign, Sign sign ∧ plain = sign ++ (splitSign plain).2 := by
  unfold splitSign
  split
  · exact ⟨_, .minus, rfl⟩
  · exact ⟨_, .plus, rfl⟩
  · exact ⟨_, .none, rfl⟩

private theorem isEmpty_or_not_all_eq_false_iff :
    (plain.isEmpty || !plain.all (·.isDigit)) = false ↔ Basic plain := by
  simp [Basic]

/-- Exactly exponents are read as such. -/
theorem isSome_exponent?_iff : (exponent? plain).isSome = true ↔ Exponent Basic plain := by
  cases plain with
  | nil => simp [exponent?, Exponent.none]
  | cons c rest =>
    have read : (exponent? (c :: rest)).isSome = true ↔
        (c = 'e' ∨ c = 'E') ∧ Basic (splitSign rest).2 := by
      simp only [exponent?, ← isEmpty_or_not_all_eq_false_iff]
      split_ifs <;> simp [*]
    rw [read]
    constructor
    · rintro ⟨mark, basic⟩
      obtain ⟨sign, signed, same⟩ := exists_sign rest
      rw [same]
      exact .some mark signed basic
    · rintro (_ | ⟨mark, sign, basic⟩)
      refine ⟨mark, ?_⟩
      rwa [splitSign_append sign]
      intro c first
      exact isDigit_ne_sign (basic.2 c (List.mem_of_mem_head? first))

/-- A mantissa is a run of digits, or two pieces of one with the point between them. -/
theorem mantissa_basic_iff : Mantissa Basic text ↔ Basic text ∨
    ∃ whole fraction, text = whole ++ '.' :: fraction ∧ Basic (whole ++ fraction) := by
  constructor
  · rintro (basic | basic | basic | ⟨basic, behind⟩)
    · exact .inl basic
    · exact .inr ⟨_, [], rfl, by rwa [List.append_nil]⟩
    · exact .inr ⟨[], _, rfl, basic⟩
    · exact .inr ⟨_, _, rfl, by simp [basic.1],
        List.forall_mem_append.mpr ⟨basic.2, behind.2⟩⟩
  · rintro (basic | ⟨whole, fraction, rfl, given, basic⟩)
    · exact .whole basic
    · obtain ⟨basic, behind⟩ := List.forall_mem_append.mp basic
      match whole, fraction with
      | [], [] => contradiction
      | [], _ :: _ => exact .fraction ⟨List.cons_ne_nil _ _, behind⟩
      | _ :: _, [] => exact .point ⟨List.cons_ne_nil _ _, basic⟩
      | _ :: _, _ :: _ =>
        exact .both ⟨List.cons_ne_nil _ _, basic⟩ ⟨List.cons_ne_nil _ _, behind⟩

private theorem exists_span (body : List Char) : ∃ front back, body = front ++ back ∧
    (∀ c ∈ front, c.isDigit = true) ∧ ∀ c ∈ back.head?, c.isDigit = false := by
  refine ⟨_, _, List.takeWhile_append_dropWhile.symm, fun c => List.mem_takeWhile_imp, ?_⟩
  intro c first
  have stops := List.head?_dropWhile_not (·.isDigit) body
  rw [Option.mem_def.mp first] at stops
  simpa using stops

private theorem span_digits (basic : ∀ c ∈ front, c.isDigit = true)
    (other : ∀ c ∈ back.head?, c.isDigit = false) :
    (front ++ back).takeWhile (·.isDigit) = front ∧
    (front ++ back).dropWhile (·.isDigit) = back := by
  rw [List.takeWhile_append_of_pos basic, List.dropWhile_append_of_pos basic]
  cases back with
  | nil => simp
  | cons c back => simp [other c rfl]

private theorem splitFraction_of_ne (unpointed : ∀ c ∈ text.head?, c ≠ '.') :
    splitFraction text = ([], text) := by
  cases text with
  | nil => rfl
  | cons c text => simp [splitFraction, unpointed c rfl]

/-- The whole digits, the fraction digits and the rest that are found in the characters. -/
private def scan (body : List Char) : List Char × List Char × List Char :=
  (body.takeWhile (·.isDigit), splitFraction (body.dropWhile (·.isDigit)))

private theorem scan_append (basic : ∀ c ∈ front, c.isDigit = true)
    (other : ∀ c ∈ back.head?, c.isDigit = false) :
    scan (front ++ back) = (front, splitFraction back) := by
  rw [scan, (span_digits basic other).1, (span_digits basic other).2]

private theorem scan_point {whole fraction : List Char}
    (basic : ∀ c ∈ whole ++ fraction, c.isDigit = true)
    (other : ∀ c ∈ rest.head?, c.isDigit = false) :
    scan (whole ++ '.' :: fraction ++ rest) = (whole, fraction, rest) := by
  obtain ⟨basic, behind⟩ := List.forall_mem_append.mp basic
  have point : ∀ c ∈ ('.' :: (fraction ++ rest)).head?, c.isDigit = false := by
    intro c first
    obtain rfl := Option.some.inj first
    rfl
  rw [List.append_assoc, List.cons_append, scan_append basic point, splitFraction,
    (span_digits behind other).1, (span_digits behind other).2]

private theorem isSome_unsigned?_iff_scan (negative : Bool) :
    (unsigned? negative body).isSome = true ↔
      String.ofList (body.map (·.toLower)) ∈ ["inf", "infinity", "nan"] ∨
      (scan body).1 ++ (scan body).2.1 ≠ [] ∧ (exponent? (scan body).2.2).isSome = true := by
  rw [unsigned?, scan]
  generalize String.ofList (body.map (·.toLower)) = word
  generalize body.takeWhile (·.isDigit) = whole
  generalize body.dropWhile (·.isDigit) = afterWhole
  cases found : splitFraction afterWhole with
  | mk fraction afterFraction =>
    by_cases infinite : word = "inf" ∨ word = "infinity"
    · have known : word ∈ ["inf", "infinity", "nan"] := by
        obtain rfl | rfl := infinite <;> simp
      simp [infinite, known]
    · by_cases nan : word = "nan"
      · simp [nan]
      · have unknown : word ∉ ["inf", "infinity", "nan"] := by
          simpa [nan] using infinite
        simp only [infinite, nan, unknown, found, if_false, false_or]
        by_cases empty : (whole.isEmpty && fraction.isEmpty) = true
        · have none : whole ++ fraction = [] := by simpa using empty
          simp [empty, none]
        · have some : whole ++ fraction ≠ [] := by simpa using empty
          simp only [empty, some, ne_eq, not_false_eq_true, true_and]
          cases exponent? afterFraction with
          | none => rfl
          | some exponent =>
            simp only [Bool.false_eq_true, if_false]
            split <;> rfl

private theorem exists_number_iff_scan : (∃ mantissa exponent, body = mantissa ++ exponent ∧
    Mantissa Basic mantissa ∧ Exponent Basic exponent) ↔
      (scan body).1 ++ (scan body).2.1 ≠ [] ∧ (exponent? (scan body).2.2).isSome = true := by
  rw [isSome_exponent?_iff]
  constructor
  · rintro ⟨mantissa, exponent, rfl, number, written⟩
    have other : ∀ c ∈ exponent.head?, c.isDigit = false :=
      fun c first => (written.cuts c first).1.isDigit_eq_false
    obtain basic | ⟨whole, fraction, rfl, given, basic⟩ := mantissa_basic_iff.mp number
    · rw [scan_append basic.2 other, splitFraction_of_ne fun c first => (written.cuts c first).2,
        List.append_nil]
      exact ⟨basic.1, written⟩
    · rw [scan_point basic other]
      exact ⟨given, written⟩
  · -- The characters split at the first that is no digit, and again behind a point.
    obtain ⟨front, back, rfl, basic, other⟩ := exists_span body
    rintro ⟨given, written⟩
    by_cases pointed : ∃ rest, back = '.' :: rest
    · obtain ⟨rest, rfl⟩ := pointed
      obtain ⟨fraction, exponent, rfl, behind, other⟩ := exists_span rest
      have digits := List.forall_mem_append.mpr ⟨basic, behind⟩
      have same : front ++ '.' :: (fraction ++ exponent) = front ++ '.' :: fraction ++ exponent :=
        (List.append_assoc front ('.' :: fraction) exponent).symm
      rw [same, scan_point digits other] at given written
      exact ⟨_, exponent, same, mantissa_basic_iff.mpr (.inr ⟨_, _, rfl, given, digits⟩), written⟩
    · have unpointed : ∀ c ∈ back.head?, c ≠ '.' := by
        rintro _ first rfl
        exact pointed (List.head?_eq_some_iff.mp first)
      rw [scan_append basic other, splitFraction_of_ne unpointed] at given written
      rw [List.append_nil] at given
      exact ⟨front, back, rfl, .whole ⟨given, basic⟩, written⟩

/-- Exactly the unsigned numerals are read as numbers. -/
theorem isSome_unsigned?_iff (negative : Bool) :
    (unsigned? negative body).isSome = true ↔ Unsigned Basic body := by
  rw [isSome_unsigned?_iff_scan, ← exists_number_iff_scan]
  constructor
  · rintro (word | ⟨mantissa, exponent, rfl, number, written⟩)
    · exact .word word
    · exact .number number written
  · rintro (word | ⟨number, written⟩)
    · exact .inl word
    · exact .inr ⟨_, _, rfl, number, written⟩

private theorem Unsigned.not_sign (unsigned : Unsigned Basic body) :
    ∀ c ∈ body.head?, c ≠ '+' ∧ c ≠ '-' := by
  intro c first
  obtain word | ⟨number, written⟩ := unsigned
  · have letter := letter_of_word word c (List.mem_of_mem_head? first)
    constructor <;>
    · rintro rfl
      contradiction
  · obtain ⟨given, basic⟩ | ⟨whole, fraction, rfl, -, basic⟩ := mantissa_basic_iff.mp number
    · obtain ⟨d, rest, rfl⟩ := List.exists_cons_of_ne_nil given
      obtain rfl := Option.some.inj first
      exact isDigit_ne_sign (basic _ (.head _))
    · cases whole with
      | nil =>
        obtain rfl := Option.some.inj first
        decide
      | cons d whole =>
        obtain rfl := Option.some.inj first
        exact isDigit_ne_sign (basic _ (.head _))

/-- Digits alone are a numeral. -/
theorem Digits.written (digits : Digits text) : Written text := by
  have unsigned : Unsigned Digits (text ++ []) := .number (.whole digits) .none
  rw [List.append_nil] at unsigned
  exact ⟨[], text, .none, unsigned, rfl⟩

/-- A text is a numeral if what it comes to is one, its sign split off. -/
theorem written_iff : Written text ↔
    ∃ plain, Reads false text plain ∧ Unsigned Basic (splitSign plain).2 := by
  constructor
  · rintro ⟨sign, body, signed, unsigned, rfl⟩
    obtain ⟨plain, reads, unsigned⟩ := unsigned_iff.mp unsigned
    refine ⟨sign ++ plain, (reads_sign_iff signed).mpr ⟨body, rfl, reads⟩, ?_⟩
    rwa [splitSign_append signed unsigned.not_sign]
  · rintro ⟨plain, reads, unsigned⟩
    obtain ⟨sign, signed, same⟩ := exists_sign plain
    rw [same] at reads
    obtain ⟨body, rfl, inner⟩ := (reads_sign_iff signed).mp reads
    exact ⟨sign, body, signed, unsigned_iff.mpr ⟨_, inner, unsigned⟩, rfl⟩

end Numeral

/-- Exactly the texts of the grammar stand for numbers. -/
theorem Number.isSome_ofText?_iff {text : List Char} :
    (ofText? text).isSome = true ↔ Numeral.Written text := by
  simp only [Numeral.written_iff, ← Numeral.ungroup?_eq_some_iff]
  rw [ofText?]
  cases Numeral.ungroup? false (text.map Text.basicDigit) with
  | none => simp
  | some plain => simpa using Numeral.isSome_unsigned?_iff (Numeral.splitSign plain).1

end ManifestOwnership
