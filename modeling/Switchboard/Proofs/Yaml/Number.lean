import Switchboard.Proofs.Decimal
import Switchboard.Proofs.Json.Lexeme
import Switchboard.Yaml.Scalar

/-!
Numbers of JSON as YAML reads them.

* `Number` — how a number is written that both notations know: an integer, or a number with a fraction, whose exponent
  has a sign if there is one;
* `classify_integer`, `classify_decimal`, `classify_text` — as plain scalars these are integers and numbers with a
  fraction, and the other numbers of JSON are texts;
* `readInt_integer`, `readFloat_decimal` — their values are those of JSON;
* `number_means_iff` — both at once.

Integers could be taken for something else, since YAML knows octal and hexadecimal numbers, numbers in base sixty and
dates. None of these begins like a number of JSON and goes on like one: a zero is the only digit in front of a point or
an exponent, and neither a colon nor a dash follows the digits.
-/
namespace Switchboard.Yaml

open Json (Numeral IsWhole FractionText SignText ExponentText digit_ne)
open Template (IsRun)

/-! ### The characters of numbers -/

/-- The characters of numbers. -/
def numeric : List Char := "0123456789-+.eE".toList

theorem mem_numeric_of_isDigit {c : Char} (h : Text.isDigit c = true) : c ∈ numeric := by
  have hbounds : 48 ≤ c.toNat ∧ c.toNat ≤ 57 := by
    simpa [Text.isDigit, Char.le_def, UInt32.le_iff_toNat_le] using h
  obtain ⟨hlow, hhigh⟩ := hbounds
  have hc : c = Char.ofNat c.toNat := (Char.ofNat_toNat c).symm
  -- there are ten characters to look at
  rw [hc]
  interval_cases c.toNat <;> decide

theorem mem_numeric {n : Numeral} {cs : List Char} (h : n.Written cs) : ∀ c ∈ cs, c ∈ numeric := by
  obtain ⟨hwhole, hfraction, hexponent⟩ := h
  have hrun : ∀ {digits : List Char}, IsRun digits → ∀ c ∈ digits, c ∈ numeric :=
    fun hdigits c hc => mem_numeric_of_isDigit (hdigits.isDigit c hc)
  simp only [List.forall_mem_append]
  refine ⟨⟨⟨?_, hrun hwhole.toIsRun⟩, ?_⟩, ?_⟩
  · rw [Numeral.sign]
    split
    · exact List.forall_mem_singleton.mpr (by decide)
    · simp
  · generalize n.fraction = given at hfraction
    cases hfraction with
    | absent => simp
    | present hdigits => exact List.forall_mem_cons.mpr ⟨by decide, hrun hdigits⟩
  · generalize n.exponent = given at hexponent
    cases hexponent with
    | absent => simp
    | present hmark hsign hdigits =>
      refine List.forall_mem_cons.mpr ⟨?_, List.forall_mem_append.mpr ⟨?_, hrun hdigits⟩⟩
      · rcases hmark with rfl | rfl <;> decide
      · cases hsign with
        | absent => simp
        | minus | plus => exact List.forall_mem_singleton.mpr (by decide)

theorem ne_of_mem_numeric {c d : Char} (hc : c ∈ numeric) (hd : d ∉ numeric) : c ≠ d :=
  fun heq => hd (heq ▸ hc)

/-! ### The form of a number -/

/-- How an exponent is written that both notations know: with a sign. -/
inductive SignedExponent : Option (Bool × List Char) → List Char → Prop where
  | absent : SignedExponent none []
  | minus {mark : Char} {digits : List Char} (hmark : mark = 'e' ∨ mark = 'E') (h : IsRun digits) :
      SignedExponent (some (true, digits)) (mark :: '-' :: digits)
  | plus {mark : Char} {digits : List Char} (hmark : mark = 'e' ∨ mark = 'E') (h : IsRun digits) :
      SignedExponent (some (false, digits)) (mark :: '+' :: digits)

/-- How a number is written that both notations know: an exponent stands behind a fraction and has a sign. -/
inductive Number (n : Numeral) : List Char → Prop where
  | integer (h : n.IsInteger) (hwhole : IsWhole n.whole) : Number n (n.sign ++ n.whole)
  | decimal {digits exponent : List Char} (hwhole : IsWhole n.whole) (hfraction : n.fraction = some digits)
      (hdigits : IsRun digits) (hexponent : SignedExponent n.exponent exponent) :
      Number n (n.sign ++ (n.whole ++ '.' :: (digits ++ exponent)))

theorem SignedExponent.exponentText {exponent : Option (Bool × List Char)} {cs : List Char}
    (h : SignedExponent exponent cs) : ExponentText exponent cs := by
  cases h with
  | absent => exact .absent
  | minus hmark hdigits => exact .present hmark .minus hdigits
  | plus hmark hdigits => exact .present hmark .plus hdigits

theorem Number.written {n : Numeral} {cs : List Char} (h : Number n cs) : n.Written cs := by
  cases h with
  | integer h hwhole =>
    have hwritten : n.Written (n.sign ++ n.whole ++ [] ++ []) :=
      .mk hwhole (by rw [h.1]; exact .absent) (by rw [h.2]; exact .absent)
    simpa using hwritten
  | @decimal digits exponent hwhole hfraction hdigits hexponent =>
    have hwritten : n.Written (n.sign ++ n.whole ++ '.' :: digits ++ exponent) :=
      .mk hwhole (by rw [hfraction]; exact .present hdigits) hexponent.exponentText
    simpa using hwritten

/-- A sign in front of digits is passed over, and only that. -/
theorem unsigned_sign_append {n : Numeral} {cs : List Char} (h : ∀ c, cs.head? = some c → Text.isDigit c = true) :
    unsigned (n.sign ++ cs) = cs := by
  rw [Numeral.sign]
  split
  · rfl
  · cases cs with
    | nil => rfl
    | cons c rest =>
      have hc := h c rfl
      rw [List.nil_append, unsigned.eq_def]
      split
      · next heq => exact absurd hc (by rw [(List.cons.inj heq).1]; decide)
      · next heq => exact absurd hc (by rw [(List.cons.inj heq).1]; decide)
      · rfl

theorem head?_whole_append {digits : List Char} (h : IsWhole digits) (rest : List Char) :
    ∀ c, (digits ++ rest).head? = some c → Text.isDigit c = true := by
  intro c hc
  obtain ⟨d, more, rfl⟩ := List.exists_cons_of_ne_nil h.ne_nil
  obtain rfl := Option.some.inj hc
  exact h.isDigit d List.mem_cons_self

/-- No word has the form of a number. -/
theorem ne_of_written {n : Numeral} {cs : List Char} (h : n.Written cs) {word : String}
    (hword : (word.toList.head?.any fun c => Text.isDigit c || c = '-') = false) : String.ofList cs ≠ word := by
  rintro rfl
  rw [String.toList_ofList] at hword
  obtain ⟨d, rest, hdigit, rfl | rfl⟩ := h.head
  · simp [hdigit] at hword
  · simp at hword

theorem ne_nil_of_written {n : Numeral} {cs : List Char} (h : n.Written cs) : cs ≠ [] := by
  obtain ⟨d, rest, -, rfl | rfl⟩ := h.head <;> simp

/-- Whether a number has the form of an integer or of one with a fraction decides what it stands for. -/
theorem classify_written {n : Numeral} {cs : List Char} (h : n.Written cs) :
    classify (String.ofList cs) =
      if isFloat cs then .float else if isInt cs then .int else if isMoment cs then .moment else .text := by
  have hline : ∀ c ∈ cs.reverse, c ≠ '\n' :=
    fun c hc => ne_of_mem_numeric (mem_numeric h c (List.mem_reverse.mp hc)) (by decide)
  -- a line feed at the end would be left aside
  have hclassify : classify (String.ofList cs) = classifyLine (String.ofList cs) := by
    rw [classify.eq_def, String.toList_ofList]
    split
    · next heq => exact absurd rfl (hline '\n' (by simp [heq]))
    · next heq => exact absurd rfl (hline '\n' (by simp [heq]))
    · rfl
  have hempty : String.ofList cs ≠ "" := fun heq => ne_nil_of_written h (by simpa using congrArg String.toList heq)
  have hwords : ∀ word ∈ ["~", "null", "Null", "NULL", "<<", "=", "!", "&", "*"] ++ boolWords.map (·.1),
      String.ofList cs ≠ word := by
    have hheads : ∀ word ∈ ["~", "null", "Null", "NULL", "<<", "=", "!", "&", "*"] ++ boolWords.map (·.1),
        (word.toList.head?.any fun c => Text.isDigit c || c = '-') = false := by decide
    exact fun word hword => ne_of_written h (hheads word hword)
  have hbool : boolWords.lookup (String.ofList cs) = none := by
    refine List.lookup_eq_none_iff.mpr fun p hp => ?_
    simpa using hwords p.1 (List.mem_append_right _ (List.mem_map_of_mem hp))
  simp only [List.cons_append, List.forall_mem_cons] at hwords
  rw [hclassify, classifyLine, String.toList_ofList, hbool]
  simp [hempty, hwords]

section
variable {n : Numeral} {cs : List Char}

/-- Without its sign a number begins with its integer part. -/
theorem unsigned_whole (hwhole : IsWhole n.whole) (tail : List Char) :
    unsigned (n.sign ++ (n.whole ++ tail)) = n.whole ++ tail :=
  unsigned_sign_append (head?_whole_append hwhole tail)

theorem isDigitOrLine_of_isDigit {c : Char} (h : Text.isDigit c = true) : isDigitOrLine c = true := by
  simp [isDigitOrLine, h]

theorem isDigits_of_isRun {digits : List Char} (h : IsRun digits) : isDigits digits = true := by
  obtain ⟨c, rest, rfl⟩ := List.exists_cons_of_ne_nil h.ne_nil
  obtain ⟨hc, hrest⟩ := List.forall_mem_cons.mp h.isDigit
  simp only [isDigits, hc, Bool.true_and, List.all_eq_true]
  exact fun d hd => isDigitOrLine_of_isDigit (hrest d hd)

theorem takeWhile_digits {digits tail : List Char} (h : IsRun digits)
    (htail : ∀ c, tail.head? = some c → isDigitOrLine c = false) :
    (digits ++ tail).takeWhile isDigitOrLine = digits :=
  Text.takeWhile_append (fun c hc => isDigitOrLine_of_isDigit (h.isDigit c hc)) htail

theorem SignedExponent.head {exponent : Option (Bool × List Char)} {cs : List Char}
    (h : SignedExponent exponent cs) : ∀ c, cs.head? = some c → c = 'e' ∨ c = 'E' := by
  cases h with
  | absent => simp
  | minus hmark _ | plus hmark _ => exact fun c hc => Option.some.inj hc ▸ hmark

theorem SignedExponent.isExponent {exponent : Option (Bool × List Char)} {cs : List Char}
    (h : SignedExponent exponent cs) : isExponent cs = true := by
  cases h with
  | absent => rfl
  | minus hmark hdigits | plus hmark hdigits =>
    rcases hmark with rfl | rfl <;> simp [Yaml.isExponent, hdigits.ne_nil, List.all_eq_true.mpr hdigits.isDigit]

/-- A number is nothing in base sixty, and no word. -/
theorem isFloat_written (h : n.Written cs) : isFloat cs = isDecimal cs := by
  obtain @⟨fraction, exponent, hwhole, hfraction, hexponent⟩ := h
  have hwritten : n.Written (n.sign ++ n.whole ++ fraction ++ exponent) := .mk hwhole hfraction hexponent
  have hcolon : ∀ c ∈ n.sign ++ n.whole ++ fraction ++ exponent, decide (c = ':') = false :=
    fun c hc => decide_eq_false (ne_of_mem_numeric (mem_numeric hwritten c hc) (by decide))
  have hbody : unsigned (n.sign ++ n.whole ++ fraction ++ exponent) = n.whole ++ (fraction ++ exponent) := by
    simpa using unsigned_whole hwhole (fraction ++ exponent)
  -- base sixty takes a colon, and the words for other numbers begin with a point
  have hsplit : Text.splitOn (· = ':') (n.whole ++ (fraction ++ exponent)) = [n.whole ++ (fraction ++ exponent)] :=
    Text.splitOn_of_forall fun c hc => hcolon c (by simp only [List.mem_append] at hc ⊢; tauto)
  have hinfinite : String.ofList (n.whole ++ (fraction ++ exponent)) ∉ [".inf", ".Inf", ".INF"] := by
    have hheads : ∀ word ∈ [".inf", ".Inf", ".INF"], word.toList.head? = some '.' := by decide
    intro hmem
    have hhead := head?_whole_append hwhole (fraction ++ exponent) '.' (by simpa using hheads _ hmem)
    exact absurd hhead (by decide)
  have hundefined : String.ofList (n.sign ++ n.whole ++ fraction ++ exponent) ∉ [".nan", ".NaN", ".NAN"] := by
    have hheads : ∀ word ∈ [".nan", ".NaN", ".NAN"],
        (word.toList.head?.any fun c => Text.isDigit c || c = '-') = false := by decide
    exact fun hmem => ne_of_written hwritten (hheads _ hmem) rfl
  have hsixty : isSixtyDecimal (n.sign ++ n.whole ++ fraction ++ exponent) = false := by
    rw [isSixtyDecimal, hbody, hsplit]
    rfl
  rw [isFloat, hsixty, hbody, decide_eq_false hinfinite, decide_eq_false hundefined]
  simp

/-- Behind the integer part stands a point, and behind the fraction an exponent or nothing. -/
theorem isDecimal_point (hwhole : IsWhole n.whole) {digits exponent : List Char} (hdigits : IsRun digits)
    (hexponent : ∀ c, exponent.head? = some c → isDigitOrLine c = false) :
    isDecimal (n.sign ++ (n.whole ++ '.' :: (digits ++ exponent))) = isExponent exponent := by
  have hpoint : ∀ c, ('.' :: (digits ++ exponent)).head? = some c → isDigitOrLine c = false := by
    intro c hc
    obtain rfl := Option.some.inj hc
    decide
  rw [isDecimal, unsigned_whole hwhole]
  dsimp only
  rw [takeWhile_digits hwhole.toIsRun hpoint, List.drop_left]
  simp only [takeWhile_digits hdigits hexponent, List.drop_left]
  simp [hwhole.ne_nil, isDigits_of_isRun hwhole.toIsRun]

theorem isDecimal_of_ne (hwhole : IsWhole n.whole) {tail : List Char}
    (htail : ∀ c, tail.head? = some c → isDigitOrLine c = false ∧ c ≠ '.') :
    isDecimal (n.sign ++ (n.whole ++ tail)) = false := by
  rw [isDecimal, unsigned_whole hwhole]
  dsimp only
  rw [takeWhile_digits hwhole.toIsRun fun c hc => (htail c hc).1, List.drop_left]
  split
  · exact absurd rfl (htail _ rfl).2
  · rfl

/-- Digits alone write an integer; only a zero in front of others could stand for a base. -/
theorem isInt_whole (hwhole : IsWhole n.whole) : isInt (n.sign ++ n.whole) = true := by
  have hbody : unsigned (n.sign ++ n.whole) = n.whole := by simpa using unsigned_whole hwhole []
  have hcolon : ∀ c ∈ n.whole, decide (c = ':') = false :=
    fun c hc => by simpa using digit_ne (hwhole.isDigit c hc) (by decide)
  by_cases hzero : n.whole.head? = some '0'
  · -- then it is the only digit
    rw [isInt, hbody, hwhole.zero hzero]
    rfl
  · rw [isInt, hbody]
    split
    · next heq => exact absurd (by rw [heq]; rfl) hzero
    · next heq => exact absurd (by rw [heq]; rfl) hzero
    · next heq => exact absurd (by rw [heq]; rfl) hzero
    · rw [Text.splitOn_of_forall hcolon]
      exact isDigits_of_isRun hwhole.toIsRun

/-- A number without fraction and exponent is an integer. -/
theorem classify_integer (h : n.IsInteger) (hwhole : IsWhole n.whole) :
    classify (String.ofList (n.sign ++ n.whole)) = .int := by
  have hwritten := (Number.integer h hwhole).written
  have hdecimal : isDecimal (n.sign ++ n.whole) = false := by
    simpa using isDecimal_of_ne hwhole (by simp : ∀ c, [].head? = some c → isDigitOrLine c = false ∧ c ≠ '.')
  rw [classify_written hwritten, isFloat_written hwritten, hdecimal, isInt_whole hwhole]
  rfl

/-- A number with a fraction, and with a signed exponent or none, is one. -/
theorem classify_decimal {digits exponent : List Char} (hwhole : IsWhole n.whole) (hfraction : n.fraction = some digits)
    (hdigits : IsRun digits) (hexponent : SignedExponent n.exponent exponent) :
    classify (String.ofList (n.sign ++ (n.whole ++ '.' :: (digits ++ exponent)))) = .float := by
  have hwritten := (Number.decimal hwhole hfraction hdigits hexponent).written
  have hmark : ∀ c, exponent.head? = some c → isDigitOrLine c = false := by
    intro c hc
    rcases hexponent.head c hc with rfl | rfl <;> decide
  have hdecimal : isDecimal (n.sign ++ (n.whole ++ '.' :: (digits ++ exponent))) = true := by
    rw [isDecimal_point hwhole hdigits hmark, hexponent.isExponent]
  rw [classify_written hwritten, isFloat_written hwritten, hdecimal]
  rfl

/-- The exponent of any other number lacks a sign, or a fraction in front. -/
theorem exists_bare_exponent (h : n.Written cs) (hnot : ¬ Number n cs) :
    ∃ fraction mark rest, IsWhole n.whole ∧ FractionText n.fraction fraction ∧ (mark = 'e' ∨ mark = 'E') ∧
      cs = n.sign ++ (n.whole ++ (fraction ++ mark :: rest)) ∧ (fraction = [] ∨ isExponent (mark :: rest) = false) := by
  obtain @⟨fraction, exponent, hwhole, hfraction, hexponent⟩ := h
  rw [List.append_assoc, List.append_assoc] at hnot
  have hparts : ∀ {mark : Char} {rest : List Char}, (mark = 'e' ∨ mark = 'E') → exponent = mark :: rest →
      (fraction = [] ∨ isExponent (mark :: rest) = false) → ∃ fraction' mark' rest', IsWhole n.whole ∧
        FractionText n.fraction fraction' ∧ (mark' = 'e' ∨ mark' = 'E') ∧
        n.sign ++ n.whole ++ fraction ++ exponent = n.sign ++ (n.whole ++ (fraction' ++ mark' :: rest')) ∧
        (fraction' = [] ∨ isExponent (mark' :: rest') = false) := by
    intro mark rest hmark hexp hor
    exact ⟨fraction, mark, rest, hwhole, hfraction, hmark, by simp [hexp], hor⟩
  generalize hgiven : n.exponent = given at hexponent
  cases hexponent with
  | absent =>
    -- without an exponent a number is known to both
    exfalso
    generalize hpart : n.fraction = part at hfraction
    cases hfraction with
    | absent => exact hnot (by simpa using Number.integer ⟨hpart, hgiven⟩ hwhole)
    | present hdigits => exact hnot (.decimal hwhole hpart hdigits (by rw [hgiven]; exact .absent))
  | @present mark negative sign digits hmark hsign hdigits =>
    refine hparts hmark rfl ?_
    generalize hpart : n.fraction = part at hfraction
    cases hfraction with
    | absent => exact .inl rfl
    | present hfraction =>
      refine .inr ?_
      cases hsign with
      | minus =>
        exact absurd (.decimal hwhole hpart hfraction (by rw [hgiven]; exact .minus hmark hdigits)) hnot
      | plus =>
        exact absurd (.decimal hwhole hpart hfraction (by rw [hgiven]; exact .plus hmark hdigits)) hnot
      | absent =>
        obtain ⟨d, more, rfl⟩ := List.exists_cons_of_ne_nil hdigits.ne_nil
        have hd := hdigits.isDigit d List.mem_cons_self
        have hminus : d ≠ '-' := digit_ne hd (by decide)
        have hplus : d ≠ '+' := digit_ne hd (by decide)
        simp [isExponent, hminus, hplus]

theorem isDigitOrLine_of_isDigits {digits : List Char} (h : isDigits digits = true) :
    ∀ c ∈ digits, isDigitOrLine c = true := by
  cases digits with
  | nil => simp
  | cons c rest =>
    obtain ⟨hc, hrest⟩ := Bool.and_eq_true_iff.mp h
    exact List.forall_mem_cons.mpr ⟨isDigitOrLine_of_isDigit hc, List.all_eq_true.mp hrest⟩

/-- A text with a letter behind its first digits is no integer; a zero in front of it marks no base. -/
theorem isInt_of_mark {mark : Char} {tail : List Char} (hwhole : IsWhole n.whole) (hmark : mark = 'e' ∨ mark = 'E')
    (hmem : mark ∈ tail) (hhead : ∀ c, tail.head? = some c → c ≠ 'b' ∧ c ≠ 'x')
    (hcolon : ∀ c ∈ tail, c ≠ ':') : isInt (n.sign ++ (n.whole ++ tail)) = false := by
  have hdigit : isDigitOrLine mark = false ∧ ¬ (mark ≤ '7') ∧ mark ≠ '_' := by
    rcases hmark with rfl | rfl <;> decide
  have hzero : ∀ {rest : List Char}, n.whole ++ tail = '0' :: rest → rest = tail := by
    intro rest heq
    have hwhole' : n.whole = ['0'] := by
      obtain ⟨d, more, hd⟩ := List.exists_cons_of_ne_nil hwhole.ne_nil
      rw [hd] at heq
      exact hwhole.zero (by rw [hd, (List.cons.inj heq).1]; rfl)
    rw [hwhole'] at heq
    exact (List.cons.inj heq).2.symm
  rw [isInt, unsigned_whole hwhole]
  -- the bases that a zero can mark, two by a letter and one without, and then digits with colons between
  split
  · next heq => exact absurd rfl (hhead 'b' (by rw [← hzero heq]; rfl)).1
  · next heq => exact absurd rfl (hhead 'x' (by rw [← hzero heq]; rfl)).2
  · next heq =>
    rw [hzero heq]
    refine List.all_eq_false.mpr ⟨mark, hmem, ?_⟩
    simp [hdigit]
  · have hplain : ∀ c ∈ n.whole ++ tail, decide (c = ':') = false := by
      intro c hc
      rcases List.mem_append.mp hc with hc | hc
      · simpa using digit_ne (hwhole.isDigit c hc) (by decide)
      · simpa using hcolon c hc
    rw [Text.splitOn_of_forall hplain]
    refine Bool.eq_false_iff.mpr fun hdigits => ?_
    have hall := isDigitOrLine_of_isDigits hdigits mark (List.mem_append_right _ hmem)
    exact absurd hall (by simp [hdigit])

theorem expect_eq_some {c : Char} {rest : List Char} (h : expect c cs = some rest) : cs = c :: rest := by
  cases cs with
  | nil => simp [expect] at h
  | cons d more =>
    rw [expect] at h
    split_ifs at h with hc
    rw [hc, Option.some.inj h]

/-- A point in time begins with digits and a dash behind them. -/
theorem exists_year (h : isMoment cs = true) :
    ∃ year rest, year ≠ [] ∧ (∀ c ∈ year, Text.isDigit c = true) ∧ cs = year ++ '-' :: rest := by
  rw [isMoment] at h
  split at h
  · next t ht =>
    obtain ⟨⟨year, behind⟩, hyear, ht⟩ := Option.bind_eq_some_iff.mp ht
    obtain ⟨rest, hdash, -⟩ := Option.bind_eq_some_iff.mp ht
    rw [digitRun] at hyear
    split_ifs at hyear with hshort
    obtain ⟨rfl, rfl⟩ := Prod.mk.inj (Option.some.inj hyear)
    have hprefix : (cs.take 4).takeWhile Text.isDigit <+: cs :=
      (List.takeWhile_prefix _).trans (List.take_prefix 4 cs)
    refine ⟨(cs.take 4).takeWhile Text.isDigit, rest, ?_, fun c hc => List.mem_takeWhile_imp hc, ?_⟩
    · exact List.ne_nil_of_length_pos (by omega)
    · rw [← expect_eq_some hdash]
      exact (List.prefix_iff_eq_append.mp hprefix).symm
  · simp at h

/-- No dash follows the first digits of a number. -/
theorem isMoment_whole (hwhole : IsWhole n.whole) {tail : List Char}
    (htail : ∀ c, tail.head? = some c → Text.isDigit c = false ∧ c ≠ '-') :
    isMoment (n.sign ++ (n.whole ++ tail)) = false := by
  refine Bool.eq_false_iff.mpr fun hmoment => ?_
  obtain ⟨year, rest, hne, hyear, hcs⟩ := exists_year hmoment
  have hsign : n.sign = [] := by
    rw [Numeral.sign] at hcs ⊢
    split_ifs at hcs ⊢
    · obtain ⟨d, more, rfl⟩ := List.exists_cons_of_ne_nil hne
      have hd := hyear d List.mem_cons_self
      exact absurd (List.cons.inj hcs).1.symm (digit_ne hd (by decide))
    · rfl
  rw [hsign, List.nil_append] at hcs
  -- both times the digits up to the first other character are meant
  have hdigits : n.whole = year := by
    calc n.whole = (n.whole ++ tail).takeWhile Text.isDigit :=
          (Text.takeWhile_append hwhole.isDigit fun c hc => (htail c hc).1).symm
      _ = (year ++ '-' :: rest).takeWhile Text.isDigit := by rw [hcs]
      _ = year := Text.takeWhile_append hyear fun c hc => by
        obtain rfl := Option.some.inj hc
        decide
  rw [hdigits] at hcs
  exact (htail '-' (by rw [List.append_cancel_left hcs]; rfl)).2 rfl

/-- Any other number is a text. -/
theorem classify_text (h : n.Written cs) (hnot : ¬ Number n cs) : classify (String.ofList cs) = .text := by
  obtain ⟨fraction, mark, rest, hwhole, hfraction, hmark, rfl, hbare⟩ := exists_bare_exponent h hnot
  have hpoint : fraction = [] ∨ ∃ digits, IsRun digits ∧ fraction = '.' :: digits := by
    generalize n.fraction = part at hfraction
    cases hfraction with
    | absent => exact .inl rfl
    | present hdigits => exact .inr ⟨_, hdigits, rfl⟩
  have hhead : ∀ c, (fraction ++ mark :: rest).head? = some c → c = '.' ∨ c = 'e' ∨ c = 'E' := by
    intro c hc
    rcases hpoint with rfl | ⟨digits, -, rfl⟩ <;> obtain rfl := Option.some.inj hc
    · exact .inr hmark
    · exact .inl rfl
  have hletter : ∀ c, (mark :: rest).head? = some c → isDigitOrLine c = false ∧ c ≠ '.' := by
    intro c hc
    obtain rfl := Option.some.inj hc
    rcases hmark with rfl | rfl <;> decide
  have hdecimal : isDecimal (n.sign ++ (n.whole ++ (fraction ++ mark :: rest))) = false := by
    rcases hpoint with rfl | ⟨digits, hdigits, rfl⟩
    · exact isDecimal_of_ne hwhole hletter
    · have hbare := hbare.resolve_left (by simp)
      rw [List.cons_append, isDecimal_point hwhole hdigits fun c hc => (hletter c hc).1, hbare]
  have hint : isInt (n.sign ++ (n.whole ++ (fraction ++ mark :: rest))) = false := by
    refine isInt_of_mark hwhole hmark (by simp) ?_ ?_
    · intro c hc
      rcases hhead c hc with rfl | rfl | rfl <;> decide
    · exact fun c hc => ne_of_mem_numeric (mem_numeric h c (by simp [hc])) (by decide)
  have hmoment : isMoment (n.sign ++ (n.whole ++ (fraction ++ mark :: rest))) = false := by
    refine isMoment_whole hwhole fun c hc => ?_
    rcases hhead c hc with rfl | rfl | rfl <;> decide
  rw [classify_written h, isFloat_written h, hdecimal, hint, hmoment]
  rfl

/-! ### The value of a number -/

/-- Neither blanks nor digits of other scripts are to be seen to. -/
theorem core_numeric (h : ∀ c ∈ cs, c ∈ numeric) : Text.Numeral.core cs = cs := by
  have hblank : ∀ c ∈ cs, Text.Numeral.isOuterBlank c = false := by
    have hnumeric : ∀ c ∈ numeric, Text.Numeral.isOuterBlank c = false :=
      List.all_iff_forall_prop.mp (by decide)
    exact fun c hc => hnumeric c (h c hc)
  have hdigits : Text.plainDigits cs = cs := by
    have hplain : ∀ c ∈ numeric, Text.plainDigits [c] = [c] := List.all_iff_forall_prop.mp (by decide)
    refine (List.map_congr_left fun c hc => ?_).trans (List.map_id cs)
    exact (List.cons.inj (hplain c (h c hc))).1
  have hdrop : ∀ ds : List Char, (∀ c ∈ ds, Text.Numeral.isOuterBlank c = false) →
      ds.dropWhile Text.Numeral.isOuterBlank = ds := by
    intro ds hds
    cases ds with
    | nil => rfl
    | cons c rest => exact List.dropWhile_cons_of_neg (by simp [hds c List.mem_cons_self])
  have htrim : Text.trim Text.Numeral.isOuterBlank cs = cs := by
    rw [Text.trim, hdrop cs hblank, hdrop _ fun c hc => hblank c (List.mem_reverse.mp hc), List.reverse_reverse]
  rw [Text.Numeral.core, htrim, hdigits]

theorem filter_numeric (h : ∀ c ∈ cs, c ∈ numeric) : cs.filter (· != '_') = cs :=
  List.filter_eq_self.mpr fun c hc => bne_iff_ne.mpr (ne_of_mem_numeric (h c hc) (by decide))

theorem digit?_of_isDigit {c : Char} (h : Text.isDigit c = true) :
    Text.Numeral.digit? 10 c = some (Text.digitValue c) := by
  have hnumeric : ∀ c ∈ numeric, Text.isDigit c = true → Text.digitValue c < 10 :=
    List.all_iff_forall_prop.mp (by decide)
  have hlt : Text.digitValue c < 10 := hnumeric c (mem_numeric_of_isDigit h) h
  simp [Text.Numeral.digit?, Text.hexValue?, h, hlt]

theorem digits?_of_isRun {digits : List Char} (h : IsRun digits) :
    Text.Numeral.digits? 10 digits = some (digits.map Text.digitValue) := by
  have hplain : ∀ c ∈ digits, decide (c = '_') = false :=
    fun c hc => by simpa using digit_ne (h.isDigit c hc) (by decide)
  have hmap : ∀ {ds : List Char}, (∀ c ∈ ds, Text.isDigit c = true) →
      ds.mapM (Text.Numeral.digit? 10) = some (ds.map Text.digitValue) := by
    intro ds hds
    induction ds with
    | nil => rfl
    | cons c rest ih =>
      obtain ⟨hc, hrest⟩ := List.forall_mem_cons.mp hds
      rw [List.mapM_cons, digit?_of_isDigit hc, ih hrest]
      rfl
  rw [Text.Numeral.digits?, Text.splitOn_of_forall hplain]
  simp [h.ne_nil, hmap h.isDigit]

/-- Digits are read as the number that they write. -/
theorem readBase_digits {digits : List Char} (h : IsRun digits) (hshort : digits.length ≤ Json.maxDigits) :
    readBase 10 digits = .ok (Text.digitsValue digits : Int) := by
  have hcore : Text.Numeral.core digits = digits :=
    core_numeric fun c hc => mem_numeric_of_isDigit (h.isDigit c hc)
  have hsign : Decimal.splitSign digits = (false, digits) := by
    rw [Decimal.splitSign.eq_def]
    split
    · exact absurd (h.isDigit '-' List.mem_cons_self) (by decide)
    · exact absurd (h.isDigit '+' List.mem_cons_self) (by decide)
    · rfl
  have hmark : Text.Numeral.dropMark 10 digits = digits := by
    rw [Text.Numeral.dropMark.eq_def]
    split
    · rfl
    · rfl
  have hrun : digits.takeWhile (fun c => (Text.Numeral.digit? 10 c).isSome || c = '_') = digits := by
    refine List.takeWhile_eq_self_iff.mpr fun c hc => ?_
    simp [digit?_of_isDigit (h.isDigit c hc)]
  have hcount : ¬ Text.Numeral.maxDigits < (digits.filter (· != '_')).length := by
    rw [filter_numeric fun c hc => mem_numeric_of_isDigit (h.isDigit c hc)]
    exact Nat.not_lt.mpr hshort
  rw [readBase, Text.Numeral.readInt, hcore, hsign]
  simp only [hmark, hrun, hcount, digits?_of_isRun h]
  simp [Text.digitsValue, List.foldl_map]

/-- The sign of a number, and what follows it. -/
theorem signed_whole (hwhole : IsWhole n.whole) (tail : List Char) :
    signed (n.sign ++ (n.whole ++ tail)) = .ok (n.negative, n.whole ++ tail) := by
  have hne : n.sign ++ (n.whole ++ tail) ≠ [] := by simp [hwhole.ne_nil]
  have hhead : decide ((n.sign ++ (n.whole ++ tail)).head? = some '-') = n.negative := by
    rw [Bool.eq_iff_iff, decide_eq_true_iff, Numeral.sign]
    split_ifs with hnegative
    · simp [hnegative]
    · refine iff_of_false (fun hminus => ?_) hnegative
      exact absurd (head?_whole_append hwhole tail '-' hminus) (by decide)
  rw [signed, if_neg (by simpa using hne), hhead, unsigned_whole hwhole]

theorem readInt_integer (h : n.IsInteger) (hwhole : IsWhole n.whole) (hshort : n.IsShort) :
    readInt (String.ofList (n.sign ++ n.whole))
      = .ok (if n.negative then -(Text.digitsValue n.whole : Int) else Text.digitsValue n.whole) := by
  have hwritten := (Number.integer h hwhole).written
  have hsigned : signed (n.sign ++ n.whole) = .ok (n.negative, n.whole) := by simpa using signed_whole hwhole []
  rw [readInt, String.toList_ofList, filter_numeric (mem_numeric hwritten), hsigned]
  dsimp only [bind, Except.bind]
  by_cases hzero : n.whole.head? = some '0'
  · rw [hwhole.zero hzero]
    rfl
  · have hcolon : ∀ c ∈ n.whole, decide (c = ':') = false :=
      fun c hc => by simpa using digit_ne (hwhole.isDigit c hc) (by decide)
    have hread : (Text.splitOn (· = ':') n.whole).mapM (readBase 10) = .ok [(Text.digitsValue n.whole : Int)] := by
      rw [Text.splitOn_of_forall hcolon, List.mapM_cons, readBase_digits hwhole.toIsRun (hshort h)]
      rfl
    split
    · next heq => exact absurd (by rw [heq]; rfl) hzero
    · next heq => exact absurd (by rw [heq]; rfl) hzero
    · next heq => exact absurd (by rw [heq]; rfl) hzero
    · next heq => exact absurd (by rw [heq]; rfl) hzero
    · next heq => exact absurd heq hwhole.ne_nil
    · rw [hread]
      simp [pure, Except.pure]

theorem lowered_numeric (h : ∀ c ∈ cs, c ∈ numeric) : Text.lowered cs = cs.map Char.toLower := by
  have hsmall : ∀ c ∈ numeric, c ≠ 'Σ' ∧ c ≠ 'İ' ∧ Text.lower c = c.toLower :=
    List.all_iff_forall_prop.mp (by decide)
  have hfrom : ∀ before, Text.loweredFrom before cs = cs.map Char.toLower := by
    induction cs with
    | nil => exact fun _ => rfl
    | cons c rest ih =>
      obtain ⟨hc, hrest⟩ := List.forall_mem_cons.mp h
      obtain ⟨hsigma, hdot, hlower⟩ := hsmall c hc
      intro before
      rw [Text.loweredFrom, ih hrest]
      simp [hsigma, hdot, hlower]
  exact hfrom false

theorem map_toLower_digits {digits : List Char} (h : ∀ c ∈ digits, Text.isDigit c = true) :
    digits.map Char.toLower = digits := by
  have hnumeric : ∀ c ∈ numeric, Text.isDigit c = true → c.toLower = c :=
    List.all_iff_forall_prop.mp (by decide)
  refine (List.map_congr_left fun c hc => ?_).trans (List.map_id digits)
  exact hnumeric c (mem_numeric_of_isDigit (h c hc)) (h c hc)

/-- In small letters an exponent is the same exponent. -/
theorem SignedExponent.lowered {exponent : Option (Bool × List Char)} {cs : List Char}
    (h : SignedExponent exponent cs) : SignedExponent exponent (cs.map Char.toLower) := by
  have hmarks : ∀ {mark : Char}, (mark = 'e' ∨ mark = 'E') → mark.toLower = 'e' := by
    rintro mark (rfl | rfl) <;> decide
  cases h with
  | absent => exact .absent
  | minus hmark hdigits =>
    rw [List.map_cons, List.map_cons, hmarks hmark, map_toLower_digits hdigits.isDigit]
    exact .minus (.inl rfl) hdigits
  | plus hmark hdigits =>
    rw [List.map_cons, List.map_cons, hmarks hmark, map_toLower_digits hdigits.isDigit]
    exact .plus (.inl rfl) hdigits

/-- The double that digits, a fraction and an exponent write. -/
theorem ofUnsigned?_decimal {digits exponent : List Char} (hwhole : IsWhole n.whole) (hdigits : IsRun digits)
    (hexponent : SignedExponent n.exponent exponent) :
    Decimal.ofUnsigned? false (n.whole ++ '.' :: (digits ++ exponent))
      = some (Decimal.ofDecimal false (Text.digitsValue (n.whole ++ digits)) (n.power - digits.length)) := by
  have hpoint : ∀ c, ('.' :: (digits ++ exponent)).head? = some c → Text.isDigit c = false := by
    intro c hc
    obtain rfl := Option.some.inj hc
    decide
  have hletter : ∀ c, exponent.head? = some c → Text.isDigit c = false := by
    intro c hc
    rcases hexponent.head c hc with rfl | rfl <;> decide
  rw [Decimal.ofUnsigned?, Text.takeWhile_append hwhole.isDigit hpoint, List.drop_left]
  simp only [Text.takeWhile_append hdigits.isDigit hletter, Text.dropWhile_append hdigits.isDigit hletter]
  have hne : n.whole.isEmpty = false := by simp [hwhole.ne_nil]
  rw [Numeral.power]
  generalize n.exponent = given at hexponent
  cases hexponent with
  | absent => simp [hne]
  | minus hmark hrun =>
    have hall := List.all_eq_true.mpr hrun.isDigit
    rcases hmark with rfl | rfl <;> simp [hne, Decimal.splitSign, hrun.ne_nil, hall]
  | plus hmark hrun =>
    have hall := List.all_eq_true.mpr hrun.isDigit
    rcases hmark with rfl | rfl <;> simp [hne, Decimal.splitSign, hrun.ne_nil, hall]

theorem ungroup?_numeric (h : ∀ c ∈ cs, c ∈ numeric) (afterDigit : Bool) :
    Decimal.ungroup? afterDigit cs = some cs := by
  induction cs generalizing afterDigit with
  | nil => rfl
  | cons c rest ih =>
    obtain ⟨hc, hrest⟩ := List.forall_mem_cons.mp h
    have hne : c ≠ '_' := ne_of_mem_numeric hc (by decide)
    rw [Decimal.ungroup?.eq_def]
    split
    · next heq => simp at heq
    · next heq => exact absurd (List.cons.inj heq).1 hne
    · next heq =>
      obtain ⟨rfl, rfl⟩ := List.cons.inj heq
      rw [if_neg hne, ih hrest]
      rfl

theorem readDecimal_decimal {digits exponent : List Char} (hwhole : IsWhole n.whole) (hdigits : IsRun digits)
    (hexponent : SignedExponent n.exponent exponent)
    (hnumeric : ∀ c ∈ n.whole ++ '.' :: (digits ++ exponent), c ∈ numeric) :
    readDecimal (n.whole ++ '.' :: (digits ++ exponent))
      = .ok (Decimal.ofDecimal false (Text.digitsValue (n.whole ++ digits)) (n.power - digits.length)) := by
  obtain ⟨d, more, hd⟩ := List.exists_cons_of_ne_nil hwhole.ne_nil
  have hdigit : Text.isDigit d = true := hwhole.isDigit d (by simp [hd])
  have hsign : Decimal.splitSign (n.whole ++ '.' :: (digits ++ exponent))
      = (false, n.whole ++ '.' :: (digits ++ exponent)) := by
    rw [Decimal.splitSign.eq_def, hd]
    split
    · next heq => exact absurd (List.cons.inj heq).1 (digit_ne hdigit (by decide))
    · next heq => exact absurd (List.cons.inj heq).1 (digit_ne hdigit (by decide))
    · rfl
  have hword : ∀ word ∈ ["inf", "infinity", "nan"],
      String.ofList (Text.lowerAscii (n.whole ++ '.' :: (digits ++ exponent))) ≠ word := by
    have hheads : ∀ word ∈ ["inf", "infinity", "nan"], word.toList.head?.any Text.isDigit = false := by decide
    rintro word hword rfl
    have hsmall : d.toLower = d := by
      simpa using map_toLower_digits (by simpa using hdigit : ∀ c ∈ [d], Text.isDigit c = true)
    have hhead := hheads _ hword
    simp [Text.lowerAscii, hd, hsmall, hdigit] at hhead
  simp only [List.forall_mem_cons] at hword
  rw [readDecimal, Text.Numeral.readFloat?, core_numeric hnumeric, ungroup?_numeric hnumeric, Option.bind_some,
    Decimal.ofText?, hsign]
  simp [hword, ofUnsigned?_decimal hwhole hdigits hexponent]

/-- A number with a fraction is read as the nearest double. -/
theorem readFloat_decimal {digits exponent : List Char} (hwhole : IsWhole n.whole) (hfraction : n.fraction = some digits)
    (hdigits : IsRun digits) (hexponent : SignedExponent n.exponent exponent) :
    readFloat (String.ofList (n.sign ++ (n.whole ++ '.' :: (digits ++ exponent))))
      = .ok (Decimal.ofDecimal n.negative (Text.digitsValue (n.whole ++ digits)) (n.power - digits.length)) := by
  have hsmall := hexponent.lowered
  have hnumeric := mem_numeric (Number.decimal hwhole hfraction hdigits hsmall).written
  have hlowered : Text.lowered (n.sign ++ (n.whole ++ '.' :: (digits ++ exponent)))
      = n.sign ++ (n.whole ++ '.' :: (digits ++ exponent.map Char.toLower)) := by
    have hsign : n.sign.map Char.toLower = n.sign := by
      rw [Numeral.sign]
      split <;> rfl
    rw [lowered_numeric (mem_numeric (Number.decimal hwhole hfraction hdigits hexponent).written)]
    simp only [List.map_append, List.map_cons, hsign, map_toLower_digits hwhole.isDigit,
      map_toLower_digits hdigits.isDigit]
    rfl
  generalize exponent.map Char.toLower = small at hsmall hnumeric hlowered
  have hbody : ∀ c ∈ n.whole ++ '.' :: (digits ++ small), c ∈ numeric :=
    fun c hc => hnumeric c (List.mem_append_right _ hc)
  have hcolon : ':' ∉ n.whole ++ '.' :: (digits ++ small) := fun hc => absurd (hbody ':' hc) (by decide)
  have hword : ∀ word : List Char, word.head? = some '.' → n.whole ++ '.' :: (digits ++ small) ≠ word := by
    rintro word hhead rfl
    exact absurd (head?_whole_append hwhole _ '.' hhead) (by decide)
  rw [readFloat, String.toList_ofList, hlowered, filter_numeric hnumeric, signed_whole hwhole]
  dsimp only [bind, Except.bind]
  rw [if_neg (hword _ rfl), if_neg (hword _ rfl), if_neg hcolon, readDecimal_decimal hwhole hdigits hsmall hbody]
  cases n.negative with
  | false => rfl
  | true => exact congrArg Except.ok (Decimal.neg_ofDecimal _ _)

end

/-! ### What plain scalars stand for -/

/-- The value of a scalar of a form, for the forms that both notations have. -/
inductive Form.Means : Form → String → Value → Prop where
  | null {s : String} : Means .null s .null
  | bool {s : String} {b : Bool} (h : readBool s = .ok b) : Means .bool s (.bool b)
  | int {s : String} {i : Int} (h : readInt s = .ok i) : Means .int s (.int i)
  | float {s : String} {x : Float} (h : readFloat s = .ok x) : Means .float s (.float x)
  | text {s : String} : Means .text s (.str s)

/-- A number that both notations know has the same value in both. -/
theorem Number.means {n : Numeral} {cs : List Char} {v : Value} (h : Number n cs) (hv : n.Means v) (hshort : n.IsShort) :
    (classify (String.ofList cs)).Means (String.ofList cs) v := by
  cases h with
  | integer hinteger hwhole =>
    cases hv with
    | integer _ =>
      rw [classify_integer hinteger hwhole]
      exact .int (readInt_integer hinteger hwhole hshort)
    | decimal hnot => exact absurd hinteger hnot
  | decimal hwhole hfraction hdigits hexponent =>
    cases hv with
    | integer hinteger => exact absurd hinteger.1 (by simp [hfraction])
    | decimal _ =>
      rw [classify_decimal hwhole hfraction hdigits hexponent, hfraction]
      exact .float (readFloat_decimal hwhole hfraction hdigits hexponent)

/-- A number has the value that JSON gives it exactly when both notations know how it is written; any other is a text. -/
theorem number_means_iff {n : Numeral} {cs : List Char} {v : Value} (h : n.Written cs) (hv : n.Means v) (hshort : n.IsShort) :
    (classify (String.ofList cs)).Means (String.ofList cs) v ↔ Number n cs := by
  refine ⟨fun hmeans => ?_, fun hn => hn.means hv hshort⟩
  by_contra hnot
  rw [classify_text h hnot] at hmeans
  cases hmeans
  cases hv

end Switchboard.Yaml
