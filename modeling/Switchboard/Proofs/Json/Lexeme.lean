import Switchboard.Json.Reader
import Switchboard.Proofs.Outcome
import Switchboard.Proofs.Template.Piece

/-!
What stands between the brackets of a JSON text: blanks, strings, numbers and words.

* `IsGap`, `StringBody`, `Numeral.Written` — how blanks, the inside of a string and a number are written, and
  `Numeral.Means` for the value of a number;
* `skip_append`, `exists_gap` — blanks are passed over;
* `readString_written`, `readString_sound` — a string is read up to its closing quote exactly as it is written;
* `readNumeral?_written`, `readNumeral?_sound` — so is a number, up to what cannot belong to it;
* `readScalar_literal`, `readScalar_numeral`, `readScalar_sound` — and the words and numbers together.

Two escapes of a string can stand for one character, the two halves of a pair. `StringBody` therefore looks ahead:
a first half stands for itself only when no second half follows it.
-/
namespace Switchboard.Json

open Template (IsRun)

/-! ### Blanks -/

/-- A text of nothing but blanks. -/
def IsGap (cs : List Char) : Prop := ∀ c ∈ cs, isSpace c = true

theorem isGap_nil : IsGap [] := by simp [IsGap]

/-- Blanks in front of something else are passed over. -/
theorem skip_append {gap cs : List Char} (hgap : IsGap gap) (hcs : ∀ c, cs.head? = some c → isSpace c = false) :
    skip (gap ++ cs) = cs :=
  Text.dropWhile_append hgap hcs

theorem skip_append_cons {gap rest : List Char} {c : Char} (hgap : IsGap gap) (hc : isSpace c = false) :
    skip (gap ++ c :: rest) = c :: rest :=
  skip_append hgap fun _ hd => Option.some.inj hd ▸ hc

/-- What is passed over is blank. -/
theorem exists_gap (cs : List Char) : ∃ gap, IsGap gap ∧ cs = gap ++ skip cs :=
  ⟨cs.takeWhile isSpace, fun _ hc => List.mem_takeWhile_imp hc, List.takeWhile_append_dropWhile.symm⟩

/-! ### Strings -/

/-- A text begins with an escape for the second half of a pair. -/
def StartsLow (cs : List Char) : Prop :=
  ∃ w x y z low rest, cs = '\\' :: 'u' :: w :: x :: y :: z :: rest ∧ unit? w x y z = some low ∧ isLow low = true

/-- The inside of a string as it is written, and the characters that it stands for. -/
inductive StringBody : List Char → List Char → Prop where
  | nil : StringBody [] []
  | plain {c : Char} {cs s : List Char} (hquote : c ≠ '"') (hback : c ≠ '\\') (hcontrol : 0x20 ≤ c.toNat)
      (h : StringBody cs s) : StringBody (c :: cs) (c :: s)
  | short {c d : Char} {cs s : List Char} (hc : simpleEscape? c = some d) (h : StringBody cs s) :
      StringBody ('\\' :: c :: cs) (d :: s)
  | unit {a b c d : Char} {n : Nat} {cs s : List Char} (hn : unit? a b c d = some n)
      (halone : isHigh n = true → ¬ StartsLow cs) (h : StringBody cs s) :
      StringBody ('\\' :: 'u' :: a :: b :: c :: d :: cs) (unitChar n :: s)
  | pair {a b c d w x y z : Char} {high low : Nat} {cs s : List Char} (hhigh : unit? a b c d = some high)
      (hisHigh : isHigh high = true) (hlow : unit? w x y z = some low) (hisLow : isLow low = true)
      (h : StringBody cs s) :
      StringBody ('\\' :: 'u' :: a :: b :: c :: d :: '\\' :: 'u' :: w :: x :: y :: z :: cs) (pairChar high low :: s)

section
variable {opening : Nat} {cs rest : List Char} {read : List Char × List Char}

theorem readString_plain {c : Char} (hquote : c ≠ '"') (hback : c ≠ '\\') (hcontrol : 0x20 ≤ c.toNat) :
    readString opening (c :: cs) = (readString opening cs).map (push c) := by
  have hprintable : ¬ c.toNat < 32 := by omega
  rw [readString.eq_8 opening c cs hquote (fun h => absurd h hback) (fun _ _ _ _ _ _ _ _ _ _ h => absurd h hback)
    (fun _ _ _ _ _ _ h => absurd h hback) (fun _ h => absurd h hback) (fun _ _ h => absurd h hback),
    if_neg hprintable]

theorem readString_short {c d : Char} (hc : simpleEscape? c = some d) :
    readString opening ('\\' :: c :: cs) = (readString opening cs).map (push d) := by
  have hu : c ≠ 'u' := by
    rintro rfl
    simp [simpleEscape?] at hc
  rw [readString.eq_7 opening c cs (fun _ _ _ _ _ _ _ _ _ _ h => absurd h hu) (fun _ _ _ _ _ _ h => absurd h hu) hu,
    hc]

/-- An escape with something behind it that is not read up to the end of the string. -/
theorem readString_no_unit {w x y z e : Char} (hnone : unit? w x y z = none) :
    ∃ error, readString opening ('\\' :: 'u' :: w :: x :: y :: z :: e :: rest) = .error error := by
  by_cases hmore : ∃ a b c d f more, e = '\\' ∧ rest = 'u' :: a :: b :: c :: d :: f :: more
  · obtain ⟨a, b, c, d, f, more, rfl, rfl⟩ := hmore
    rw [readString.eq_4, hnone]
    exact ⟨_, rfl⟩
  · rw [readString.eq_5 opening w x y z e rest fun a b c d f more he hrest =>
      hmore ⟨a, b, c, d, f, more, he, hrest⟩, hnone]
    exact ⟨_, rfl⟩

/-- An escape stands for its unit, unless it is the first half of a pair and the second follows. -/
theorem readString_unit {a b c d : Char} {n : Nat} (hn : unit? a b c d = some n)
    (halone : isHigh n = true → ¬ StartsLow cs) (h : readString opening cs = .ok read) :
    readString opening ('\\' :: 'u' :: a :: b :: c :: d :: cs) = .ok (push (unitChar n) read) := by
  by_cases hmore : ∃ w x y z e rest, cs = '\\' :: 'u' :: w :: x :: y :: z :: e :: rest
  · obtain ⟨w, x, y, z, e, rest, rfl⟩ := hmore
    cases hlow : unit? w x y z with
    | none =>
      obtain ⟨error, herror⟩ := @readString_no_unit opening rest _ _ _ _ e hlow
      simp [herror] at h
    | some low =>
      rw [readString.eq_4, hn, hlow]
      dsimp only
      split
      · next hhigh =>
        -- a first half without its second one
        have hnot : ¬ isLow low = true := fun hisLow => halone hhigh ⟨w, x, y, z, low, e :: rest, rfl, hlow, hisLow⟩
        have hchar : unitChar n = replacement := by simp [unitChar, hhigh]
        rw [if_neg hnot, h, hchar]
        rfl
      · rw [h]
        rfl
  · cases cs with
    | nil => simp [readString] at h
    | cons e rest =>
      rw [readString.eq_5 opening a b c d e rest fun w x y z f more he hrest =>
        hmore ⟨w, x, y, z, f, more, by rw [he, hrest]⟩, hn]
      dsimp only
      rw [h]
      rfl

/-- Two escapes stand for one character when they are the halves of a pair. -/
theorem readString_pair {a b c d w x y z : Char} {high low : Nat} (hhigh : unit? a b c d = some high)
    (hisHigh : isHigh high = true) (hlow : unit? w x y z = some low) (hisLow : isLow low = true)
    (h : readString opening cs = .ok read) :
    readString opening ('\\' :: 'u' :: a :: b :: c :: d :: '\\' :: 'u' :: w :: x :: y :: z :: cs)
      = .ok (push (pairChar high low) read) := by
  cases cs with
  | nil => simp [readString] at h
  | cons e rest =>
    rw [readString.eq_4, hhigh, hlow]
    dsimp only
    rw [if_pos hisHigh, if_pos hisLow, h]
    rfl

end

/-- A closing quote does not belong to an escape. -/
theorem StringBody.startsLow {cs s rest : List Char} (hbody : StringBody cs s) (h : StartsLow (cs ++ '"' :: rest)) :
    StartsLow cs := by
  obtain ⟨w, x, y, z, low, more, hsplit, hlow, hisLow⟩ := h
  cases hbody with
  | nil => simp at hsplit
  | plain _ hback _ _ => exact absurd (List.cons.inj hsplit).1 hback
  | short hc _ =>
    obtain ⟨-, hsplit⟩ := List.cons.inj hsplit
    obtain ⟨rfl, -⟩ := List.cons.inj hsplit
    simp [simpleEscape?] at hc
  | unit _ _ _ | pair _ _ _ _ _ =>
    simp only [List.cons_append, List.cons.injEq, true_and] at hsplit
    obtain ⟨rfl, rfl, rfl, rfl, -⟩ := hsplit
    exact ⟨_, _, _, _, low, _, rfl, hlow, hisLow⟩

theorem StartsLow.append {cs : List Char} (h : StartsLow cs) (rest : List Char) : StartsLow (cs ++ rest) := by
  obtain ⟨w, x, y, z, low, more, rfl, hlow⟩ := h
  exact ⟨w, x, y, z, low, more ++ rest, rfl, hlow⟩

/-- A string is read up to its closing quote. -/
theorem readString_written {cs s : List Char} (h : StringBody cs s) (opening : Nat) (rest : List Char) :
    readString opening (cs ++ '"' :: rest) = .ok (s, rest) := by
  induction h with
  | nil => simp [readString]
  | plain hquote hback hcontrol _ ih =>
    rw [List.cons_append, readString_plain hquote hback hcontrol, ih]
    rfl
  | short hc _ ih =>
    rw [List.cons_append, List.cons_append, readString_short hc, ih]
    rfl
  | unit hn halone hcs ih =>
    exact readString_unit hn (fun hhigh hlow => halone hhigh (hcs.startsLow hlow)) ih
  | pair hhigh hisHigh hlow hisLow _ ih => exact readString_pair hhigh hisHigh hlow hisLow ih

theorem map_push_eq_ok {c : Char} {read : Except ReadError (List Char × List Char)} {s rest : List Char} :
    read.map (push c) = .ok (s, rest) ↔ ∃ s', read = .ok (s', rest) ∧ c :: s' = s := by
  rw [map_eq_ok]
  constructor
  · rintro ⟨⟨s', rest'⟩, hread, hpair⟩
    obtain ⟨rfl, rfl⟩ := Prod.mk.inj hpair
    exact ⟨s', hread, rfl⟩
  · rintro ⟨s', hread, rfl⟩
    exact ⟨_, hread, rfl⟩

/-- What is read of a string is written there, with a quote behind it. -/
theorem readString_sound {opening : Nat} {cs s rest : List Char} (h : readString opening cs = .ok (s, rest)) :
    ∃ body, StringBody body s ∧ cs = body ++ '"' :: rest := by
  fun_induction readString opening cs generalizing s rest with
  | case2 cs =>
    obtain ⟨rfl, rfl⟩ := Prod.mk.inj (Except.ok.inj h)
    exact ⟨[], .nil, rfl⟩
  | case6 a b c d w x y z e cs high hhigh hisHigh low hisLow hlow ih =>
    obtain ⟨s, hs, rfl⟩ := map_push_eq_ok.mp h
    obtain ⟨body, hbody, hcs⟩ := ih hs
    exact ⟨_, .pair hhigh hisHigh hlow hisLow hbody, by rw [hcs]; rfl⟩
  | case7 a b c d w x y z e cs high hhigh hisHigh low hisLow hlow ih =>
    obtain ⟨s, hs, rfl⟩ := map_push_eq_ok.mp h
    obtain ⟨body, hbody, hcs⟩ := ih hs
    have hchar : unitChar high = replacement := by simp [unitChar, hisHigh]
    have halone : ¬ StartsLow body := by
      intro hstarts
      obtain ⟨_, _, _, _, low', _, hsplit, hlow', hisLow'⟩ := hcs ▸ hstarts.append ('"' :: rest)
      simp only [List.cons.injEq, true_and] at hsplit
      obtain ⟨rfl, rfl, rfl, rfl, -⟩ := hsplit
      rw [hlow] at hlow'
      exact hisLow (Option.some.inj hlow' ▸ hisLow')
    rw [← hchar]
    exact ⟨_, .unit hhigh (fun _ => halone) hbody, by rw [hcs]; rfl⟩
  | case8 a b c d w x y z e cs n hn hnotHigh ih =>
    obtain ⟨s, hs, rfl⟩ := map_push_eq_ok.mp h
    obtain ⟨body, hbody, hcs⟩ := ih hs
    exact ⟨_, .unit hn (fun hhigh => absurd hhigh hnotHigh) hbody, by rw [hcs]; rfl⟩
  | case10 a b c d e cs hlast n hn ih =>
    obtain ⟨s, hs, rfl⟩ := map_push_eq_ok.mp h
    obtain ⟨body, hbody, hcs⟩ := ih hs
    refine ⟨_, .unit hn (fun _ hstarts => ?_) hbody, by rw [hcs]; rfl⟩
    -- there is no room for another escape in front of the quote
    obtain ⟨w, x, y, z, low, more, rfl, -⟩ := hstarts
    obtain ⟨rfl, rfl⟩ := List.cons.inj hcs
    cases more with
    | nil => exact hlast w x y z '"' rest rfl rfl
    | cons f more => exact hlast w x y z f (more ++ '"' :: rest) rfl rfl
  | case13 c cs _ _ _ d hd ih =>
    obtain ⟨s, hs, rfl⟩ := map_push_eq_ok.mp h
    obtain ⟨body, hbody, rfl⟩ := ih hs
    exact ⟨_, .short hd hbody, rfl⟩
  | case15 c cs hquote hback _ _ _ hescape hcontrol ih =>
    obtain ⟨s, hs, rfl⟩ := map_push_eq_ok.mp h
    obtain ⟨body, hbody, rfl⟩ := ih hs
    have hnot : c ≠ '\\' := by
      intro hc
      cases hrest : body ++ '"' :: rest with
      | nil => exact hback hc hrest
      | cons d more => exact hescape d more hc hrest
    exact ⟨_, .plain hquote hnot (Nat.not_lt.mp hcontrol) hbody, rfl⟩
  | case1 | case3 | case4 | case5 | case9 | case11 | case12 | case14 => simp at h

/-! ### Numbers -/

/-- How the fraction of a number is written. -/
inductive FractionText : Option (List Char) → List Char → Prop where
  | absent : FractionText none []
  | present {digits : List Char} (h : IsRun digits) : FractionText (some digits) ('.' :: digits)

/-- How the sign of an exponent is written. -/
inductive SignText : Bool → List Char → Prop where
  | minus : SignText true ['-']
  | plus : SignText false ['+']
  | absent : SignText false []

/-- How the exponent of a number is written. -/
inductive ExponentText : Option (Bool × List Char) → List Char → Prop where
  | absent : ExponentText none []
  | present {mark : Char} {negative : Bool} {sign digits : List Char} (hmark : mark = 'e' ∨ mark = 'E')
      (hsign : SignText negative sign) (h : IsRun digits) :
      ExponentText (some (negative, digits)) (mark :: (sign ++ digits))

/-- The integer part of a number: digits, of which the first is zero only when it is the only one. -/
structure IsWhole (digits : List Char) : Prop extends IsRun digits where
  zero : digits.head? = some '0' → digits = ['0']

namespace Numeral

/-- The sign of a number as it is written. -/
def sign (n : Numeral) : List Char := if n.negative then ['-'] else []

/-- How a number is written. -/
inductive Written (n : Numeral) : List Char → Prop where
  | mk {fraction exponent : List Char} (hwhole : IsWhole n.whole) (hfraction : FractionText n.fraction fraction)
      (hexponent : ExponentText n.exponent exponent) : Written n (n.sign ++ n.whole ++ fraction ++ exponent)

/-- A number without fraction and exponent. -/
def IsInteger (n : Numeral) : Prop := n.fraction = none ∧ n.exponent = none

/-- The power of ten that an exponent stands for. -/
def power (n : Numeral) : Int :=
  match n.exponent with
  | none => 0
  | some (negative, digits) => if negative then -(Text.digitsValue digits : Int) else Text.digitsValue digits

/-- The value of a number: an integer, or the double nearest to what its digits write, moved by the power. -/
inductive Means (n : Numeral) : Value → Prop where
  | integer (h : n.IsInteger) :
      Means n (.int (if n.negative then -(Text.digitsValue n.whole : Int) else Text.digitsValue n.whole))
  | decimal (h : ¬ n.IsInteger) :
      Means n (.float (Decimal.ofDecimal n.negative (Text.digitsValue (n.whole ++ n.fraction.getD []))
        (n.power - (n.fraction.getD []).length)))

/-- An integer that is not too long to be read, or a number with fraction or exponent. -/
def IsShort (n : Numeral) : Prop := n.IsInteger → n.whole.length ≤ maxDigits

theorem value_of_isInteger {n : Numeral} (h : n.IsInteger) :
    n.value = if maxDigits < n.whole.length then .error (.tooManyDigits n.whole.length)
      else .ok (.int (if n.negative then -(Text.digitsValue n.whole : Int) else Text.digitsValue n.whole)) := by
  obtain ⟨negative, whole, fraction, exponent⟩ := n
  obtain ⟨rfl, rfl⟩ := h
  rfl

theorem value_of_not_isInteger {n : Numeral} (h : ¬ n.IsInteger) :
    n.value = .ok (.float (Decimal.ofDecimal n.negative (Text.digitsValue (n.whole ++ n.fraction.getD []))
      (n.power - (n.fraction.getD []).length))) := by
  obtain ⟨negative, whole, fraction, exponent⟩ := n
  cases fraction with
  | none =>
    cases exponent with
    | none => exact absurd ⟨rfl, rfl⟩ h
    | some exponent => rfl
  | some fraction => rfl

/-- A number has its value unless it is an integer that is too long. -/
theorem value_eq_ok {n : Numeral} {v : Value} : n.value = .ok v ↔ n.Means v ∧ n.IsShort := by
  by_cases hinteger : n.IsInteger
  · rw [value_of_isInteger hinteger]
    constructor
    · intro h
      split at h
      · simp at h
      · next hshort =>
        obtain rfl := Except.ok.inj h
        exact ⟨.integer hinteger, fun _ => Nat.not_lt.mp hshort⟩
    · rintro ⟨hmeans, hshort⟩
      rw [if_neg (Nat.not_lt.mpr (hshort hinteger))]
      cases hmeans with
      | integer _ => rfl
      | decimal h => exact absurd hinteger h
  · rw [value_of_not_isInteger hinteger]
    constructor
    · intro h
      obtain rfl := Except.ok.inj h
      exact ⟨.decimal hinteger, fun h => absurd h hinteger⟩
    · rintro ⟨hmeans, -⟩
      cases hmeans with
      | integer h => exact absurd h hinteger
      | decimal _ => rfl

theorem value_eq_error {n : Numeral} {e : ReadError} (h : n.value = .error e) :
    e = .tooManyDigits n.whole.length ∧ maxDigits < n.whole.length := by
  by_cases hinteger : n.IsInteger
  · rw [value_of_isInteger hinteger] at h
    split at h
    · next hlong => exact ⟨(Except.error.inj h).symm, hlong⟩
    · simp at h
  · simp [value_of_not_isInteger hinteger] at h

end Numeral

/-- A digit is no letter, no sign and no point. -/
theorem digit_ne {c d : Char} (hc : Text.isDigit c = true) (hd : Text.isDigit d = false) : c ≠ d := by
  rintro rfl
  simp [hc] at hd

/-- Digits up to something else. -/
theorem readFraction_written {fraction : Option (List Char)} {cs rest : List Char} (h : FractionText fraction cs)
    (hrest : ∀ c, rest.head? = some c → Text.isDigit c = false ∧ c ≠ '.') :
    readFraction (cs ++ rest) = (fraction, rest) := by
  have hdigit : ∀ c, rest.head? = some c → Text.isDigit c = false := fun c hc => (hrest c hc).1
  cases h with
  | absent =>
    cases rest with
    | nil => rfl
    | cons c rest =>
      rw [List.nil_append, readFraction.eq_def]
      split
      · next heq => exact absurd (List.cons.inj heq).1 (hrest c rfl).2
      · rfl
  | @present digits hdigits =>
    rw [List.cons_append, readFraction]
    simp only [Text.takeWhile_append hdigits.isDigit hdigit, Text.dropWhile_append hdigits.isDigit hdigit]
    simp [hdigits.ne_nil]

/-- What is cut off as digits is a run of them unless there is none. -/
theorem isRun_takeWhile {cs : List Char} (h : ¬ (cs.takeWhile Text.isDigit).isEmpty = true) :
    IsRun (cs.takeWhile Text.isDigit) :=
  ⟨by simpa using h, fun _ hc => List.mem_takeWhile_imp hc⟩

theorem readFraction_sound {cs rest : List Char} {fraction : Option (List Char)}
    (h : readFraction cs = (fraction, rest)) : ∃ text, FractionText fraction text ∧ cs = text ++ rest := by
  rw [readFraction.eq_def] at h
  split at h
  · next digits =>
    dsimp only at h
    split at h
    · obtain ⟨rfl, rfl⟩ := Prod.mk.inj h
      exact ⟨[], .absent, rfl⟩
    · next hne =>
      obtain ⟨rfl, rfl⟩ := Prod.mk.inj h
      exact ⟨_, .present (isRun_takeWhile hne), by simp⟩
  · obtain ⟨rfl, rfl⟩ := Prod.mk.inj h
    exact ⟨[], .absent, rfl⟩

theorem readSign_written {negative : Bool} {sign rest : List Char} (h : SignText negative sign)
    (hrest : ∀ c, rest.head? = some c → c ≠ '-' ∧ c ≠ '+') : readSign (sign ++ rest) = (negative, rest) := by
  cases h with
  | minus | plus => rfl
  | absent =>
    rw [List.nil_append, readSign.eq_def]
    split
    · exact absurd rfl (hrest _ rfl).1
    · exact absurd rfl (hrest _ rfl).2
    · rfl

theorem readSign_sound {negative : Bool} {cs rest : List Char} (h : readSign cs = (negative, rest)) :
    ∃ sign, SignText negative sign ∧ cs = sign ++ rest := by
  rw [readSign.eq_def] at h
  split at h <;> obtain ⟨rfl, rfl⟩ := Prod.mk.inj h
  · exact ⟨_, .minus, rfl⟩
  · exact ⟨_, .plus, rfl⟩
  · exact ⟨_, .absent, rfl⟩

theorem readExponent_written {exponent : Option (Bool × List Char)} {cs rest : List Char}
    (h : ExponentText exponent cs) (hrest : ∀ c, rest.head? = some c → Text.isDigit c = false ∧ c ≠ 'e' ∧ c ≠ 'E') :
    readExponent (cs ++ rest) = (exponent, rest) := by
  have hdigit : ∀ c, rest.head? = some c → Text.isDigit c = false := fun c hc => (hrest c hc).1
  cases h with
  | absent =>
    cases rest with
    | nil => rfl
    | cons c rest =>
      obtain ⟨-, hsmall, hlarge⟩ := hrest c rfl
      simp [readExponent, hsmall, hlarge]
  | @present mark negative sign digits hmark hsign hdigits =>
    have hstart : ∀ c, (digits ++ rest).head? = some c → c ≠ '-' ∧ c ≠ '+' := by
      intro c hc
      obtain ⟨d, more, rfl⟩ := List.exists_cons_of_ne_nil hdigits.ne_nil
      obtain rfl := Option.some.inj hc
      have hd := hdigits.isDigit d List.mem_cons_self
      exact ⟨digit_ne hd (by decide), digit_ne hd (by decide)⟩
    have hmark' : (decide (mark = 'e') || decide (mark = 'E')) = true := by simpa using hmark
    rw [List.cons_append, List.append_assoc, readExponent, if_pos hmark', readSign_written hsign hstart]
    simp only [Text.takeWhile_append hdigits.isDigit hdigit, Text.dropWhile_append hdigits.isDigit hdigit]
    simp [hdigits.ne_nil]

theorem readExponent_sound {cs rest : List Char} {exponent : Option (Bool × List Char)}
    (h : readExponent cs = (exponent, rest)) : ∃ text, ExponentText exponent text ∧ cs = text ++ rest := by
  cases cs with
  | nil =>
    obtain ⟨rfl, rfl⟩ := Prod.mk.inj h
    exact ⟨[], .absent, rfl⟩
  | cons c cs =>
    rw [readExponent] at h
    split at h
    · next hmark =>
      have hsigned : readSign cs = ((readSign cs).1, (readSign cs).2) := rfl
      obtain ⟨sign, hsign, hcs⟩ := readSign_sound hsigned
      dsimp only at h
      split at h
      · obtain ⟨rfl, rfl⟩ := Prod.mk.inj h
        exact ⟨[], .absent, rfl⟩
      · next hne =>
        obtain ⟨rfl, rfl⟩ := Prod.mk.inj h
        refine ⟨_, .present (by simpa using hmark) hsign (isRun_takeWhile hne), ?_⟩
        rw [List.cons_append, List.append_assoc, List.takeWhile_append_dropWhile, ← hcs]
    · obtain ⟨rfl, rfl⟩ := Prod.mk.inj h
      exact ⟨[], .absent, rfl⟩

/-- The integer part at the start of a text: a zero alone, or all digits. -/
def readWhole (cs : List Char) : List Char :=
  match cs with
  | '0' :: _ => ['0']
  | _ => cs.takeWhile Text.isDigit

/-- The number at the start of a text whose sign has been read. -/
def readMagnitude (negative : Bool) (cs : List Char) : Option (Numeral × List Char) :=
  let fraction := readFraction (cs.drop (readWhole cs).length)
  let exponent := readExponent fraction.2
  if (readWhole cs).isEmpty then none
  else some (⟨negative, readWhole cs, fraction.1, exponent.1⟩, exponent.2)

theorem readNumeral?_minus (cs : List Char) : readNumeral? ('-' :: cs) = readMagnitude true cs := rfl

theorem readNumeral?_of_ne {cs : List Char} (h : ∀ c, cs.head? = some c → c ≠ '-') :
    readNumeral? cs = readMagnitude false cs := by
  rw [readNumeral?.eq_def]
  split
  next negative body hsign =>
  split at hsign
  · exact absurd rfl (h _ rfl)
  · obtain ⟨rfl, rfl⟩ := Prod.mk.inj hsign
    rfl

theorem readWhole_written {digits rest : List Char} (h : IsWhole digits)
    (hrest : ∀ c, rest.head? = some c → Text.isDigit c = false) : readWhole (digits ++ rest) = digits := by
  rw [readWhole.eq_def]
  split
  · next more heq =>
    obtain ⟨d, others, rfl⟩ := List.exists_cons_of_ne_nil h.ne_nil
    obtain ⟨rfl, -⟩ := List.cons.inj heq
    exact (h.zero rfl).symm
  · exact Text.takeWhile_append h.isDigit hrest

theorem readWhole_sound {cs : List Char} (h : ¬ (readWhole cs).isEmpty = true) :
    IsWhole (readWhole cs) ∧ cs = readWhole cs ++ cs.drop (readWhole cs).length := by
  rw [readWhole.eq_def] at h ⊢
  split at h
  · exact ⟨⟨⟨by simp, by simp [Text.isDigit]⟩, fun _ => rfl⟩, rfl⟩
  · next hzero =>
    refine ⟨⟨isRun_takeWhile h, fun hhead => ?_⟩, ?_⟩
    · cases cs with
      | nil => simp at hhead
      | cons c more =>
        have hc : Text.isDigit c = true := by
          by_contra hc
          simp [hc] at h
        rw [List.takeWhile_cons_of_pos hc] at hhead
        exact absurd (congrArg (· :: more) (Option.some.inj hhead)) (hzero more)
    · exact (List.prefix_iff_eq_append.mp (List.takeWhile_prefix _)).symm

theorem FractionText.head?_append {fraction : Option (List Char)} {cs rest : List Char}
    (h : FractionText fraction cs) {c : Char} (hc : (cs ++ rest).head? = some c) : c = '.' ∨ rest.head? = some c := by
  cases h with
  | absent => exact .inr hc
  | present _ => exact .inl (Option.some.inj hc).symm

theorem ExponentText.head?_append {exponent : Option (Bool × List Char)} {cs rest : List Char}
    (h : ExponentText exponent cs) {c : Char} (hc : (cs ++ rest).head? = some c) :
    (c = 'e' ∨ c = 'E') ∨ rest.head? = some c := by
  cases h with
  | absent => exact .inr hc
  | present hmark _ _ => exact .inl (Option.some.inj hc ▸ hmark)

/-- What stands behind a number so that it ends there. -/
def EndsNumeral (rest : List Char) : Prop :=
  ∀ c, rest.head? = some c → Text.isDigit c = false ∧ c ≠ '.' ∧ c ≠ 'e' ∧ c ≠ 'E'

theorem readMagnitude_written {n : Numeral} {fraction exponent rest : List Char} (hwhole : IsWhole n.whole)
    (hfraction : FractionText n.fraction fraction) (hexponent : ExponentText n.exponent exponent)
    (hrest : EndsNumeral rest) :
    readMagnitude n.negative (n.whole ++ fraction ++ exponent ++ rest) = some (n, rest) := by
  have hafter : ∀ c, (exponent ++ rest).head? = some c → Text.isDigit c = false ∧ c ≠ '.' := by
    intro c hc
    rcases hexponent.head?_append hc with (rfl | rfl) | hc
    · decide
    · decide
    · exact ⟨(hrest c hc).1, (hrest c hc).2.1⟩
  have hbehind : ∀ c, (fraction ++ (exponent ++ rest)).head? = some c → Text.isDigit c = false := by
    intro c hc
    rcases hfraction.head?_append hc with rfl | hc
    · decide
    · exact (hafter c hc).1
  have hread := readExponent_written hexponent fun c hc => ⟨(hrest c hc).1, (hrest c hc).2.2⟩
  rw [List.append_assoc, List.append_assoc, readMagnitude, readWhole_written hwhole hbehind, List.drop_left,
    readFraction_written hfraction hafter, hread]
  simp [hwhole.ne_nil]

theorem readMagnitude_sound {negative : Bool} {cs rest : List Char} {n : Numeral}
    (h : readMagnitude negative cs = some (n, rest)) :
    n.negative = negative ∧ ∃ fraction exponent, IsWhole n.whole ∧ FractionText n.fraction fraction ∧
      ExponentText n.exponent exponent ∧ cs = n.whole ++ fraction ++ exponent ++ rest := by
  rw [readMagnitude] at h
  split at h
  · simp at h
  · next hne =>
    obtain ⟨hwhole, hcs⟩ := readWhole_sound hne
    generalize hreadFraction : readFraction (cs.drop (readWhole cs).length) = fractionRead at h
    obtain ⟨fraction, afterFraction⟩ := fractionRead
    obtain ⟨fractionText, hfraction, hafter⟩ := readFraction_sound hreadFraction
    generalize hreadExponent : readExponent afterFraction = exponentRead at h
    obtain ⟨exponent, afterExponent⟩ := exponentRead
    obtain ⟨exponentText, hexponent, hbehind⟩ := readExponent_sound hreadExponent
    obtain ⟨rfl, rfl⟩ := Prod.mk.inj (Option.some.inj h)
    refine ⟨rfl, fractionText, exponentText, hwhole, hfraction, hexponent, ?_⟩
    rw [List.append_assoc, List.append_assoc, ← hbehind, ← hafter]
    exact hcs

/-- A number is read up to what cannot belong to it. -/
theorem readNumeral?_written {n : Numeral} {cs rest : List Char} (h : n.Written cs) (hrest : EndsNumeral rest) :
    readNumeral? (cs ++ rest) = some (n, rest) := by
  obtain ⟨hwhole, hfraction, hexponent⟩ := h
  have hread := readMagnitude_written hwhole hfraction hexponent hrest
  cases hnegative : n.negative with
  | true =>
    rw [hnegative] at hread
    rw [Numeral.sign, if_pos hnegative, ← hread, ← readNumeral?_minus]
    rfl
  | false =>
    have hnot : ¬ n.negative = true := by simp [hnegative]
    rw [hnegative] at hread
    rw [Numeral.sign, if_neg hnot, List.nil_append, ← hread, readNumeral?_of_ne fun c hc => ?_]
    -- without a sign a number begins with a digit
    obtain ⟨d, more, hd⟩ := List.exists_cons_of_ne_nil hwhole.ne_nil
    have hdigit := hwhole.isDigit d (by simp [hd])
    obtain rfl : d = c := by simpa [hd] using hc
    exact digit_ne hdigit (by decide)

theorem readNumeral?_sound {cs rest : List Char} {n : Numeral} (h : readNumeral? cs = some (n, rest)) :
    ∃ text, n.Written text ∧ cs = text ++ rest := by
  by_cases hminus : cs.head? = some '-'
  · obtain ⟨body, rfl⟩ := List.head?_eq_some_iff.mp hminus
    rw [readNumeral?_minus] at h
    obtain ⟨hnegative, fraction, exponent, hwhole, hfraction, hexponent, rfl⟩ := readMagnitude_sound h
    exact ⟨_, .mk hwhole hfraction hexponent, by simp [Numeral.sign, hnegative]⟩
  · rw [readNumeral?_of_ne fun c hc heq => hminus (heq ▸ hc)] at h
    obtain ⟨hnegative, fraction, exponent, hwhole, hfraction, hexponent, rfl⟩ := readMagnitude_sound h
    exact ⟨_, .mk hwhole hfraction hexponent, by simp [Numeral.sign, hnegative]⟩

/-! ### Words and numbers -/

/-- Every word is found at the start of a text. -/
theorem readLiteral?_written {word : String} {v : Value} (h : (word, v) ∈ literals) (rest : List Char) :
    readLiteral? (word.toList ++ rest) = some (v, rest) := by
  simp only [literals, List.mem_cons, Prod.mk.injEq, List.not_mem_nil, or_false] at h
  obtain ⟨rfl, rfl⟩ | ⟨rfl, rfl⟩ | ⟨rfl, rfl⟩ | ⟨rfl, rfl⟩ | ⟨rfl, rfl⟩ | ⟨rfl, rfl⟩ := h <;> rfl

theorem readLiteral?_sound {cs rest : List Char} {v : Value} (h : readLiteral? cs = some (v, rest)) :
    ∃ word, (word, v) ∈ literals ∧ cs = word.toList ++ rest := by
  obtain ⟨⟨word, w⟩, hmem, hfound⟩ := List.exists_of_findSome?_eq_some h
  obtain ⟨r, hr, hpair⟩ := Option.map_eq_some_iff.mp hfound
  obtain ⟨rfl, rfl⟩ := Prod.mk.inj hpair
  exact ⟨word, hmem, Text.dropPrefix?_eq_some.mp hr⟩

/-- The integer part of a number stands in its text. -/
theorem Numeral.Written.whole_isInfix {n : Numeral} {cs : List Char} (h : n.Written cs) : n.whole <:+: cs := by
  obtain @⟨fraction, exponent, -, -, -⟩ := h
  exact ⟨n.sign, fraction ++ exponent, by simp⟩

theorem Numeral.Written.isDigit {n : Numeral} {cs : List Char} (h : n.Written cs) :
    ∀ c ∈ n.whole, Text.isDigit c = true := by
  obtain ⟨hwhole, -, -⟩ := h
  exact hwhole.isDigit

/-- A number begins with a digit, or with a minus sign and a digit behind it. -/
theorem Numeral.Written.head {n : Numeral} {cs : List Char} (h : n.Written cs) :
    ∃ d rest, Text.isDigit d = true ∧ (cs = d :: rest ∨ cs = '-' :: d :: rest) := by
  obtain ⟨hwhole, -, -⟩ := h
  obtain ⟨d, more, hd⟩ := List.exists_cons_of_ne_nil hwhole.ne_nil
  have hdigit := hwhole.isDigit d (by simp [hd])
  cases hnegative : n.negative with
  | true => exact ⟨d, _, hdigit, .inr (by rw [Numeral.sign, if_pos hnegative, hd]; rfl)⟩
  | false => exact ⟨d, _, hdigit, .inl (by rw [Numeral.sign, if_neg (by simp [hnegative]), hd]; rfl)⟩

/-- A word begins with a letter, or with a minus sign and a letter behind it. -/
theorem head_of_mem_literals {word : String} {v : Value} (h : (word, v) ∈ literals) :
    ∃ c rest, Text.isDigit c = false ∧ (c ≠ '-' ∧ word.toList = c :: rest ∨ word.toList = '-' :: c :: rest) := by
  simp only [literals, List.mem_cons, Prod.mk.injEq, List.not_mem_nil, or_false] at h
  obtain ⟨rfl, -⟩ | ⟨rfl, -⟩ | ⟨rfl, -⟩ | ⟨rfl, -⟩ | ⟨rfl, -⟩ | ⟨rfl, -⟩ := h
  · exact ⟨'n', _, rfl, .inl ⟨by decide, rfl⟩⟩
  · exact ⟨'t', _, rfl, .inl ⟨by decide, rfl⟩⟩
  · exact ⟨'f', _, rfl, .inl ⟨by decide, rfl⟩⟩
  · exact ⟨'N', _, rfl, .inl ⟨by decide, rfl⟩⟩
  · exact ⟨'I', _, rfl, .inl ⟨by decide, rfl⟩⟩
  · exact ⟨'I', _, rfl, .inr rfl⟩

/-- No word begins as a number does. -/
theorem readLiteral?_of_written {n : Numeral} {cs : List Char} (h : n.Written cs) (rest : List Char) :
    readLiteral? (cs ++ rest) = none := by
  obtain ⟨d, more, hdigit, hcs⟩ := h.head
  cases hfound : readLiteral? (cs ++ rest) with
  | none => rfl
  | some found =>
    obtain ⟨word, hword, hsplit⟩ := readLiteral?_sound hfound
    obtain ⟨c, others, hletter, hword⟩ := head_of_mem_literals hword
    have hne := digit_ne hdigit hletter
    have hminus : d ≠ '-' := digit_ne hdigit (by decide)
    rcases hcs with rfl | rfl
    · rcases hword with ⟨-, hword⟩ | hword
      · exact absurd (List.cons.inj (hword ▸ hsplit)).1 hne
      · exact absurd (List.cons.inj (hword ▸ hsplit)).1 hminus
    · rcases hword with ⟨hc, hword⟩ | hword
      · exact absurd (List.cons.inj (hword ▸ hsplit)).1.symm hc
      · exact absurd (List.cons.inj (List.cons.inj (hword ▸ hsplit)).2).1 hne

theorem readScalar_literal {word : String} {v : Value} (h : (word, v) ∈ literals) (rest : List Char) :
    readScalar (word.toList ++ rest) = .ok (v, rest) := by
  rw [readScalar, readLiteral?_written h]

theorem readScalar_numeral {n : Numeral} {cs rest : List Char} (h : n.Written cs) (hrest : EndsNumeral rest) :
    readScalar (cs ++ rest) = n.value.map fun v => (v, rest) := by
  rw [readScalar, readLiteral?_of_written h, readNumeral?_written h hrest]

/-- What is read as a word or a number is one. -/
theorem readScalar_sound {cs rest : List Char} {v : Value} (h : readScalar cs = .ok (v, rest)) :
    (∃ word, (word, v) ∈ literals ∧ cs = word.toList ++ rest) ∨
      ∃ (n : Numeral) (text : List Char), n.Written text ∧ n.Means v ∧ n.IsShort ∧ cs = text ++ rest := by
  rw [readScalar] at h
  split at h
  · next found hfound =>
    obtain rfl := Except.ok.inj h
    exact .inl (readLiteral?_sound hfound)
  · split at h
    · next n after hread =>
      obtain ⟨w, hw, hpair⟩ := map_eq_ok.mp h
      obtain ⟨rfl, rfl⟩ := Prod.mk.inj hpair
      obtain ⟨text, htext, rfl⟩ := readNumeral?_sound hread
      obtain ⟨hmeans, hshort⟩ := Numeral.value_eq_ok.mp hw
      exact .inr ⟨n, text, htext, hmeans, hshort, rfl⟩
    · simp at h

end Switchboard.Json
