import Switchboard.Proofs.Yaml.Common

/-!
Gaps, strings and plain scalars of a text that both notations know.

* `Cursor.Past` — a cursor has moved over a text; what it says of the line is what keeps a name together with its colon;
* `Scanner.skipToToken_gap` — spaces and line breaks are passed over up to the next token;
* `takeQuoted_body` — a string is read as JSON reads it;
* `takePlain_append` — a plain scalar between brackets is read up to the blanks behind it, which it takes away as well.

Spaces are read a stretch at a time and a line break can be two characters long, so that these go by induction on the
length and not on the text.
-/
namespace Switchboard.Yaml

namespace Cursor

/-- A cursor has moved over a text. -/
structure Past (pre : List Char) (c c' : Cursor) : Prop where
  rest : c.rest = pre ++ c'.rest
  dialect : c'.dialect = c.dialect
  index : c'.index = c.index + pre.length
  line : (∀ d ∈ pre, isLineBreak d = false) → c'.line = c.line

section
variable {c c' c'' : Cursor} {pre pre' rest : List Char} {d : Char}

theorem Past.refl (c : Cursor) : Past [] c c := ⟨rfl, rfl, rfl, fun _ => rfl⟩

theorem Past.trans (h : Past pre c c') (h' : Past pre' c' c'') : Past (pre ++ pre') c c'' where
  rest := by rw [h.rest, h'.rest, List.append_assoc]
  dialect := h'.dialect.trans h.dialect
  index := by rw [h'.index, h.index, List.length_append, Nat.add_assoc]
  line hpre := by
    rw [List.forall_mem_append] at hpre
    rw [h'.line hpre.2, h.line hpre.1]

theorem past_next (h : c.rest = d :: rest) : Past [d] c c.next ∧ c.next.rest = rest := by
  rw [next, h]
  dsimp only
  split_ifs with hbreak hwidth
  · refine ⟨⟨h, rfl, rfl, fun hline => ?_⟩, rfl⟩
    simp [hline d List.mem_cons_self] at hbreak
  · exact ⟨⟨h, rfl, rfl, fun _ => rfl⟩, rfl⟩
  · exact ⟨⟨h, rfl, rfl, fun _ => rfl⟩, rfl⟩

theorem past_forward (h : c.rest = pre ++ rest) :
    Past pre c (c.forward pre.length) ∧ (c.forward pre.length).rest = rest := by
  induction pre generalizing c with
  | nil => exact ⟨.refl c, h⟩
  | cons d pre ih =>
    obtain ⟨hnext, hrest⟩ := past_next h
    obtain ⟨hforward, hlast⟩ := ih hrest
    exact ⟨hnext.trans hforward, hlast⟩

theorem here_of_rest (h : c.rest = d :: rest) : c.here = d := by rw [here, h]; rfl

theorem peek_one_of_rest {e : Char} (h : c.rest = d :: e :: rest) : c.peek 1 = e := by rw [peek, h]; rfl

theorem span_of_rest {p : Char → Bool} (h : c.rest = pre ++ rest) (hpre : ∀ d ∈ pre, p d = true)
    (hrest : ∀ d, rest.head? = some d → p d = false) : c.span p = (pre, c.forward pre.length) := by
  rw [span, h, Text.takeWhile_append hpre hrest]

theorem isAtMark_eq_false {m : Char} (h : ∀ d, c.rest.head? = some d → d ≠ m) : c.isAtMark [m, m, m] = false := by
  refine Bool.eq_false_iff.mpr fun hmark => ?_
  obtain ⟨more, hmore⟩ := Text.startsWith_iff.mp (Bool.and_eq_true_iff.mp hmark).1
  exact h m (by rw [← hmore]; rfl) rfl

end

end Cursor

/-- The spaces at the start of a text, and what follows them. -/
theorem exists_spaces (cs : List Char) :
    ∃ spaces more, cs = spaces ++ more ∧ (∀ e ∈ spaces, e = ' ') ∧ more.head? ≠ some ' ' := by
  induction cs with
  | nil => exact ⟨[], [], rfl, by simp, by simp⟩
  | cons c cs ih =>
    by_cases hspace : c = ' '
    · obtain ⟨spaces, more, rfl, hspaces, hmore⟩ := ih
      exact ⟨c :: spaces, more, rfl, List.forall_mem_cons.mpr ⟨hspace, hspaces⟩, hmore⟩
    · exact ⟨[], c :: cs, rfl, by simp, by simpa using hspace⟩

/-! ### Gaps -/

/-- A character that no gap goes on with: neither blank, nor the end of a line, nor the sign of a comment. -/
def EndsGap (d : Char) : Prop := d ≠ ' ' ∧ d ≠ '#' ∧ isLineBreak d = false

instance (d : Char) : Decidable (EndsGap d) := inferInstanceAs (Decidable (_ ∧ _))

namespace Scanner

section
variable {s : Scanner} {gap rest : List Char}

theorem skipGap_spaced (h : s.cursor.dialect = .spaced) : s.skipGap = s.cursor.skipSpaces := by
  have htabbed : s.cursor.isTabbed = false := by simp [Cursor.isTabbed, h]
  simp [skipGap, Cursor.skipBlanks, htabbed]

theorem skipSpaces_of_ne {c : Cursor} (h : ∀ d, c.rest.head? = some d → d ≠ ' ') : c.skipSpaces = c := by
  have hrest : c.rest = [] ++ c.rest := rfl
  have hspan : c.span (· = ' ') = ([], c.forward 0) :=
    Cursor.span_of_rest hrest (by simp) fun d hd => by simpa using h d hd
  rw [Cursor.skipSpaces, Cursor.skip, hspan]
  rfl

theorem skipSpaces_cons {c : Cursor} (h : c.rest = ' ' :: rest) : c.skipSpaces = c.next.skipSpaces := by
  obtain ⟨-, hnext⟩ := Cursor.past_next h
  simp [Cursor.skipSpaces, Cursor.skip, Cursor.span, h, hnext, Cursor.forward]

theorem takeBreak_return {c : Cursor} (h : c.rest = '\r' :: rest) (hrest : ∀ e, rest.head? = some e → e ≠ '\n') :
    c.takeBreak.2 = c.next := by
  rw [Cursor.takeBreak, h]
  cases rest with
  | nil => rfl
  | cons e others =>
    split
    · next heq => exact absurd (List.cons.inj (List.cons.inj heq).2).1 (hrest e rfl)
    · next heq =>
      obtain ⟨rfl, -⟩ := List.cons.inj heq
      rfl
    · next heq => simp at heq

/-- A line break at the start of a gap is one or two characters of it. -/
theorem takeBreak_gap {c : Cursor} {d : Char} (hd : d = '\n' ∨ d = '\r') (hgap : Common.IsGap gap)
    (hrest : c.rest = d :: (gap ++ rest)) (hends : ∀ e, rest.head? = some e → EndsGap e) :
    ∃ ending gap', d :: gap = ending ++ gap' ∧ Common.IsGap gap' ∧ gap'.length ≤ gap.length ∧
      Cursor.Past ending c c.takeBreak.2 ∧ c.takeBreak.2.rest = gap' ++ rest := by
  have hone : c.takeBreak.2 = c.next → ∃ ending gap', d :: gap = ending ++ gap' ∧ Common.IsGap gap' ∧
      gap'.length ≤ gap.length ∧ Cursor.Past ending c c.takeBreak.2 ∧ c.takeBreak.2.rest = gap' ++ rest := by
    intro hnext
    rw [hnext]
    exact ⟨[d], gap, rfl, hgap, le_refl _, (Cursor.past_next hrest).1, (Cursor.past_next hrest).2⟩
  rcases hd with rfl | rfl
  · exact hone (by rw [Cursor.takeBreak, hrest]; rfl)
  · cases gap with
    | nil =>
      refine hone (takeBreak_return hrest fun e he => ?_)
      rintro rfl
      exact absurd (hends _ he) (by decide)
    | cons e gap =>
      by_cases he : e = '\n'
      · subst he
        have htwo : c.takeBreak.2 = c.forward 2 := by rw [Cursor.takeBreak, hrest]; rfl
        have hrest : c.rest = ['\r', '\n'] ++ (gap ++ rest) := hrest
        obtain ⟨hpast, hnext⟩ := Cursor.past_forward hrest
        rw [htwo]
        exact ⟨['\r', '\n'], gap, rfl, (List.forall_mem_cons.mp hgap).2, by simp, hpast, hnext⟩
      · refine hone (takeBreak_return hrest fun e' he' => ?_)
        obtain rfl := Option.some.inj he'
        exact he

/-- Where no gap stands, nothing is passed over. -/
theorem skipToToken_of_endsGap (hspaced : s.cursor.dialect = .spaced)
    (hends : ∀ d, s.cursor.rest.head? = some d → EndsGap d) (fuel : Nat) : skipToToken (fuel + 1) s = s := by
  have hhere : s.cursor.here ≠ '#' ∧ isLineBreak s.cursor.here = false := by
    rw [Cursor.here]
    cases hhead : s.cursor.rest.head? with
    | none => decide
    | some d => exact (hends d hhead).2
  rw [skipToToken, skipGap_spaced hspaced, skipSpaces_of_ne fun d hd => (hends d hd).1, Cursor.skipComment,
    if_neg hhere.1, hhere.2]
  rfl

theorem skipToToken_space (hspaced : s.cursor.dialect = .spaced) (hrest : s.cursor.rest = ' ' :: rest) (fuel : Nat) :
    skipToToken (fuel + 1) s = skipToToken (fuel + 1) { s with cursor := s.cursor.next } := by
  have hnext := (Cursor.past_next hrest).1.dialect.trans hspaced
  rw [skipToToken, skipToToken, skipGap_spaced hspaced, skipGap_spaced hnext, skipSpaces_cons hrest]
  rfl

theorem skipToToken_break {d : Char} (hd : d = '\n' ∨ d = '\r') (hspaced : s.cursor.dialect = .spaced)
    (hrest : s.cursor.rest = d :: rest) (fuel : Nat) :
    skipToToken (fuel + 1) s
      = skipToToken fuel { s with cursor := s.cursor.takeBreak.2, keyAllowed := s.keyAllowed || s.inBlock } := by
  have hmarks : d ≠ ' ' ∧ d ≠ '#' ∧ isLineBreak d = true := by rcases hd with rfl | rfl <;> decide
  have hspaces : s.cursor.skipSpaces = s.cursor := skipSpaces_of_ne fun e he => by
    rw [hrest] at he
    obtain rfl := Option.some.inj he
    exact hmarks.1
  rw [skipToToken, skipGap_spaced hspaced, hspaces, Cursor.skipComment, Cursor.here_of_rest hrest, if_neg hmarks.2.1,
    Cursor.here_of_rest hrest, hmarks.2.2]
  rfl

/-- Spaces and line breaks are passed over up to the next token. -/
theorem skipToToken_gap (hgap : Common.IsGap gap) (hrest : s.cursor.rest = gap ++ rest)
    (hspaced : s.cursor.dialect = .spaced) (hends : ∀ d, rest.head? = some d → EndsGap d) {fuel : Nat}
    (hfuel : gap.length < fuel) :
    ∃ c allowed, skipToToken fuel s = { s with cursor := c, keyAllowed := allowed } ∧ c.rest = rest ∧
      Cursor.Past gap s.cursor c ∧ (s.level ≠ 0 → allowed = s.keyAllowed) := by
  -- a line break can take two characters away, so the induction is on the length
  induction hlength : gap.length using Nat.strong_induction_on generalizing gap s fuel with
  | _ length ih =>
  obtain ⟨fuel, rfl⟩ : ∃ more, fuel = more + 1 := ⟨fuel - 1, by omega⟩
  cases gap with
  | nil =>
    have hskip := skipToToken_of_endsGap hspaced (hrest ▸ hends) fuel
    exact ⟨s.cursor, s.keyAllowed, hskip, hrest, .refl _, fun _ => rfl⟩
  | cons d gap =>
    have hshorter : gap.length < length := by simp [← hlength]
    obtain ⟨hd, hgap'⟩ := List.forall_mem_cons.mp hgap
    by_cases hspace : d = ' '
    · subst hspace
      obtain ⟨hpast, hnext⟩ := Cursor.past_next hrest
      obtain ⟨c, allowed, hskip, hc, hpast', hallowed⟩ :=
        ih _ hshorter (s := { s with cursor := s.cursor.next }) hgap' hnext (hpast.dialect.trans hspaced)
          (by simp at hfuel; omega : gap.length < fuel + 1) rfl
      exact ⟨c, allowed, (skipToToken_space hspaced hrest fuel).trans hskip, hc, hpast.trans hpast', hallowed⟩
    · have hd := hd.resolve_left hspace
      obtain ⟨ending, gap', hsplit, hgap'', hle, hpast, hnext⟩ := takeBreak_gap hd hgap' hrest hends
      obtain ⟨c, allowed, hskip, hc, hpast', hallowed⟩ :=
        ih gap'.length (by omega)
          (s := { s with cursor := s.cursor.takeBreak.2, keyAllowed := s.keyAllowed || s.inBlock })
          hgap'' hnext (hpast.dialect.trans hspaced) (by simp at hfuel; omega : gap'.length < fuel) rfl
      refine ⟨c, allowed, (skipToToken_break hd hspaced hrest fuel).trans hskip, hc, ?_, fun hlevel => ?_⟩
      · rw [hsplit]
        exact hpast.trans hpast'
      · -- inside brackets a new line allows no more than the old one
        rw [hallowed hlevel]
        simp [inBlock, hlevel]

end

end Scanner

/-! ### Strings -/

section
variable {c : Cursor} {rest : List Char} {fuel : Nat}

variable {s : List Char} {c' : Cursor}

theorem takeQuotedRest_quote (hrest : c.rest = '"' :: rest) : takeQuotedRest '"' (fuel + 1) c = .ok ([], c.next) := by
  rw [takeQuotedRest, Cursor.here_of_rest hrest]
  rfl

/-- A character that stands for itself inside a string. -/
theorem takeQuotedRest_plain {d : Char} (hrest : c.rest = d :: rest) (hquote : d ≠ '"') (hback : d ≠ '\\')
    (hword : isWordEnd d = false) (h : takeQuotedRest '"' fuel c.next = .ok (s, c')) :
    takeQuotedRest '"' (fuel + 1) c = .ok (d :: s, c') := by
  rw [takeQuotedRest, Cursor.here_of_rest hrest]
  simp only [hquote, hback, hword, h]
  rfl

theorem takeQuotedRest_short {e f : Char} (hrest : c.rest = '\\' :: e :: rest) (he : escape? e = some f)
    (h : takeQuotedRest '"' fuel (c.forward 2) = .ok (s, c')) :
    takeQuotedRest '"' (fuel + 1) c = .ok (f :: s, c') := by
  rw [takeQuotedRest, Cursor.here_of_rest hrest, Cursor.peek_one_of_rest hrest]
  simp only [he, h]
  rfl

theorem takeQuotedRest_unit {x : Char} {after : Cursor} (hrest : c.rest = '\\' :: 'u' :: rest)
    (hx : takeNumbered 4 (c.forward 2) = .ok (x, after)) (h : takeQuotedRest '"' fuel after = .ok (s, c')) :
    takeQuotedRest '"' (fuel + 1) c = .ok (x :: s, c') := by
  have hescape : escape? 'u' = none ∧ escapeWidth? 'u' = some 4 := ⟨rfl, rfl⟩
  have hstep : takeQuotedRest '"' (fuel + 1) c
      = (takeQuotedRest '"' fuel after).bind fun read => .ok (x :: read.1, read.2) := by
    rw [takeQuotedRest, Cursor.here_of_rest hrest, Cursor.peek_one_of_rest hrest]
    simp only [hescape, hx]
    rfl
  rw [hstep, h]
  rfl

/-- Spaces inside a string stand for themselves as long as no line ends behind them. -/
theorem takeQuotedRest_spaces {spaces : List Char} {d : Char} (hne : spaces ≠ []) (hspaces : ∀ e ∈ spaces, e = ' ')
    (hrest : c.rest = spaces ++ d :: rest) (hd : isWordEnd d = false)
    (h : takeQuotedRest '"' fuel (c.forward spaces.length) = .ok (s, c')) :
    takeQuotedRest '"' (fuel + 1) c = .ok (spaces ++ s, c') := by
  have hmarks : isSpaceOrTab d = false ∧ d ≠ nul ∧ isLineBreak d = false := by
    simp only [isWordEnd, isSpaceOrEnd, isLineEnd, Bool.or_eq_false_iff, decide_eq_false_iff_not] at hd
    simp [isSpaceOrTab, hd]
  obtain ⟨-, hafter⟩ := Cursor.past_forward hrest
  have hspan : c.span isSpaceOrTab = (spaces, c.forward spaces.length) := by
    refine Cursor.span_of_rest hrest (fun e he => by rw [hspaces e he]; rfl) fun e he => ?_
    obtain rfl := Option.some.inj he
    exact hmarks.1
  have hread : takeQuotedSpaces c = .ok (spaces, c.forward spaces.length) := by
    rw [takeQuotedSpaces, hspan]
    simp only [Cursor.here_of_rest hafter, hmarks]
    rfl
  obtain ⟨e, more, rfl⟩ := List.exists_cons_of_ne_nil hne
  obtain rfl := hspaces e List.mem_cons_self
  have hstep : takeQuotedRest '"' (fuel + 1) c = (takeQuotedRest '"' fuel (c.forward (' ' :: more).length)).bind
      fun read => .ok (' ' :: more ++ read.1, read.2) := by
    rw [takeQuotedRest, Cursor.here_of_rest hrest]
    simp only [hread]
    rfl
  rw [hstep, h]
  rfl

end

/-- The character of sixteen bits is the same in both notations. -/
theorem characterOf_spaced {n : Nat} (h : n < 65536) : characterOf .spaced n = .ok (Json.unitChar n) := by
  have hsmall : ¬ Nat.pow 2 31 ≤ n ∧ ¬ 0x10FFFF < n := by
    have hpow : Nat.pow 2 31 = 2147483648 := by norm_num
    omega
  have hhalf : (Json.isHigh n || Json.isLow n) = (decide (0xD800 ≤ n) && decide (n < 0xE000)) := by
    rw [Json.isHigh, Json.isLow, Bool.eq_iff_iff]
    simp only [Bool.or_eq_true, Bool.and_eq_true, decide_eq_true_eq]
    omega
  rw [characterOf, Json.unitChar, hhalf, if_neg (by simp), if_neg hsmall.1, if_neg hsmall.2]
  split_ifs <;> rfl

/-- Four digits behind an escape are read as JSON reads them; half a pair gives a replacement character. -/
theorem takeNumbered_unit {c : Cursor} {a b d e : Char} {n : Nat} {rest : List Char} (hspaced : c.dialect = .spaced)
    (hrest : c.rest = a :: b :: d :: e :: rest) (hn : Json.unit? a b d e = some n) :
    takeNumbered 4 c = .ok (Json.unitChar n, c.forward 4) := by
  obtain ⟨w, hw, hn⟩ := Option.bind_eq_some_iff.mp hn
  obtain ⟨x, hx, hn⟩ := Option.bind_eq_some_iff.mp hn
  obtain ⟨y, hy, hn⟩ := Option.bind_eq_some_iff.mp hn
  obtain ⟨z, hz, hn⟩ := Option.bind_eq_some_iff.mp hn
  obtain rfl := Option.some.inj hn
  have hbound : ((w * 16 + x) * 16 + y) * 16 + z < 65536 := by
    have := Common.lt_of_hexValue? hw
    have := Common.lt_of_hexValue? hx
    have := Common.lt_of_hexValue? hy
    have := Common.lt_of_hexValue? hz
    omega
  have hdigits : (c.rest.take 4).mapM Text.hexValue? = some [w, x, y, z] := by
    rw [hrest]
    simp [List.mapM_cons, hw, hx, hy, hz]
  have hvalue : [w, x, y, z].foldl (fun n v => 16 * n + v) 0 = ((w * 16 + x) * 16 + y) * 16 + z := by
    simp only [List.foldl_cons, List.foldl_nil]
    omega
  rw [takeNumbered, hdigits]
  simp only [hvalue, hspaced, characterOf_spaced hbound]
  rfl

/-- An escape of one letter stands for the same character in both notations. -/
theorem escape?_of_simpleEscape? {d e : Char} (h : Json.simpleEscape? d = some e) : escape? d = some e := by
  unfold Json.simpleEscape? at h
  split at h <;> first | exact h | simp at h

theorem isWordEnd_of_plain {d : Char} (hcontrol : 0x20 ≤ d.toNat) (hbreak : isLineBreak d = false) (hspace : d ≠ ' ') :
    isWordEnd d = false := by
  have htab : d ≠ '\t' := by rintro rfl; exact absurd hcontrol (by decide)
  have hnul : d ≠ nul := by rintro rfl; exact absurd hcontrol (by decide)
  simp [isWordEnd, isSpaceOrEnd, isLineEnd, htab, hnul, hspace, hbreak]

/-- What stands behind the spaces at the start of the inside of a string, or behind all of it. -/
theorem Common.Body.isWordEnd_head {body key rest : List Char} (h : Common.Body body key) :
    ∀ d, (body ++ '"' :: rest).head? = some d → d ≠ ' ' → isWordEnd d = false := by
  intro d hd hspace
  cases h with
  | nil | short _ _ | unit _ _ _ =>
    obtain rfl := Option.some.inj hd
    rfl
  | plain _ _ hcontrol _ hbreak _ =>
    obtain rfl := Option.some.inj hd
    exact isWordEnd_of_plain hcontrol hbreak hspace

theorem Common.Body.of_spaces {spaces body key : List Char} (h : Common.Body (spaces ++ body) key)
    (hspaces : ∀ e ∈ spaces, e = ' ') : ∃ key', key = spaces ++ key' ∧ Common.Body body key' := by
  induction spaces generalizing key with
  | nil => exact ⟨key, rfl, h⟩
  | cons e spaces ih =>
    obtain ⟨rfl, hmore⟩ := List.forall_mem_cons.mp hspaces
    cases h with
    | plain _ _ _ _ _ hbody =>
      obtain ⟨key', rfl, hbody'⟩ := ih hbody hmore
      exact ⟨key', rfl, hbody'⟩

/-- The inside of a string is read as JSON reads it. -/
theorem takeQuotedRest_body {body key rest : List Char} (h : Common.Body body key) {c : Cursor}
    (hspaced : c.dialect = .spaced) (hrest : c.rest = body ++ '"' :: rest) {fuel : Nat} (hfuel : body.length < fuel) :
    ∃ c', takeQuotedRest '"' fuel c = .ok (key, c') ∧ c'.rest = rest ∧ Cursor.Past (body ++ ['"']) c c' := by
  -- a stretch of spaces is read at once, so the induction is on the length
  induction hlength : body.length using Nat.strong_induction_on generalizing body key c fuel with
  | _ length ih =>
  obtain ⟨fuel, rfl⟩ : ∃ more, fuel = more + 1 := ⟨fuel - 1, by omega⟩
  -- the rest of the inside is read from behind its first part
  have hgoOn : ∀ (pre : List Char) {body' key' : List Char}, pre ≠ [] → body = pre ++ body' →
      Common.Body body' key' → ∃ c', takeQuotedRest '"' fuel (c.forward pre.length) = .ok (key', c') ∧ c'.rest = rest ∧
        Cursor.Past (body ++ ['"']) c c' := by
    rintro pre body' key' hne rfl hbody'
    have hpos : 0 < pre.length := List.length_pos_of_ne_nil hne
    have hlengths : pre.length + body'.length = length := by rw [← hlength, List.length_append]
    rw [List.append_assoc] at hrest
    obtain ⟨hpast, hnext⟩ := Cursor.past_forward hrest
    obtain ⟨c', htake, hc', hpast'⟩ :=
      ih body'.length (by omega) hbody' (hpast.dialect.trans hspaced) hnext (by omega : body'.length < fuel) rfl
    exact ⟨c', htake, hc', by simpa using hpast.trans hpast'⟩
  by_cases hspace : body.head? = some ' '
  · obtain ⟨spaces, body', hsplit, hspaces, hfirst⟩ := exists_spaces body
    have hne : spaces ≠ [] := by
      rintro rfl
      rw [hsplit] at hspace
      exact hfirst hspace
    obtain ⟨key', rfl, hbody'⟩ := Common.Body.of_spaces (hsplit ▸ h) hspaces
    obtain ⟨c', htake, hc', hpast⟩ := hgoOn spaces hne hsplit hbody'
    obtain ⟨d, more, hd⟩ : ∃ d more, body' ++ '"' :: rest = d :: more := List.exists_cons_of_ne_nil (by simp)
    have hword : isWordEnd d = false := by
      refine hbody'.isWordEnd_head d (by rw [hd]; rfl) ?_
      rintro rfl
      cases body' with
      | nil => simp at hd
      | cons e others => exact hfirst (congrArg some (List.cons.inj hd).1)
    rw [hsplit, List.append_assoc, hd] at hrest
    exact ⟨c', takeQuotedRest_spaces hne hspaces hrest hword htake, hc', hpast⟩
  · cases h with
    | nil =>
      obtain ⟨hpast, hnext⟩ := Cursor.past_next hrest
      exact ⟨c.next, takeQuotedRest_quote hrest, hnext, hpast⟩
    | @plain d _ _ hquote hback hcontrol _ hbreak hbody' =>
      obtain ⟨c', htake, hc', hpast⟩ := hgoOn [d] (by simp) rfl hbody'
      have hword := isWordEnd_of_plain hcontrol hbreak (by simpa using hspace)
      exact ⟨c', takeQuotedRest_plain hrest hquote hback hword htake, hc', hpast⟩
    | @short d _ _ _ hd hbody' =>
      obtain ⟨c', htake, hc', hpast⟩ := hgoOn ['\\', d] (by simp) rfl hbody'
      exact ⟨c', takeQuotedRest_short hrest (escape?_of_simpleEscape? hd) htake, hc', hpast⟩
    | @unit w x y z n more _ hn _ hbody' =>
      obtain ⟨c', htake, hc', hpast⟩ := hgoOn ['\\', 'u', w, x, y, z] (by simp) rfl hbody'
      have hescape : c.rest = ['\\', 'u'] ++ (w :: x :: y :: z :: (more ++ '"' :: rest)) := hrest
      obtain ⟨hpast₂, hnext⟩ := Cursor.past_forward hescape
      have hunit := takeNumbered_unit (hpast₂.dialect.trans hspaced) hnext hn
      exact ⟨c', takeQuotedRest_unit hrest hunit htake, hc', hpast⟩

theorem takeQuoted_body {body key rest : List Char} (h : Common.Body body key) {c : Cursor}
    (hspaced : c.dialect = .spaced) (hrest : c.rest = '"' :: (body ++ '"' :: rest)) :
    ∃ c', takeQuoted c = .ok (String.ofList key, c') ∧ c'.rest = rest ∧ Cursor.Past ('"' :: (body ++ ['"'])) c c' := by
  obtain ⟨hpast, hnext⟩ := Cursor.past_next hrest
  obtain ⟨c', htake, hc', hpast'⟩ :=
    takeQuotedRest_body h (hpast.dialect.trans hspaced) hnext
      (by simp only [hrest, List.length_cons, List.length_append]; omega : body.length < c.rest.length + 1)
  refine ⟨c', ?_, hc', hpast.trans hpast'⟩
  rw [takeQuoted, Cursor.here_of_rest hrest, htake]
  rfl

/-! ### Plain scalars -/

/-- A character that can stand anywhere in a plain scalar between brackets. -/
def IsPlain (d : Char) : Prop := isWordEnd d = false ∧ d ∉ [':', ',', '?', '[', ']', '\x7b', '\x7d', '#']

instance (d : Char) : Decidable (IsPlain d) := inferInstanceAs (Decidable (_ ∧ _))

theorem IsPlain.endsGap {d : Char} (h : IsPlain d) : EndsGap d := by
  obtain ⟨hword, hmarks⟩ := h
  simp only [isWordEnd, isSpaceOrEnd, isLineEnd, Bool.or_eq_false_iff, decide_eq_false_iff_not] at hword
  refine ⟨hword.2.1, ?_, hword.2.2.2⟩
  rintro rfl
  exact hmarks (by decide)

/-- What stands behind a value and the blanks behind it. -/
def closers : List Char := [',', ']', '}']

theorem endsGap_of_mem_closers {d : Char} (h : d ∈ closers) : EndsGap d := by
  have hends : ∀ d ∈ closers, EndsGap d := List.all_iff_forall_prop.mp (by decide)
  exact hends d h

section
variable {c : Cursor} {cs gap rest : List Char} {d : Char}

theorem endsPlain_of_isPlain {k : Nat} (h : IsPlain (c.peek k)) : endsPlain true c k = false := by
  obtain ⟨hword, hmarks⟩ := h
  simp only [List.mem_cons, not_or] at hmarks
  simp [endsPlain, hword, hmarks]

theorem plainLength_append (hrest : c.rest = cs ++ rest) (hcs : ∀ d ∈ cs, IsPlain d)
    (hends : endsPlain true c cs.length = true) {fuel k : Nat} (hk : k ≤ cs.length) (hfuel : cs.length < fuel + k) :
    plainLength true c fuel k = cs.length := by
  induction fuel generalizing k with
  | zero => omega
  | succ fuel ih =>
    rw [plainLength]
    by_cases hlast : k = cs.length
    · rw [hlast, if_pos hends]
    · have hlt : k < cs.length := by omega
      have hpeek : c.peek k = cs[k] := by
        rw [Cursor.peek, hrest, List.getElem?_append_left hlt, List.getElem?_eq_getElem hlt]
        rfl
      have hplain : IsPlain (c.peek k) := hpeek ▸ hcs _ (List.getElem_mem hlt)
      rw [endsPlain_of_isPlain hplain]
      exact ih (by omega) (by omega)

theorem isAtSeparator_of_gap (hgap : Common.IsGap gap) (hrest : c.rest = gap ++ d :: rest) (hd : d ∈ closers) :
    c.isAtSeparator = false := by
  have hclosers : ∀ d ∈ closers, d ≠ '-' ∧ d ≠ '.' := List.all_iff_forall_prop.mp (by decide)
  have hhead : ∀ e, c.rest.head? = some e → e ≠ '-' ∧ e ≠ '.' := by
    intro e he
    rw [hrest] at he
    cases gap with
    | nil =>
      obtain rfl := Option.some.inj he
      exact hclosers d hd
    | cons f gap =>
      obtain rfl := Option.some.inj he
      rcases hgap f List.mem_cons_self with rfl | rfl | rfl <;> decide
  have hdash : c.isAtMark ['-', '-', '-'] = false := Cursor.isAtMark_eq_false fun e he => (hhead e he).1
  have hdot : c.isAtMark ['.', '.', '.'] = false := Cursor.isAtMark_eq_false fun e he => (hhead e he).2
  rw [Cursor.isAtSeparator, hdash, hdot]
  rfl

theorem takePlainBreaks_gap (hgap : Common.IsGap gap) (hrest : c.rest = gap ++ d :: rest) (hd : d ∈ closers)
    {fuel : Nat} (hfuel : gap.length < fuel) :
    ∃ breaks c', takePlainBreaks fuel c = (some breaks, c') ∧ c'.rest = d :: rest ∧ Cursor.Past gap c c' := by
  induction hlength : gap.length using Nat.strong_induction_on generalizing gap c fuel with
  | _ length ih =>
  obtain ⟨fuel, rfl⟩ : ∃ more, fuel = more + 1 := ⟨fuel - 1, by omega⟩
  obtain ⟨hspace, -, hline⟩ := endsGap_of_mem_closers hd
  cases gap with
  | nil =>
    refine ⟨[], c, ?_, hrest, .refl c⟩
    rw [takePlainBreaks, Cursor.here_of_rest hrest, if_neg hspace, hline]
    rfl
  | cons e gap =>
    have hshorter : gap.length < length := by simp [← hlength]
    obtain ⟨he, hgap'⟩ := List.forall_mem_cons.mp hgap
    rw [takePlainBreaks, Cursor.here_of_rest hrest]
    by_cases hblank : e = ' '
    · obtain ⟨hpast, hnext⟩ := Cursor.past_next hrest
      obtain ⟨breaks, c', htake, hc', hpast'⟩ :=
        ih _ hshorter hgap' hnext (by simp at hfuel; omega : gap.length < fuel) rfl
      exact ⟨breaks, c', by rw [if_pos hblank, htake], hc', hpast.trans hpast'⟩
    · have he := he.resolve_left hblank
      have hbreak : isLineBreak e = true := by rcases he with rfl | rfl <;> rfl
      obtain ⟨ending, gap', hsplit, hgap'', hle, hpast, hnext⟩ := Scanner.takeBreak_gap he hgap' hrest fun f hf => by
        obtain rfl := Option.some.inj hf
        exact endsGap_of_mem_closers hd
      obtain ⟨breaks, c', htake, hc', hpast'⟩ :=
        ih gap'.length (by omega) hgap'' hnext (by simp at hfuel; omega : gap'.length < fuel) rfl
      refine ⟨c.takeBreak.1 ++ breaks, c', ?_, hc', hsplit ▸ hpast.trans hpast'⟩
      rw [if_neg hblank, hbreak]
      simp only [isAtSeparator_of_gap hgap'' hnext hd, htake]
      rfl

/-- The blanks behind a plain scalar, with the lines that end in them. -/
theorem takePlainSpaces_gap (hgap : Common.IsGap gap) (hrest : c.rest = gap ++ d :: rest) (hd : d ∈ closers) :
    ∃ after c' broken, takePlainSpaces c = ((after, c'), broken) ∧ c'.rest = d :: rest ∧ Cursor.Past gap c c' := by
  obtain ⟨spaces, lines, rfl, hspaces, hfirst⟩ := exists_spaces gap
  have hgap' : Common.IsGap lines := fun e he => hgap e (List.mem_append_right spaces he)
  have hbreaks : ∀ e, lines.head? = some e → e = '\n' ∨ e = '\r' := by
    intro e he
    refine (hgap' e (List.mem_of_mem_head? he)).resolve_left ?_
    rintro rfl
    exact hfirst he
  rw [List.append_assoc] at hrest
  obtain ⟨hspace, -, hline⟩ := endsGap_of_mem_closers hd
  obtain ⟨hpast, hnext⟩ := Cursor.past_forward hrest
  have hspan : c.span (· = ' ') = (spaces, c.forward spaces.length) := by
    refine Cursor.span_of_rest hrest (fun e he => decide_eq_true (hspaces e he)) fun e he => ?_
    cases lines with
    | nil =>
      obtain rfl := Option.some.inj he
      exact decide_eq_false hspace
    | cons f lines =>
      rcases hbreaks e he with rfl | rfl <;> rfl
  rw [takePlainSpaces, hspan]
  dsimp only
  cases lines with
  | nil =>
    rw [Cursor.here_of_rest hnext, hline]
    exact ⟨spaces, _, false, rfl, hnext, by simpa using hpast⟩
  | cons e lines =>
    have he := hbreaks e rfl
    have hbreak : isLineBreak e = true := by rcases he with rfl | rfl <;> rfl
    obtain ⟨ending, gap', hlines, hgap'', -, hpast', hnext'⟩ :=
      Scanner.takeBreak_gap he (List.forall_mem_cons.mp hgap').2 hnext fun f hf => by
        obtain rfl := Option.some.inj hf
        exact endsGap_of_mem_closers hd
    have hlong : gap'.length < (c.forward spaces.length).takeBreak.2.rest.length + 1 := by
      rw [hnext', List.length_append]
      omega
    obtain ⟨breaks, c', htake, hc', hpast''⟩ := takePlainBreaks_gap hgap'' hnext' hd hlong
    have hall : Cursor.Past (spaces ++ e :: lines) c c' := hlines ▸ hpast.trans (hpast'.trans hpast'')
    rw [Cursor.here_of_rest hnext, hbreak, if_pos rfl]
    simp only [isAtSeparator_of_gap hgap'' hnext' hd, htake, Bool.false_eq_true, if_false]
    split_ifs <;> exact ⟨_, c', true, rfl, hc', hall⟩

theorem endsPlain_of_mem_closers {k : Nat} (hd : d ∈ closers) (h : c.peek k = d) : endsPlain true c k = true := by
  have hclosers : closers ⊆ [',', '?', '[', ']', '\x7b', '\x7d'] := by simp [closers]
  have hmark := hclosers hd
  simp only [List.mem_cons, List.not_mem_nil, or_false] at hmark
  simp [endsPlain, h, hmark]

theorem endsPlain_of_gap (hgap : Common.IsGap gap) (hd : d ∈ closers) (hrest : c.rest = cs ++ (gap ++ d :: rest)) :
    endsPlain true c cs.length = true := by
  have hpeek : c.peek cs.length = ((gap ++ d :: rest).head?).getD nul := by
    rw [Cursor.peek, hrest, List.getElem?_append_right (le_refl _), Nat.sub_self, List.head?_eq_getElem?]
  cases gap with
  | nil => exact endsPlain_of_mem_closers hd hpeek
  | cons e gap =>
    have hword : isWordEnd e = true := by
      rcases hgap e List.mem_cons_self with rfl | rfl | rfl <;> rfl
    rw [endsPlain, hpeek]
    simp [hword]

/-- A plain scalar in front of a mark takes the blanks behind it away. -/
theorem takePlain_append (hspaced : c.dialect = .spaced) (hne : cs ≠ []) (hcs : ∀ e ∈ cs, IsPlain e)
    (hgap : Common.IsGap gap) (hrest : c.rest = cs ++ (gap ++ d :: rest)) (hd : d ∈ closers) (indent : Int) :
    ∃ c' broken, takePlain true indent c = .ok ((String.ofList cs, c'), broken) ∧ c'.rest = d :: rest ∧
      Cursor.Past (cs ++ gap) c c' := by
  obtain ⟨hpast, hnext⟩ := Cursor.past_forward hrest
  obtain ⟨after, c', broken, hspaces, hc', hpast'⟩ := takePlainSpaces_gap hgap hnext hd
  have htabbed : c.isTabbed = false := by simp [Cursor.isTabbed, hspaced]
  have hhash : c.here ≠ '#' := by
    obtain ⟨e, more, rfl⟩ := List.exists_cons_of_ne_nil hne
    rw [Cursor.here_of_rest hrest]
    rintro rfl
    exact absurd (hcs '#' List.mem_cons_self) (by decide)
  have hlength : plainLength true c c.rest.length 0 = cs.length :=
    plainLength_append hrest hcs (endsPlain_of_gap hgap hd hrest) (Nat.zero_le _) (by simp [hrest])
  have htake : c.rest.take cs.length = cs := by rw [hrest, List.take_left]
  have hpos : cs.length ≠ 0 := fun hzero => hne (List.length_eq_zero_iff.mp hzero)
  -- the next stretch is empty
  have hlast : takePlainRest true (indent + 1) c.rest.length after broken c' = (([], c'), broken) := by
    obtain ⟨fuel, hfuel⟩ : ∃ fuel, c.rest.length = fuel + 1 := ⟨c.rest.length - 1, by simp [hrest]; omega⟩
    have hzero : plainLength true c' c'.rest.length 0 = 0 := by
      have hpeek : c'.peek 0 = d := by rw [Cursor.peek, hc']; rfl
      rw [hc', List.length_cons, plainLength, endsPlain_of_mem_closers hd hpeek, if_pos rfl]
    rw [hfuel, takePlainRest, hzero, ite_self]
    rfl
  -- so the first one is all of it, and what was passed over behind it is dropped
  have hread : takePlainRest true (indent + 1) (c.rest.length + 1) [] false c = ((cs, c'), broken) := by
    rw [takePlainRest, if_neg hhash, hlength]
    simp only [if_neg hpos, htake, hspaces, hlast, List.nil_append, List.append_nil]
    split_ifs <;> rfl
  refine ⟨c', broken, ?_, hc', hpast.trans hpast'⟩
  rw [takePlain, htabbed, hread]
  rfl

end

end Switchboard.Yaml
