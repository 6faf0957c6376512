import Switchboard.Proofs.Json.Lexeme
import Switchboard.Proofs.Template.Digits

/-!
The grammar of JSON, and the reader against it.

* `Writes` — how a value, the items of a list and the members of an object are written, together with what they stand
  for, for texts with the numbers that are admitted;
* `IsDocument` — one value with blanks around it;
* `Writes.isRead` — what is written is read, whatever follows;
* `readValue_writes`, `readItems_writes`, `readMembers_writes` — what is read is written there;
* `parse_eq_ok` — a text is read as a value exactly when it is a document of this value with no integer that is too
  long;
* `Writes.isShort`, `parse_isFault` — in a text without too many digits in a row every number is short, and whatever
  keeps the text from being read is a fault.

Design notes: items and members are parts of a text in their own right, so that one inductive predicate covers the
grammar and `induction` goes through all of it at once. The blanks stand where the reader drops them: behind every
value, and behind brackets, commas and colons.
-/
namespace Switchboard.Json

open Template (IsRun Brief)

/-! ### The grammar -/

/-- What a part of a text can stand for. -/
inductive Part where
  | value (v : Value)
  | items (vs : List Value)
  | members (ms : List (Key × Value))

/-- A text is that of a part, with the numbers that are admitted. Of several members with one key the last one
counts, in the place of the first (`Members.ofList`). -/
inductive Writes (admits : Numeral → Prop) : List Char → Part → Prop where
  | literal {word : String} {v : Value} (h : (word, v) ∈ literals) : Writes admits word.toList (.value v)
  | number {n : Numeral} {cs : List Char} {v : Value} (hn : n.Written cs) (hadmits : admits n) (hv : n.Means v) :
      Writes admits cs (.value v)
  | string {cs s : List Char} (h : StringBody cs s) :
      Writes admits ('"' :: (cs ++ ['"'])) (.value (.str (String.ofList s)))
  | emptyList {gap : List Char} (hgap : IsGap gap) : Writes admits ('[' :: (gap ++ [']'])) (.value (.list []))
  | list {gap cs : List Char} {vs : List Value} (hgap : IsGap gap) (h : Writes admits cs (.items vs)) :
      Writes admits ('[' :: (gap ++ cs ++ [']'])) (.value (.list vs))
  | emptyObject {gap : List Char} (hgap : IsGap gap) : Writes admits ('{' :: (gap ++ ['}'])) (.value (.object []))
  | object {gap cs : List Char} {ms : List (Key × Value)} (hgap : IsGap gap) (h : Writes admits cs (.members ms)) :
      Writes admits ('{' :: (gap ++ cs ++ ['}'])) (.value (.object (Members.ofList ms)))
  | lastItem {cs gap : List Char} {v : Value} (h : Writes admits cs (.value v)) (hgap : IsGap gap) :
      Writes admits (cs ++ gap) (.items [v])
  | item {cs gap gap' rest : List Char} {v : Value} {vs : List Value} (h : Writes admits cs (.value v))
      (hgap : IsGap gap) (hgap' : IsGap gap') (hrest : Writes admits rest (.items vs)) :
      Writes admits (cs ++ gap ++ ',' :: (gap' ++ rest)) (.items (v :: vs))
  | lastMember {name key gap₁ gap₂ cs gap₃ : List Char} {v : Value} (hname : StringBody name key) (hgap₁ : IsGap gap₁)
      (hgap₂ : IsGap gap₂) (h : Writes admits cs (.value v)) (hgap₃ : IsGap gap₃) :
      Writes admits ('"' :: (name ++ '"' :: (gap₁ ++ ':' :: (gap₂ ++ (cs ++ gap₃)))))
        (.members [(.text (String.ofList key), v)])
  | member {name key gap₁ gap₂ cs gap₃ gap₄ rest : List Char} {v : Value} {ms : List (Key × Value)}
      (hname : StringBody name key) (hgap₁ : IsGap gap₁) (hgap₂ : IsGap gap₂) (h : Writes admits cs (.value v))
      (hgap₃ : IsGap gap₃) (hgap₄ : IsGap gap₄) (hrest : Writes admits rest (.members ms)) :
      Writes admits ('"' :: (name ++ '"' :: (gap₁ ++ ':' :: (gap₂ ++ (cs ++ gap₃ ++ ',' :: (gap₄ ++ rest))))))
        (.members ((.text (String.ofList key), v) :: ms))

/-- Every number. -/
def Numeral.Any (_ : Numeral) : Prop := True

/-- A text is that of one value, with blanks around it. -/
def IsDocument (admits : Numeral → Prop) (cs : List Char) (v : Value) : Prop :=
  ∃ front body back, cs = front ++ (body ++ back) ∧ IsGap front ∧ Writes admits body (.value v) ∧ IsGap back

/-! ### How parts begin -/

/-- A character with which a word or a number can begin: neither blank nor a quote nor a bracket, nor the mark for
the order of bytes. -/
def StartsScalar (c : Char) : Prop := isSpace c = false ∧ c ∉ ['"', '[', ']', '{', '}', '\uFEFF']

instance (c : Char) : Decidable (StartsScalar c) := inferInstanceAs (Decidable (_ ∧ _))

theorem startsScalar_digit {c : Char} (h : Text.isDigit c = true) : StartsScalar c := by
  have hmarks : ∀ d ∈ [' ', '\t', '\n', '\r', '"', '[', ']', '{', '}', '\uFEFF'], Text.isDigit d = false := by
    simp [Text.isDigit]
  have hne : ∀ d ∈ [' ', '\t', '\n', '\r', '"', '[', ']', '{', '}', '\uFEFF'], c ≠ d :=
    fun d hd => digit_ne h (hmarks d hd)
  simp only [List.forall_mem_cons] at hne
  simp [StartsScalar, isSpace, hne]

theorem startsScalar_literal {word : String} {v : Value} (h : (word, v) ∈ literals) :
    ∃ c rest, word.toList = c :: rest ∧ StartsScalar c := by
  simp only [literals, List.mem_cons, Prod.mk.injEq, List.not_mem_nil, or_false] at h
  obtain ⟨rfl, -⟩ | ⟨rfl, -⟩ | ⟨rfl, -⟩ | ⟨rfl, -⟩ | ⟨rfl, -⟩ | ⟨rfl, -⟩ := h <;> exact ⟨_, _, rfl, by decide⟩

theorem startsScalar_written {n : Numeral} {cs : List Char} (h : n.Written cs) :
    ∃ c rest, cs = c :: rest ∧ StartsScalar c := by
  obtain ⟨d, rest, hdigit, rfl | rfl⟩ := h.head
  · exact ⟨d, rest, rfl, startsScalar_digit hdigit⟩
  · exact ⟨'-', d :: rest, rfl, by decide⟩

section
variable {admits admits' : Numeral → Prop}

/-- A part begins with what is neither blank nor a closing bracket, nor the mark for the order of bytes. -/
theorem Writes.head {cs : List Char} {part : Part} (h : Writes admits cs part) :
    ∃ c rest, cs = c :: rest ∧ isSpace c = false ∧ c ≠ ']' ∧ c ≠ '}' ∧ c ≠ '\uFEFF' := by
  have hscalar : ∀ {c}, StartsScalar c → isSpace c = false ∧ c ≠ ']' ∧ c ≠ '}' ∧ c ≠ '\uFEFF' := by
    rintro c ⟨hspace, hmarks⟩
    simp only [List.mem_cons, not_or] at hmarks
    exact ⟨hspace, hmarks.2.2.1, hmarks.2.2.2.2.1, hmarks.2.2.2.2.2.1⟩
  induction h with
  | literal h =>
    obtain ⟨c, rest, hcs, hc⟩ := startsScalar_literal h
    exact ⟨c, rest, hcs, hscalar hc⟩
  | number hn _ _ =>
    obtain ⟨c, rest, hcs, hc⟩ := startsScalar_written hn
    exact ⟨c, rest, hcs, hscalar hc⟩
  | string | emptyList | list | emptyObject | object | lastMember | member =>
    exact ⟨_, _, rfl, by decide, by decide, by decide, by decide⟩
  | lastItem _ _ ih | item _ _ _ _ ih _ =>
    obtain ⟨c, rest, rfl, hc⟩ := ih
    exact ⟨c, _, rfl, hc⟩

theorem Writes.length_pos {cs : List Char} {part : Part} (h : Writes admits cs part) : 0 < cs.length := by
  obtain ⟨c, rest, rfl, -⟩ := h.head
  exact Nat.succ_pos _

/-- The blanks in front of a part are passed over, and nothing of it. -/
theorem Writes.skip_append {cs : List Char} {part : Part} (h : Writes admits cs part) {gap : List Char}
    (hgap : IsGap gap) (rest : List Char) : skip (gap ++ (cs ++ rest)) = cs ++ rest := by
  obtain ⟨c, others, rfl, hspace, -⟩ := h.head
  refine Json.skip_append hgap fun d hd => ?_
  obtain rfl := Option.some.inj hd
  exact hspace

/-- With other numbers admitted, as long as those that are written stay admitted. -/
theorem Writes.mono {cs : List Char} {part : Part} (h : Writes admits cs part)
    (hadmits : ∀ (n : Numeral) (text : List Char), n.Written text → text <:+: cs → admits n → admits' n) :
    Writes admits' cs part := by
  -- what is asked of the numbers of a text is asked of those of its parts
  have hpart : ∀ {cs part : List Char},
      (∀ (n : Numeral) (text : List Char), n.Written text → text <:+: cs → admits n → admits' n) → part <:+: cs →
        ∀ (n : Numeral) (text : List Char), n.Written text → text <:+: part → admits n → admits' n :=
    fun hall hinfix n text htext hin => hall n text htext (hin.trans hinfix)
  induction h with
  | literal h => exact .literal h
  | number hn hadmitted hv => exact .number hn (hadmits _ _ hn List.infix_rfl hadmitted) hv
  | string h => exact .string h
  | emptyList hgap => exact .emptyList hgap
  | @list gap cs vs hgap _ ih => exact .list hgap (ih (hpart hadmits ⟨'[' :: gap, [']'], by simp⟩))
  | emptyObject hgap => exact .emptyObject hgap
  | @object gap cs ms hgap _ ih => exact .object hgap (ih (hpart hadmits ⟨'{' :: gap, ['}'], by simp⟩))
  | lastItem _ hgap ih => exact .lastItem (ih (hpart hadmits (List.prefix_append _ _).isInfix)) hgap
  | @item cs gap gap' rest v vs _ hgap hgap' _ ih ihrest =>
    exact .item (ih (hpart hadmits ⟨[], gap ++ ',' :: (gap' ++ rest), by simp⟩)) hgap hgap'
      (ihrest (hpart hadmits ⟨cs ++ gap ++ ',' :: gap', [], by simp⟩))
  | @lastMember name key gap₁ gap₂ cs gap₃ v hname hgap₁ hgap₂ _ hgap₃ ih =>
    exact .lastMember hname hgap₁ hgap₂
      (ih (hpart hadmits ⟨'"' :: (name ++ '"' :: (gap₁ ++ ':' :: gap₂)), gap₃, by simp⟩)) hgap₃
  | @member name key gap₁ gap₂ cs gap₃ gap₄ rest v ms hname hgap₁ hgap₂ _ hgap₃ hgap₄ _ ih ihrest =>
    exact .member hname hgap₁ hgap₂
      (ih (hpart hadmits ⟨'"' :: (name ++ '"' :: (gap₁ ++ ':' :: gap₂)), gap₃ ++ ',' :: (gap₄ ++ rest), by simp⟩))
      hgap₃ hgap₄
      (ihrest (hpart hadmits ⟨'"' :: (name ++ '"' :: (gap₁ ++ ':' :: (gap₂ ++ (cs ++ gap₃ ++ ',' :: gap₄)))), [],
        by simp⟩))

/-- In a brief text every number is short. -/
theorem Writes.isShort {cs : List Char} {part : Part} (h : Writes admits cs part) (hbrief : Brief cs) :
    Writes Numeral.IsShort cs part := by
  refine h.mono fun n text htext hin _ _ => ?_
  exact hbrief _ (htext.whole_isInfix.trans hin) htext.isDigit

theorem Writes.any {cs : List Char} {part : Part} (h : Writes admits cs part) : Writes Numeral.Any cs part :=
  h.mono fun _ _ _ _ _ => trivial

theorem IsDocument.any {cs : List Char} {v : Value} (h : IsDocument admits cs v) : IsDocument Numeral.Any cs v := by
  obtain ⟨front, body, back, hcs, hfront, hbody, hback⟩ := h
  exact ⟨front, body, back, hcs, hfront, hbody.any, hback⟩

theorem IsDocument.isShort {cs : List Char} {v : Value} (h : IsDocument admits cs v) (hbrief : Brief cs) :
    IsDocument Numeral.IsShort cs v := by
  obtain ⟨front, body, back, rfl, hfront, hbody, hback⟩ := h
  have hbody' : body <:+: front ++ (body ++ back) := ⟨front, back, by simp⟩
  exact ⟨front, body, back, rfl, hfront, hbody.isShort (hbrief.of_isInfix hbody'), hback⟩

/-- A document does not begin with the mark for the order of bytes. -/
theorem IsDocument.head?_ne {cs : List Char} {v : Value} (h : IsDocument admits cs v) :
    cs.head? ≠ some '\uFEFF' := by
  obtain ⟨front, body, back, rfl, hfront, hbody, -⟩ := h
  cases front with
  | nil =>
    obtain ⟨c, rest, rfl, -, -, -, hc⟩ := hbody.head
    exact fun h => hc (Option.some.inj h)
  | cons c front =>
    intro h
    obtain rfl := Option.some.inj h
    simpa [isSpace] using hfront _ List.mem_cons_self

end

/-! ### What is written is read -/

section
variable {fuel : Nat} {gap cs rest : List Char}

theorem readValue_scalar (h : ∀ c, cs.head? = some c → StartsScalar c) :
    readValue (fuel + 1) cs = readScalar cs := by
  have hne : ∀ c, cs.head? = some c → c ≠ '"' ∧ c ≠ '[' ∧ c ≠ '{' := by
    intro c hc
    obtain ⟨-, hbrackets⟩ := h c hc
    simp only [List.mem_cons, not_or] at hbrackets
    exact ⟨hbrackets.1, hbrackets.2.1, hbrackets.2.2.2.1⟩
  rw [readValue.eq_def]
  dsimp only
  split
  · exact absurd rfl (hne _ rfl).1
  · exact absurd rfl (hne _ rfl).2.1
  · exact absurd rfl (hne _ rfl).2.2
  · rfl

theorem readValue_list (hskip : skip (gap ++ cs) = cs) (hcs : ∀ c, cs.head? = some c → c ≠ ']') :
    readValue (fuel + 1) ('[' :: (gap ++ cs)) = (readItems fuel cs).map fun (items, r) => (.list items, r) := by
  rw [readValue, hskip]
  split
  · exact absurd rfl (hcs _ rfl)
  · rfl

theorem readValue_object (hskip : skip (gap ++ cs) = cs) (hcs : ∀ c, cs.head? = some c → c ≠ '}') :
    readValue (fuel + 1) ('{' :: (gap ++ cs))
      = (readMembers fuel cs).map fun (members, r) => (.object (Members.ofList members), r) := by
  rw [readValue, hskip]
  split
  · exact absurd rfl (hcs _ rfl)
  · rfl

/-- The last item of a list, with the closing bracket behind it. -/
theorem readItems_last {v : Value} (hfirst : readValue fuel cs = .ok (v, gap ++ ']' :: rest)) (hgap : IsGap gap) :
    readItems (fuel + 1) cs = .ok ([v], rest) := by
  rw [readItems, hfirst]
  dsimp only [bind, Except.bind]
  rw [skip_append_cons hgap (by decide)]
  rfl

/-- An item of a list, with a comma and further items behind it. -/
theorem readItems_cons {v : Value} {gap' more : List Char} {vs : List Value}
    (hfirst : readValue fuel cs = .ok (v, gap ++ ',' :: (gap' ++ more))) (hgap : IsGap gap)
    (hskip : skip (gap' ++ more) = more) (hmore : readItems fuel more = .ok (vs, rest)) :
    readItems (fuel + 1) cs = .ok (v :: vs, rest) := by
  rw [readItems, hfirst]
  dsimp only [bind, Except.bind]
  rw [skip_append_cons hgap (by decide)]
  change (readItems fuel (skip (gap' ++ more)) >>= fun read => pure (v :: read.1, read.2)) = _
  rw [hskip, hmore]
  rfl

variable {name key gap₁ gap₂ : List Char}

/-- A member up to the end of its value. -/
theorem readMembers_eq {v : Value} {after : List Char} (hname : StringBody name key) (hgap₁ : IsGap gap₁)
    (hskip : skip (gap₂ ++ cs) = cs) (hfirst : readValue fuel cs = .ok (v, after)) :
    readMembers (fuel + 1) ('"' :: (name ++ '"' :: (gap₁ ++ ':' :: (gap₂ ++ cs)))) =
      match skip after with
      | '}' :: rest => .ok ([(.text (String.ofList key), v)], rest)
      | ',' :: rest => (readMembers fuel (skip rest)).map fun read => ((.text (String.ofList key), v) :: read.1, read.2)
      | other => .error (.fault .comma other.length) := by
  rw [readMembers, readString_written hname]
  dsimp only [bind, Except.bind]
  rw [skip_append_cons hgap₁ (by decide)]
  change (readValue fuel (skip (gap₂ ++ cs)) >>= _) = _
  rw [hskip, hfirst]
  rfl

/-- The last member of an object, with the closing brace behind it. -/
theorem readMembers_last {v : Value} (hname : StringBody name key) (hgap₁ : IsGap gap₁) (hskip : skip (gap₂ ++ cs) = cs)
    (hfirst : readValue fuel cs = .ok (v, gap ++ '}' :: rest)) (hgap : IsGap gap) :
    readMembers (fuel + 1) ('"' :: (name ++ '"' :: (gap₁ ++ ':' :: (gap₂ ++ cs))))
      = .ok ([(.text (String.ofList key), v)], rest) := by
  rw [readMembers_eq hname hgap₁ hskip hfirst, skip_append_cons hgap (by decide)]
  rfl

/-- A member of an object, with a comma and further members behind it. -/
theorem readMembers_cons {v : Value} {gap' more : List Char} {ms : List (Key × Value)} (hname : StringBody name key)
    (hgap₁ : IsGap gap₁) (hskip : skip (gap₂ ++ cs) = cs)
    (hfirst : readValue fuel cs = .ok (v, gap ++ ',' :: (gap' ++ more))) (hgap : IsGap gap)
    (hskip' : skip (gap' ++ more) = more) (hmore : readMembers fuel more = .ok (ms, rest)) :
    readMembers (fuel + 1) ('"' :: (name ++ '"' :: (gap₁ ++ ':' :: (gap₂ ++ cs))))
      = .ok ((.text (String.ofList key), v) :: ms, rest) := by
  rw [readMembers_eq hname hgap₁ hskip hfirst, skip_append_cons hgap (by decide)]
  change (readMembers fuel (skip (gap' ++ more))).map _ = _
  rw [hskip', hmore]
  rfl

end

/-- The reader makes of a text what it stands for, with enough fuel and whatever follows. -/
def Part.IsRead : Part → List Char → Prop
  | .value v, cs => ∀ fuel rest, EndsNumeral rest → 2 * cs.length ≤ fuel + 1 →
      readValue fuel (cs ++ rest) = .ok (v, rest)
  | .items vs, cs => ∀ fuel rest, 2 * cs.length ≤ fuel → readItems fuel (cs ++ ']' :: rest) = .ok (vs, rest)
  | .members ms, cs => ∀ fuel rest, 2 * cs.length ≤ fuel → readMembers fuel (cs ++ '}' :: rest) = .ok (ms, rest)

/-- No blank belongs to a number. -/
theorem endsNumeral_cons_space {c : Char} {rest : List Char} (hc : isSpace c = true) : EndsNumeral (c :: rest) := by
  intro d hd
  obtain rfl := Option.some.inj hd
  simp only [isSpace, Bool.or_eq_true, decide_eq_true_eq] at hc
  obtain ((rfl | rfl) | rfl) | rfl := hc <;> decide

/-- A number ends where blanks begin, or one of the signs behind them. -/
theorem endsNumeral_gap {gap rest : List Char} {c : Char} (hgap : IsGap gap) (hc : c ∈ [',', ']', '}']) :
    EndsNumeral (gap ++ c :: rest) := by
  cases gap with
  | nil =>
    intro d hd
    obtain rfl := Option.some.inj hd
    simp only [List.mem_cons, List.not_mem_nil, or_false] at hc
    obtain rfl | rfl | rfl := hc <;> decide
  | cons e gap => exact endsNumeral_cons_space (hgap e List.mem_cons_self)

theorem endsNumeral_of_isGap {gap : List Char} (hgap : IsGap gap) : EndsNumeral gap := by
  cases gap with
  | nil => simp [EndsNumeral]
  | cons e gap => exact endsNumeral_cons_space (hgap e List.mem_cons_self)

theorem Writes.isRead {cs : List Char} {part : Part} (h : Writes Numeral.IsShort cs part) : part.IsRead cs := by
  -- A value takes one step of fuel beyond those of its parts, and so does each item and each member. Two steps for each
  -- character suffice, and one less for a value: an item can have the same text, and takes one step more.
  induction h with
  | @literal word v h =>
    intro fuel rest _ hfuel
    obtain ⟨c, others, hword, hc⟩ := startsScalar_literal h
    rw [hword, List.length_cons] at hfuel
    obtain ⟨fuel, rfl⟩ : ∃ k, fuel = k + 1 := ⟨fuel - 1, by omega⟩
    rw [readValue_scalar, readScalar_literal h]
    intro d hd
    rw [hword] at hd
    exact Option.some.inj hd ▸ hc
  | @number n cs v hn hshort hv =>
    intro fuel rest hrest hfuel
    obtain ⟨c, others, rfl, hc⟩ := startsScalar_written hn
    rw [List.length_cons] at hfuel
    obtain ⟨fuel, rfl⟩ : ∃ k, fuel = k + 1 := ⟨fuel - 1, by omega⟩
    have hstart : ∀ d, (c :: others ++ rest).head? = some d → StartsScalar d :=
      fun d hd => Option.some.inj hd ▸ hc
    rw [readValue_scalar hstart, readScalar_numeral hn hrest, Numeral.value_eq_ok.mpr ⟨hv, hshort⟩]
    rfl
  | @string cs s h =>
    intro fuel rest _ hfuel
    rw [List.length_cons] at hfuel
    obtain ⟨fuel, rfl⟩ : ∃ k, fuel = k + 1 := ⟨fuel - 1, by omega⟩
    have hsplit : '"' :: (cs ++ ['"']) ++ rest = '"' :: (cs ++ '"' :: rest) := by simp
    rw [hsplit, readValue, readString_written h]
    rfl
  | @emptyList gap hgap =>
    intro fuel rest _ hfuel
    rw [List.length_cons] at hfuel
    obtain ⟨fuel, rfl⟩ : ∃ k, fuel = k + 1 := ⟨fuel - 1, by omega⟩
    have hsplit : '[' :: (gap ++ [']']) ++ rest = '[' :: (gap ++ ']' :: rest) := by simp
    rw [hsplit, readValue, skip_append_cons hgap (by decide)]
    rfl
  | @list gap cs vs hgap h ih =>
    intro fuel rest _ hfuel
    simp only [List.length_cons, List.length_append, List.length_nil] at hfuel
    obtain ⟨fuel, rfl⟩ : ∃ k, fuel = k + 1 := ⟨fuel - 1, by omega⟩
    have hsplit : '[' :: (gap ++ cs ++ [']']) ++ rest = '[' :: (gap ++ (cs ++ ']' :: rest)) := by simp
    have hclose : ∀ c, (cs ++ ']' :: rest).head? = some c → c ≠ ']' := by
      obtain ⟨c, others, rfl, -, hc, -⟩ := h.head
      exact fun d hd => Option.some.inj hd ▸ hc
    rw [hsplit, readValue_list (h.skip_append hgap _) hclose, ih fuel rest (by omega)]
    rfl
  | @emptyObject gap hgap =>
    intro fuel rest _ hfuel
    rw [List.length_cons] at hfuel
    obtain ⟨fuel, rfl⟩ : ∃ k, fuel = k + 1 := ⟨fuel - 1, by omega⟩
    have hsplit : '{' :: (gap ++ ['}']) ++ rest = '{' :: (gap ++ '}' :: rest) := by simp
    rw [hsplit, readValue, skip_append_cons hgap (by decide)]
    rfl
  | @object gap cs ms hgap h ih =>
    intro fuel rest _ hfuel
    simp only [List.length_cons, List.length_append, List.length_nil] at hfuel
    obtain ⟨fuel, rfl⟩ : ∃ k, fuel = k + 1 := ⟨fuel - 1, by omega⟩
    have hsplit : '{' :: (gap ++ cs ++ ['}']) ++ rest = '{' :: (gap ++ (cs ++ '}' :: rest)) := by simp
    have hclose : ∀ c, (cs ++ '}' :: rest).head? = some c → c ≠ '}' := by
      obtain ⟨c, others, rfl, -, -, hc, -⟩ := h.head
      exact fun d hd => Option.some.inj hd ▸ hc
    rw [hsplit, readValue_object (h.skip_append hgap _) hclose, ih fuel rest (by omega)]
    rfl
  | @lastItem cs gap v h hgap ih =>
    intro fuel rest hfuel
    have hpos := h.length_pos
    simp only [List.length_append] at hfuel
    obtain ⟨fuel, rfl⟩ : ∃ k, fuel = k + 1 := ⟨fuel - 1, by omega⟩
    have hfirst := ih fuel (gap ++ ']' :: rest) (endsNumeral_gap hgap (by simp)) (by omega)
    rw [List.append_assoc, readItems_last hfirst hgap]
  | @item cs gap gap' more v vs h hgap hgap' hmore ih ihmore =>
    intro fuel rest hfuel
    simp only [List.length_append, List.length_cons] at hfuel
    obtain ⟨fuel, rfl⟩ : ∃ k, fuel = k + 1 := ⟨fuel - 1, by omega⟩
    have hfirst := ih fuel (gap ++ ',' :: (gap' ++ (more ++ ']' :: rest))) (endsNumeral_gap hgap (by simp)) (by omega)
    have hread := readItems_cons hfirst hgap (hmore.skip_append hgap' _) (ihmore fuel rest (by omega))
    simpa using hread
  | @lastMember name key gap₁ gap₂ cs gap₃ v hname hgap₁ hgap₂ h hgap₃ ih =>
    intro fuel rest hfuel
    simp only [List.length_append, List.length_cons] at hfuel
    obtain ⟨fuel, rfl⟩ : ∃ k, fuel = k + 1 := ⟨fuel - 1, by omega⟩
    have hfirst := ih fuel (gap₃ ++ '}' :: rest) (endsNumeral_gap hgap₃ (by simp)) (by omega)
    have hread := readMembers_last hname hgap₁ (h.skip_append hgap₂ _) hfirst hgap₃
    simpa using hread
  | @member name key gap₁ gap₂ cs gap₃ gap₄ more v ms hname hgap₁ hgap₂ h hgap₃ hgap₄ hmore ih ihmore =>
    intro fuel rest hfuel
    simp only [List.length_append, List.length_cons] at hfuel
    obtain ⟨fuel, rfl⟩ : ∃ k, fuel = k + 1 := ⟨fuel - 1, by omega⟩
    have hfirst := ih fuel (gap₃ ++ ',' :: (gap₄ ++ (more ++ '}' :: rest))) (endsNumeral_gap hgap₃ (by simp)) (by omega)
    have hread := readMembers_cons hname hgap₁ (h.skip_append hgap₂ _) hfirst hgap₃ (hmore.skip_append hgap₄ _)
      (ihmore fuel rest (by omega))
    simpa using hread

/-! ### What is read is written -/

-- The recursion is that of the reader, on its fuel. What the reader passes over as blank is put back as a gap, so that
-- the text it was given is that of the part up to what it leaves.
mutual

/-- What is read as a value is written there, with no integer that is too long. -/
theorem readValue_writes : {fuel : Nat} → {cs rest : List Char} → {v : Value} →
    readValue fuel cs = .ok (v, rest) → ∃ body, Writes Numeral.IsShort body (.value v) ∧ cs = body ++ rest
  | 0, cs, rest, v, h => by simp [readValue] at h
  | fuel + 1, cs, rest, v, h => by
    rw [readValue.eq_def] at h
    dsimp only at h
    split at h
    · obtain ⟨⟨s, r⟩, hs, hpair⟩ := map_eq_ok.mp h
      obtain ⟨rfl, rfl⟩ := Prod.mk.inj hpair
      obtain ⟨body, hbody, rfl⟩ := readString_sound hs
      exact ⟨_, .string hbody, by simp⟩
    · next inner =>
      obtain ⟨gap, hgap, hinner⟩ := exists_gap inner
      split at h
      · next hclose =>
        obtain ⟨rfl, rfl⟩ := Prod.mk.inj (Except.ok.inj h)
        rw [hclose] at hinner
        exact ⟨_, .emptyList hgap, by rw [hinner]; simp⟩
      · obtain ⟨⟨items, r⟩, hitems, hpair⟩ := map_eq_ok.mp h
        obtain ⟨rfl, rfl⟩ := Prod.mk.inj hpair
        obtain ⟨body, hbody, hsplit⟩ := readItems_writes hitems
        rw [hsplit] at hinner
        exact ⟨_, .list hgap hbody, by rw [hinner]; simp⟩
    · next inner =>
      obtain ⟨gap, hgap, hinner⟩ := exists_gap inner
      split at h
      · next hclose =>
        obtain ⟨rfl, rfl⟩ := Prod.mk.inj (Except.ok.inj h)
        rw [hclose] at hinner
        exact ⟨_, .emptyObject hgap, by rw [hinner]; simp⟩
      · obtain ⟨⟨members, r⟩, hmembers, hpair⟩ := map_eq_ok.mp h
        obtain ⟨rfl, rfl⟩ := Prod.mk.inj hpair
        obtain ⟨body, hbody, hsplit⟩ := readMembers_writes hmembers
        rw [hsplit] at hinner
        exact ⟨_, .object hgap hbody, by rw [hinner]; simp⟩
    · rcases readScalar_sound h with ⟨word, hword, rfl⟩ | ⟨n, text, htext, hmeans, hshort, rfl⟩
      · exact ⟨_, .literal hword, rfl⟩
      · exact ⟨_, .number htext hshort hmeans, rfl⟩

/-- What is read as the items of a list is written there, with the closing bracket behind it. -/
theorem readItems_writes : {fuel : Nat} → {cs rest : List Char} → {vs : List Value} →
    readItems fuel cs = .ok (vs, rest) → ∃ body, Writes Numeral.IsShort body (.items vs) ∧ cs = body ++ ']' :: rest
  | 0, cs, rest, vs, h => by simp [readItems] at h
  | fuel + 1, cs, rest, vs, h => by
    rw [readItems.eq_def] at h
    dsimp only at h
    obtain ⟨⟨first, after⟩, hfirst, h⟩ := bind_eq_ok.mp h
    obtain ⟨body, hbody, hcs⟩ := readValue_writes hfirst
    obtain ⟨gap, hgap, hafter⟩ := exists_gap after
    dsimp only at h
    split at h
    · next hclose =>
      obtain ⟨rfl, rfl⟩ := Prod.mk.inj (Except.ok.inj h)
      rw [hclose] at hafter
      exact ⟨_, .lastItem hbody hgap, by rw [hcs, hafter]; simp⟩
    · next behind hcomma =>
      obtain ⟨⟨others, r⟩, hothers, h⟩ := bind_eq_ok.mp h
      obtain ⟨rfl, rfl⟩ := Prod.mk.inj (Except.ok.inj h)
      obtain ⟨gap', hgap', hbehind⟩ := exists_gap behind
      obtain ⟨more, hmore, hsplit⟩ := readItems_writes hothers
      rw [hcomma, hbehind, hsplit] at hafter
      exact ⟨_, .item hbody hgap hgap' hmore, by rw [hcs, hafter]; simp⟩
    · simp at h

/-- What is read as the members of an object is written there, with the closing brace behind it. -/
theorem readMembers_writes : {fuel : Nat} → {cs rest : List Char} → {ms : List (Key × Value)} →
    readMembers fuel cs = .ok (ms, rest) →
      ∃ body, Writes Numeral.IsShort body (.members ms) ∧ cs = body ++ '}' :: rest
  | 0, cs, rest, ms, h => by simp [readMembers] at h
  | fuel + 1, cs, rest, ms, h => by
    rw [readMembers.eq_def] at h
    dsimp only at h
    split at h
    · obtain ⟨⟨name, afterName⟩, hname, h⟩ := bind_eq_ok.mp h
      obtain ⟨nameText, hnameText, hcs⟩ := readString_sound hname
      obtain ⟨gap₁, hgap₁, hafterName⟩ := exists_gap afterName
      dsimp only at h
      split at h
      · next afterColon hcolon =>
        obtain ⟨⟨first, after⟩, hfirst, h⟩ := bind_eq_ok.mp h
        obtain ⟨gap₂, hgap₂, hafterColon⟩ := exists_gap afterColon
        obtain ⟨body, hbody, hsplit⟩ := readValue_writes hfirst
        obtain ⟨gap₃, hgap₃, hafter⟩ := exists_gap after
        dsimp only at h
        split at h
        · next hclose =>
          obtain ⟨rfl, rfl⟩ := Prod.mk.inj (Except.ok.inj h)
          rw [hclose] at hafter
          rw [hcolon, hafterColon, hsplit, hafter] at hafterName
          exact ⟨_, .lastMember hnameText hgap₁ hgap₂ hbody hgap₃, by rw [hcs, hafterName]; simp⟩
        · next behind hcomma =>
          obtain ⟨⟨others, r⟩, hothers, h⟩ := bind_eq_ok.mp h
          obtain ⟨rfl, rfl⟩ := Prod.mk.inj (Except.ok.inj h)
          obtain ⟨gap₄, hgap₄, hbehind⟩ := exists_gap behind
          obtain ⟨more, hmore, hmoreSplit⟩ := readMembers_writes hothers
          rw [hcomma, hbehind, hmoreSplit] at hafter
          rw [hcolon, hafterColon, hsplit, hafter] at hafterName
          exact ⟨_, .member hnameText hgap₁ hgap₂ hbody hgap₃ hgap₄ hmore, by rw [hcs, hafterName]; simp⟩
        · simp at h
      · simp at h
    · simp at h

end

/-- Without the mark for the order of bytes, a text is read as a value with blanks around it. -/
theorem parse_eq_bind {cs : List Char} (h : cs.head? ≠ some '\uFEFF') :
    parse cs = (readValue (fuelFor cs) (skip cs)).bind fun read =>
      match skip read.2 with
      | [] => .ok read.1
      | extra => .error (.fault .extra extra.length) := by
  rw [parse.eq_def]
  split
  · exact absurd rfl h
  · rfl

/-- **What a text is read as.** A text is read as a value exactly when it is a document of this value with no integer
that is too long. -/
theorem parse_eq_ok {cs : List Char} {v : Value} : parse cs = .ok v ↔ IsDocument Numeral.IsShort cs v := by
  constructor
  · intro h
    rw [parse.eq_def] at h
    split at h
    · simp at h
    · obtain ⟨⟨w, rest⟩, hread, h⟩ := bind_eq_ok.mp h
      obtain ⟨front, hfront, hcs⟩ := exists_gap cs
      obtain ⟨body, hbody, hsplit⟩ := readValue_writes hread
      obtain ⟨back, hback, hrest⟩ := exists_gap rest
      dsimp only at h
      split at h
      · next hend =>
        obtain rfl := Except.ok.inj h
        rw [hend, List.append_nil] at hrest
        exact ⟨front, body, back, by rw [hcs, hsplit, ← hrest], hfront, hbody, hback⟩
      · simp at h
  · intro hdocument
    have hmark := hdocument.head?_ne
    obtain ⟨front, body, back, rfl, hfront, hbody, hback⟩ := hdocument
    have hfuel : 2 * body.length ≤ fuelFor (front ++ (body ++ back)) + 1 := by
      simp only [fuelFor, List.length_append]
      omega
    have hend : skip back = [] := List.dropWhile_eq_nil_iff.mpr hback
    rw [parse_eq_bind hmark, hbody.skip_append hfront,
      hbody.isRead (fuelFor (front ++ (body ++ back))) back (endsNumeral_of_isGap hback) hfuel]
    simp only [Except.bind, hend]

/-! ### Brief texts -/

theorem skip_isSuffix (cs : List Char) : skip cs <:+ cs := List.dropWhile_suffix _

/-- A string has no number in it. -/
theorem readString_isFault {opening : Nat} {cs : List Char} {e : ReadError} (h : readString opening cs = .error e) :
    e.isFault = true := by
  fun_induction readString opening cs with
  | case2 => simp at h
  | case6 | case7 | case8 | case10 | case13 | case15 => rename_i ih; exact ih (map_eq_error.mp h)
  | case1 | case3 | case4 | case5 | case9 | case11 | case12 | case14 =>
    obtain rfl := Except.error.inj h
    rfl

theorem readScalar_isFault {cs : List Char} {e : ReadError} (hbrief : Brief cs) (h : readScalar cs = .error e) :
    e.isFault = true := by
  rw [readScalar] at h
  split at h
  · simp at h
  · split at h
    · next n after hread =>
      obtain ⟨text, htext, rfl⟩ := readNumeral?_sound hread
      obtain ⟨-, hlong⟩ := Numeral.value_eq_error (map_eq_error.mp h)
      have hdigits := htext.whole_isInfix.trans (List.prefix_append text after).isInfix
      exact absurd (hbrief _ hdigits htext.isDigit) (Nat.not_le.mpr hlong)
    · obtain rfl := Except.error.inj h
      rfl

-- What is left behind an item or a member stands at the end of the text, and is brief as the text is.
mutual

/-- In a brief text whatever keeps a value from being read is a fault. -/
theorem readValue_isFault : {fuel : Nat} → {cs : List Char} → {e : ReadError} → Brief cs →
    readValue fuel cs = .error e → e.isFault = true
  | 0, cs, e, _, h => by
    obtain rfl := Except.error.inj h
    rfl
  | fuel + 1, cs, e, hbrief, h => by
    rw [readValue.eq_def] at h
    dsimp only at h
    split at h
    · exact readString_isFault (map_eq_error.mp h)
    · next inner =>
      split at h
      · simp at h
      · have hinner := (skip_isSuffix inner).trans (List.suffix_cons '[' inner)
        exact readItems_isFault (hbrief.of_isInfix hinner.isInfix) (map_eq_error.mp h)
    · next inner =>
      split at h
      · simp at h
      · have hinner := (skip_isSuffix inner).trans (List.suffix_cons '{' inner)
        exact readMembers_isFault (hbrief.of_isInfix hinner.isInfix) (map_eq_error.mp h)
    · exact readScalar_isFault hbrief h

theorem readItems_isFault : {fuel : Nat} → {cs : List Char} → {e : ReadError} → Brief cs →
    readItems fuel cs = .error e → e.isFault = true
  | 0, cs, e, _, h => by
    obtain rfl := Except.error.inj h
    rfl
  | fuel + 1, cs, e, hbrief, h => by
    rw [readItems.eq_def] at h
    dsimp only at h
    rcases bind_eq_error.mp h with hfirst | ⟨⟨first, after⟩, hfirst, h⟩
    · exact readValue_isFault hbrief hfirst
    obtain ⟨body, -, hcs⟩ := readValue_writes hfirst
    have hafter : skip after <:+ cs := (skip_isSuffix after).trans ⟨body, hcs.symm⟩
    dsimp only at h
    split at h
    · simp [pure, Except.pure] at h
    · next behind hcomma =>
      have hbehind := (skip_isSuffix behind).trans ((List.suffix_cons ',' behind).trans (hcomma ▸ hafter))
      rcases bind_eq_error.mp h with hothers | ⟨_, _, h⟩
      · exact readItems_isFault (hbrief.of_isInfix hbehind.isInfix) hothers
      · simp [pure, Except.pure] at h
    · obtain rfl := Except.error.inj h
      rfl

theorem readMembers_isFault : {fuel : Nat} → {cs : List Char} → {e : ReadError} → Brief cs →
    readMembers fuel cs = .error e → e.isFault = true
  | 0, cs, e, _, h => by
    obtain rfl := Except.error.inj h
    rfl
  | fuel + 1, cs, e, hbrief, h => by
    rw [readMembers.eq_def] at h
    dsimp only at h
    split at h
    · next inner =>
      rcases bind_eq_error.mp h with hname | ⟨⟨name, afterName⟩, hname, h⟩
      · exact readString_isFault hname
      obtain ⟨nameText, -, hinner⟩ := readString_sound hname
      have hafterName : skip afterName <:+ '"' :: inner :=
        (skip_isSuffix afterName).trans ⟨'"' :: nameText ++ ['"'], by simp [hinner]⟩
      dsimp only at h
      split at h
      · next afterColon hcolon =>
        have hafterColon :=
          (skip_isSuffix afterColon).trans ((List.suffix_cons ':' afterColon).trans (hcolon ▸ hafterName))
        rcases bind_eq_error.mp h with hfirst | ⟨⟨first, after⟩, hfirst, h⟩
        · exact readValue_isFault (hbrief.of_isInfix hafterColon.isInfix) hfirst
        obtain ⟨body, -, hbody⟩ := readValue_writes hfirst
        have hafter := (skip_isSuffix after).trans (List.IsSuffix.trans ⟨body, hbody.symm⟩ hafterColon)
        dsimp only at h
        split at h
        · simp [pure, Except.pure] at h
        · next behind hcomma =>
          have hbehind := (skip_isSuffix behind).trans ((List.suffix_cons ',' behind).trans (hcomma ▸ hafter))
          rcases bind_eq_error.mp h with hothers | ⟨_, _, h⟩
          · exact readMembers_isFault (hbrief.of_isInfix hbehind.isInfix) hothers
          · simp [pure, Except.pure] at h
        · obtain rfl := Except.error.inj h
          rfl
      · obtain rfl := Except.error.inj h
        rfl
    · obtain rfl := Except.error.inj h
      rfl

end

/-- In a brief text whatever keeps it from being read is a fault. -/
theorem parse_isFault {cs : List Char} {e : ReadError} (hbrief : Brief cs) (h : parse cs = .error e) :
    e.isFault = true := by
  rw [parse.eq_def] at h
  split at h
  · obtain rfl := Except.error.inj h
    rfl
  · rcases bind_eq_error.mp h with hread | ⟨⟨v, rest⟩, -, h⟩
    · exact readValue_isFault (hbrief.of_isInfix (skip_isSuffix cs).isInfix) hread
    · dsimp only at h
      split at h
      · simp [pure, Except.pure] at h
      · obtain rfl := Except.error.inj h
        rfl

end Switchboard.Json
