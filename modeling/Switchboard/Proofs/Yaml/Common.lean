import Switchboard.Proofs.Json.Grammar
import Switchboard.Proofs.Yaml.Number
import Switchboard.Yaml.Token

/-!
The JSON texts that YAML reads as JSON does.

* `Common.Body`, `Common.IsName`, `Common.Writes` — the inside of a string, a name up to its colon, and whole values,
  as far as both notations agree on them;
* `Common.Writes.json` — such a text is JSON, of the same value;
* `Common.Writes.printable` — it has no character that YAML refuses.

What is left out is what the notations read differently: tabs between the parts of a text, names that are not on one
line with their colon or too far in front of it, halves of pairs that belong together, characters that end lines for
one notation alone, exponents without a fraction or a sign, and the words for numbers that are not finite.
-/
namespace Switchboard.Yaml.Common

open Json (Numeral Part StartsLow isHigh unit? unitChar simpleEscape?)

/-- Blanks that both notations pass over. -/
def IsGap (cs : List Char) : Prop := ∀ c ∈ cs, c = ' ' ∨ c = '\n' ∨ c = '\r'

/-- The inside of a string, and the characters that it stands for. An escape for half a pair stands alone. -/
inductive Body : List Char → List Char → Prop where
  | nil : Body [] []
  | plain {c : Char} {cs s : List Char} (hquote : c ≠ '"') (hback : c ≠ '\\') (hcontrol : 0x20 ≤ c.toNat)
      (hprintable : isPrintable c = true) (hbreak : isLineBreak c = false) (h : Body cs s) : Body (c :: cs) (c :: s)
  | short {c d : Char} {cs s : List Char} (hc : simpleEscape? c = some d) (h : Body cs s) :
      Body ('\\' :: c :: cs) (d :: s)
  | unit {a b c d : Char} {n : Nat} {cs s : List Char} (hn : unit? a b c d = some n)
      (halone : isHigh n = true → ¬ StartsLow cs) (h : Body cs s) :
      Body ('\\' :: 'u' :: a :: b :: c :: d :: cs) (unitChar n :: s)

/-- A name and what stands between it and its colon: nothing but spaces, and not too many characters in all. -/
structure IsName (name gap key : List Char) : Prop where
  body : Body name key
  spaces : ∀ c ∈ gap, c = ' '
  near : name.length + 2 + gap.length ≤ Scanner.keyLimit

/-- The words. -/
def words : List (String × Value) := [("null", .null), ("true", .bool true), ("false", .bool false)]

/-- A text is that of a part, for both notations. -/
inductive Writes : List Char → Part → Prop where
  | word {word : String} {v : Value} (h : (word, v) ∈ words) : Writes word.toList (.value v)
  | number {n : Numeral} {cs : List Char} {v : Value} (hn : Number n cs) (hshort : n.IsShort) (hv : n.Means v) :
      Writes cs (.value v)
  | string {cs s : List Char} (h : Body cs s) : Writes ('"' :: (cs ++ ['"'])) (.value (.str (String.ofList s)))
  | emptyList {gap : List Char} (hgap : IsGap gap) : Writes ('[' :: (gap ++ [']'])) (.value (.list []))
  | list {gap cs : List Char} {vs : List Value} (hgap : IsGap gap) (h : Writes cs (.items vs)) :
      Writes ('[' :: (gap ++ cs ++ [']'])) (.value (.list vs))
  | emptyObject {gap : List Char} (hgap : IsGap gap) : Writes ('{' :: (gap ++ ['}'])) (.value (.object []))
  | object {gap cs : List Char} {ms : List (Key × Value)} (hgap : IsGap gap) (h : Writes cs (.members ms)) :
      Writes ('{' :: (gap ++ cs ++ ['}'])) (.value (.object (Members.ofList ms)))
  | lastItem {cs gap : List Char} {v : Value} (h : Writes cs (.value v)) (hgap : IsGap gap) :
      Writes (cs ++ gap) (.items [v])
  | item {cs gap gap' rest : List Char} {v : Value} {vs : List Value} (h : Writes cs (.value v)) (hgap : IsGap gap)
      (hgap' : IsGap gap') (hrest : Writes rest (.items vs)) :
      Writes (cs ++ gap ++ ',' :: (gap' ++ rest)) (.items (v :: vs))
  | lastMember {name key gap₁ gap₂ cs gap₃ : List Char} {v : Value} (hname : IsName name gap₁ key) (hgap₂ : IsGap gap₂)
      (h : Writes cs (.value v)) (hgap₃ : IsGap gap₃) :
      Writes ('"' :: (name ++ '"' :: (gap₁ ++ ':' :: (gap₂ ++ (cs ++ gap₃)))))
        (.members [(.text (String.ofList key), v)])
  | member {name key gap₁ gap₂ cs gap₃ gap₄ rest : List Char} {v : Value} {ms : List (Key × Value)}
      (hname : IsName name gap₁ key) (hgap₂ : IsGap gap₂) (h : Writes cs (.value v)) (hgap₃ : IsGap gap₃)
      (hgap₄ : IsGap gap₄) (hrest : Writes rest (.members ms)) :
      Writes ('"' :: (name ++ '"' :: (gap₁ ++ ':' :: (gap₂ ++ (cs ++ gap₃ ++ ',' :: (gap₄ ++ rest))))))
        (.members ((.text (String.ofList key), v) :: ms))

/-- A text is that of one object, with blanks around it. -/
def IsDocument (cs : List Char) (ms : List (Key × Value)) : Prop :=
  ∃ front body back, cs = front ++ (body ++ back) ∧ IsGap front ∧ Writes body (.value (.object ms)) ∧ IsGap back

theorem Writes.exists_brace {cs : List Char} {ms : List (Key × Value)} (h : Writes cs (.value (.object ms))) :
    ∃ rest, cs = '{' :: rest := by
  cases h with
  | word hword => simp [words] at hword
  | number _ _ hv => cases hv
  | emptyObject _ | object _ _ => exact ⟨_, rfl⟩

/-! ### These texts are JSON -/

theorem IsGap.json {cs : List Char} (h : IsGap cs) : Json.IsGap cs := by
  intro c hc
  rcases h c hc with rfl | rfl | rfl <;> rfl

theorem Body.json {cs s : List Char} (h : Body cs s) : Json.StringBody cs s := by
  induction h with
  | nil => exact .nil
  | plain hquote hback hcontrol _ _ _ ih => exact .plain hquote hback hcontrol ih
  | short hc _ ih => exact .short hc ih
  | unit hn halone _ ih => exact .unit hn halone ih

theorem IsName.isGap {name gap key : List Char} (h : IsName name gap key) : Json.IsGap gap :=
  fun c hc => by rw [h.spaces c hc]; rfl

theorem mem_literals_of_mem_words {word : String} {v : Value} (h : (word, v) ∈ words) : (word, v) ∈ Json.literals := by
  simp only [words, List.mem_cons, Prod.mk.injEq, List.not_mem_nil, or_false] at h
  obtain ⟨rfl, rfl⟩ | ⟨rfl, rfl⟩ | ⟨rfl, rfl⟩ := h <;> simp [Json.literals]

theorem Writes.json {cs : List Char} {part : Part} (h : Writes cs part) : Json.Writes Numeral.IsShort cs part := by
  induction h with
  | word h => exact .literal (mem_literals_of_mem_words h)
  | number hn hshort hv => exact .number hn.written hshort hv
  | string h => exact .string h.json
  | emptyList hgap => exact .emptyList hgap.json
  | list hgap _ ih => exact .list hgap.json ih
  | emptyObject hgap => exact .emptyObject hgap.json
  | object hgap _ ih => exact .object hgap.json ih
  | lastItem _ hgap ih => exact .lastItem ih hgap.json
  | item _ hgap hgap' _ ih ihrest => exact .item ih hgap.json hgap'.json ihrest
  | lastMember hname hgap₂ _ hgap₃ ih => exact .lastMember hname.body.json hname.isGap hgap₂.json ih hgap₃.json
  | member hname hgap₂ _ hgap₃ hgap₄ _ ih ihrest =>
    exact .member hname.body.json hname.isGap hgap₂.json ih hgap₃.json hgap₄.json ihrest

/-- A document is read as its object by JSON. -/
theorem IsDocument.parse_eq {cs : List Char} {ms : List (Key × Value)} (h : IsDocument cs ms) :
    Json.parse cs = .ok (.object ms) := by
  obtain ⟨front, body, back, hcs, hfront, hbody, hback⟩ := h
  exact Json.parse_eq_ok.mpr ⟨front, body, back, hcs, hfront.json, hbody.json, hback.json⟩

/-! ### Their characters -/

theorem IsGap.printable {cs : List Char} (h : IsGap cs) : ∀ c ∈ cs, isPrintable c = true := by
  intro c hc
  rcases h c hc with rfl | rfl | rfl <;> rfl

/-- A character that both notations take for a part of a line. -/
def InLine (c : Char) : Prop := isPrintable c = true ∧ isLineBreak c = false

theorem inLine_of_ascii {c : Char} (hlow : 0x20 ≤ c.toNat) (hhigh : c.toNat ≤ 0x7E) : InLine c := by
  have hne : ∀ d : Char, d.toNat < 0x20 ∨ 0x7E < d.toNat → c ≠ d := by
    rintro d hd rfl
    omega
  refine ⟨by simp [isPrintable, hlow, hhigh], ?_⟩
  simp [isLineBreak, hne '\n' (by decide), hne '\r' (by decide), hne '\x85' (by decide), hne '\u2028' (by decide),
    hne '\u2029' (by decide)]

/-- The digits of base sixteen lie in three ranges. -/
theorem cases_of_hexValue? {c : Char} {n : Nat} (h : Text.hexValue? c = some n) :
    (48 ≤ c.toNat ∧ c.toNat ≤ 57 ∧ n = c.toNat - 48) ∨ (97 ≤ c.toNat ∧ c.toNat ≤ 102 ∧ n = c.toNat - 97 + 10) ∨
      (65 ≤ c.toNat ∧ c.toNat ≤ 70 ∧ n = c.toNat - 65 + 10) := by
  have hle : ∀ a b : Char, a ≤ b ↔ a.toNat ≤ b.toNat := fun a b => by
    rw [Char.le_def, UInt32.le_iff_toNat_le]
    rfl
  rw [Text.hexValue?, Text.isDigit, Text.digitValue] at h
  simp only [hle, Bool.and_eq_true, decide_eq_true_eq] at h
  split_ifs at h with hdigit hsmall hcapital
  · exact .inl ⟨hdigit.1, hdigit.2, (Option.some.inj h).symm⟩
  · exact .inr (.inl ⟨hsmall.1, hsmall.2, (Option.some.inj h).symm⟩)
  · exact .inr (.inr ⟨hcapital.1, hcapital.2, (Option.some.inj h).symm⟩)

theorem inLine_of_hexValue? {c : Char} {n : Nat} (h : Text.hexValue? c = some n) : InLine c := by
  have hranges := cases_of_hexValue? h
  exact inLine_of_ascii (by omega) (by omega)

theorem lt_of_hexValue? {c : Char} {n : Nat} (h : Text.hexValue? c = some n) : n < 16 := by
  have hranges := cases_of_hexValue? h
  omega

theorem inLine_of_unit? {a b c d : Char} {n : Nat} (h : unit? a b c d = some n) : ∀ x ∈ [a, b, c, d], InLine x := by
  obtain ⟨w, hw, h⟩ := Option.bind_eq_some_iff.mp h
  obtain ⟨x, hx, h⟩ := Option.bind_eq_some_iff.mp h
  obtain ⟨y, hy, h⟩ := Option.bind_eq_some_iff.mp h
  obtain ⟨z, hz, -⟩ := Option.bind_eq_some_iff.mp h
  simp [inLine_of_hexValue? hw, inLine_of_hexValue? hx, inLine_of_hexValue? hy, inLine_of_hexValue? hz]

theorem inLine_of_simpleEscape? {c d : Char} (h : simpleEscape? c = some d) : InLine c := by
  unfold simpleEscape? at h
  split at h <;> first | exact ⟨rfl, rfl⟩ | simp at h

/-- A string is on one line, and can be printed. -/
theorem Body.inLine {cs s : List Char} (h : Body cs s) : ∀ c ∈ cs, InLine c := by
  have hback : InLine '\\' := ⟨rfl, rfl⟩
  induction h with
  | nil => simp
  | plain _ _ _ hprintable hbreak _ ih => exact List.forall_mem_cons.mpr ⟨⟨hprintable, hbreak⟩, ih⟩
  | short hc _ ih =>
    exact List.forall_mem_cons.mpr ⟨hback, List.forall_mem_cons.mpr ⟨inLine_of_simpleEscape? hc, ih⟩⟩
  | unit hn _ _ ih =>
    have hdigits := inLine_of_unit? hn
    simp only [List.forall_mem_cons] at hdigits ⊢
    exact ⟨hback, ⟨rfl, rfl⟩, hdigits.1, hdigits.2.1, hdigits.2.2.1, hdigits.2.2.2.1, ih⟩

theorem Body.printable {cs s : List Char} (h : Body cs s) : ∀ c ∈ cs, isPrintable c = true :=
  fun c hc => (h.inLine c hc).1

theorem IsName.printable {name gap key : List Char} (h : IsName name gap key) : ∀ c ∈ gap, isPrintable c = true :=
  fun c hc => by rw [h.spaces c hc]; rfl

theorem Writes.printable {cs : List Char} {part : Part} (h : Writes cs part) : ∀ c ∈ cs, isPrintable c = true := by
  have hmarks : ∀ c ∈ ['"', '[', ']', '{', '}', ',', ':'], isPrintable c = true := List.all_eq_true.mp (by decide)
  simp only [List.forall_mem_cons] at hmarks
  induction h with
  | word h =>
    simp only [words, List.mem_cons, Prod.mk.injEq, List.not_mem_nil, or_false] at h
    obtain ⟨rfl, -⟩ | ⟨rfl, -⟩ | ⟨rfl, -⟩ := h <;> exact List.all_eq_true.mp (by decide)
  | number hn _ _ =>
    have hnumeric : ∀ c ∈ numeric, isPrintable c = true := List.all_eq_true.mp (by decide)
    exact fun c hc => hnumeric c (mem_numeric hn.written c hc)
  | string h => simp +contextual [or_imp, hmarks, h.printable]
  | emptyList hgap | emptyObject hgap => simp +contextual [or_imp, hmarks, hgap.printable]
  | list hgap _ ih | object hgap _ ih => simp +contextual [or_imp, hmarks, hgap.printable, ih]
  | lastItem _ hgap ih => simp +contextual [or_imp, hgap.printable, ih]
  | item _ hgap hgap' _ ih ihrest =>
    simp +contextual [or_imp, hmarks, hgap.printable, hgap'.printable, ih, ihrest]
  | lastMember hname hgap₂ _ hgap₃ ih =>
    simp +contextual [or_imp, hmarks, hname.body.printable, hname.printable, hgap₂.printable,
      hgap₃.printable, ih]
  | member hname hgap₂ _ hgap₃ hgap₄ _ ih ihrest =>
    simp +contextual [or_imp, hmarks, hname.body.printable, hname.printable, hgap₂.printable,
      hgap₃.printable, hgap₄.printable, ih, ihrest]

theorem IsDocument.printable {cs : List Char} {ms : List (Key × Value)} (h : IsDocument cs ms) :
    ∀ c ∈ cs, isPrintable c = true := by
  obtain ⟨front, body, back, rfl, hfront, hbody, hback⟩ := h
  simp only [List.forall_mem_append]
  exact ⟨hfront.printable, hbody.printable, hback.printable⟩

end Switchboard.Yaml.Common
