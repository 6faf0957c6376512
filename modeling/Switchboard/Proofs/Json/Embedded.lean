import Switchboard.Proofs.Json.Balance
import Switchboard.Proofs.Json.Grammar

/-!
Objects inside other text.

* `Writes.balanced` — whatever is written by the grammar of JSON is balanced: the quotes and braces in its strings do
  not count, and those around its objects match up;
* `parseReply_recovers` — an object behind a text without an opening brace is found, whatever follows it, and the
  reply is its value unless the whole text is a document;
* `parseOutput_eq` — a tool's output stands for the value of the document that it is, and otherwise for itself unless
  a first object is found in it.
-/
namespace Switchboard.Json

open Template (IsRun Brief)

/-! ### Written texts are balanced -/

theorem IsGap.balanced {gap : List Char} (h : IsGap gap) : Balanced gap := by
  refine balanced_of_forall fun c hc => ?_
  have hspace := h c hc
  simp only [isSpace, Bool.or_eq_true, decide_eq_true_eq] at hspace
  obtain ((rfl | rfl) | rfl) | rfl := hspace <;> decide

theorem balanced_literal {word : String} {v : Value} (h : (word, v) ∈ literals) : Balanced word.toList := by
  refine balanced_of_forall ?_
  simp only [literals, List.mem_cons, Prod.mk.injEq, List.not_mem_nil, or_false] at h
  obtain ⟨rfl, -⟩ | ⟨rfl, -⟩ | ⟨rfl, -⟩ | ⟨rfl, -⟩ | ⟨rfl, -⟩ | ⟨rfl, -⟩ := h <;> simp

theorem balanced_digits {digits : List Char} (h : IsRun digits) : Balanced digits :=
  balanced_of_forall fun c hc =>
    have hne : ∀ {d : Char}, Text.isDigit d = false → c ≠ d := digit_ne (h.isDigit c hc)
    ⟨hne (by decide), hne (by decide), hne (by decide)⟩

theorem FractionText.balanced {fraction : Option (List Char)} {cs : List Char} (h : FractionText fraction cs) :
    Balanced cs := by
  cases h with
  | absent => exact .nil
  | present h => exact .plain (by decide) (by decide) (by decide) (balanced_digits h)

theorem SignText.balanced {negative : Bool} {cs : List Char} (h : SignText negative cs) : Balanced cs := by
  cases h <;> exact balanced_of_forall (by simp)

theorem ExponentText.balanced {exponent : Option (Bool × List Char)} {cs : List Char} (h : ExponentText exponent cs) :
    Balanced cs := by
  cases h with
  | absent => exact .nil
  | present hmark hsign hdigits =>
    have hbehind := hsign.balanced.append (balanced_digits hdigits)
    obtain rfl | rfl := hmark <;> exact .plain (by decide) (by decide) (by decide) hbehind

theorem Numeral.Written.balanced {n : Numeral} {cs : List Char} (h : n.Written cs) : Balanced cs := by
  obtain ⟨hwhole, hfraction, hexponent⟩ := h
  have hsign : Balanced n.sign := by
    rw [Numeral.sign]
    split <;> exact balanced_of_forall (by simp)
  exact ((hsign.append (balanced_digits hwhole.toIsRun)).append hfraction.balanced).append hexponent.balanced

/-- Digits of an escape are neither quotes nor backslashes. -/
theorem quotable_unit {a b c d : Char} {n : Nat} {cs : List Char} (hn : unit? a b c d = some n) (hcs : Quotable cs) :
    Quotable ('\\' :: 'u' :: a :: b :: c :: d :: cs) := by
  have hdigit : ∀ {e : Char} {w : Nat}, Text.hexValue? e = some w → e ≠ '"' ∧ e ≠ '\\' := by
    intro e w hw
    refine ⟨?_, ?_⟩ <;>
    · rintro rfl
      simp [Text.hexValue?, Text.isDigit] at hw
  simp only [unit?, bind, Option.bind_eq_some_iff] at hn
  obtain ⟨w, hw, x, hx, y, hy, z, hz, -⟩ := hn
  exact .escaped (.plain (hdigit hw).1 (hdigit hw).2 (.plain (hdigit hx).1 (hdigit hx).2
    (.plain (hdigit hy).1 (hdigit hy).2 (.plain (hdigit hz).1 (hdigit hz).2 hcs))))

theorem StringBody.quotable {cs s : List Char} (h : StringBody cs s) : Quotable cs := by
  induction h with
  | nil => exact .nil
  | plain hquote hback _ _ ih => exact .plain hquote hback ih
  | short _ _ ih => exact .escaped ih
  | unit hn _ _ ih => exact quotable_unit hn ih
  | pair hhigh _ hlow _ _ ih => exact quotable_unit hhigh (quotable_unit hlow ih)

theorem StringBody.balanced {cs s rest : List Char} (h : StringBody cs s) (hrest : Balanced rest) :
    Balanced ('"' :: (cs ++ '"' :: rest)) := by
  simpa using Balanced.quoted h.quotable hrest

/-- **Written texts are balanced.** -/
theorem Writes.balanced {admits : Numeral → Prop} {cs : List Char} {part : Part} (h : Writes admits cs part) :
    Balanced cs := by
  -- commas, colons and square brackets do not count
  have hmark : ∀ {c : Char} {rest : List Char}, c ∈ [',', ':', '[', ']'] → Balanced rest → Balanced (c :: rest) := by
    intro c rest hc hrest
    simp only [List.mem_cons, List.not_mem_nil, or_false] at hc
    obtain rfl | rfl | rfl | rfl := hc <;> exact .plain (by decide) (by decide) (by decide) hrest
  have hbraces : ∀ {inner : List Char}, Balanced inner → Balanced ('{' :: (inner ++ ['}'])) :=
    fun hinner => Balanced.braced hinner .nil
  induction h with
  | literal h => exact balanced_literal h
  | number hn _ _ => exact hn.balanced
  | string h => exact h.balanced .nil
  | emptyList hgap => exact hmark (by simp) (hgap.balanced.append (hmark (by simp) .nil))
  | list hgap _ ih => exact hmark (by simp) ((hgap.balanced.append ih).append (hmark (by simp) .nil))
  | emptyObject hgap => exact hbraces hgap.balanced
  | object hgap _ ih => exact hbraces (hgap.balanced.append ih)
  | lastItem _ hgap ih => exact ih.append hgap.balanced
  | item _ hgap hgap' _ ih ihrest =>
    exact (ih.append hgap.balanced).append (hmark (by simp) (hgap'.balanced.append ihrest))
  | lastMember hname hgap₁ hgap₂ _ hgap₃ ih =>
    exact hname.balanced (hgap₁.balanced.append
      (hmark (by simp) (hgap₂.balanced.append (ih.append hgap₃.balanced))))
  | member hname hgap₁ hgap₂ _ hgap₃ hgap₄ _ ih ihrest =>
    have hbehind := hmark (c := ',') (by simp) (hgap₄.balanced.append ihrest)
    exact hname.balanced (hgap₁.balanced.append
      (hmark (by simp) (hgap₂.balanced.append ((ih.append hgap₃.balanced).append hbehind))))

/-- What is written of an object is a balanced text between two braces. -/
theorem Writes.eq_braced {admits : Numeral → Prop} {cs : List Char} {members : List (Key × Value)}
    (h : Writes admits cs (.value (.object members))) : ∃ inner, Balanced inner ∧ cs = '{' :: inner ++ ['}'] := by
  cases h with
  | literal h => simp [literals] at h
  | number _ _ hv => cases hv
  | emptyObject hgap => exact ⟨_, hgap.balanced, rfl⟩
  | object hgap h => exact ⟨_, hgap.balanced.append h.balanced, rfl⟩

/-! ### Replies -/

/-- A brief document is read as its value. -/
theorem IsDocument.parse_eq {admits : Numeral → Prop} {cs : List Char} {v : Value} (h : IsDocument admits cs v)
    (hbrief : Brief cs) : parse cs = .ok v :=
  parse_eq_ok.mpr (h.isShort hbrief)

/-- A brief text that cannot be read is no document. -/
theorem not_isDocument_of_parse {admits : Numeral → Prop} {cs : List Char} {e : ReadError} (hbrief : Brief cs)
    (h : parse cs = .error e) : ¬ ∃ v, IsDocument admits cs v := by
  rintro ⟨v, hv⟩
  simp [hv.parse_eq hbrief] at h

/-- What is written of a value is a document. -/
theorem Writes.isDocument {admits : Numeral → Prop} {cs : List Char} {v : Value} (h : Writes admits cs (.value v)) :
    IsDocument admits cs v :=
  ⟨[], cs, [], by simp, isGap_nil, h, isGap_nil⟩

theorem isGap_blank : IsGap [' '] := by simp [IsGap, isSpace]

/-- Characters that need no escape stand for themselves. -/
theorem stringBody_of_forall (cs : List Char) (h : ∀ c ∈ cs, c ≠ '"' ∧ c ≠ '\\' ∧ 0x20 ≤ c.toNat) :
    StringBody cs cs := by
  induction cs with
  | nil => exact .nil
  | cons c cs ih =>
    obtain ⟨⟨hquote, hback, hcontrol⟩, hcs⟩ := List.forall_mem_cons.mp h
    exact .plain hquote hback hcontrol (ih hcs)

/-- A brief text that is no document is read from its first object on. -/
theorem parseReply_of_not_document {cs : List Char} (hbrief : Brief cs)
    (hnone : ¬ ∃ v, IsDocument Numeral.Any cs v) :
    parseReply cs =
      match firstObject cs with
      | .error e => .error (.extract e)
      | .ok object => (parse object).mapError (.read object) := by
  cases hparse : parse cs with
  | ok v => exact absurd ⟨v, (parse_eq_ok.mp hparse).any⟩ hnone
  | error e =>
    rw [parseReply, hparse]
    dsimp only
    rw [if_pos (parse_isFault hbrief hparse)]
    cases firstObject cs with
    | error e => rfl
    | ok object =>
      dsimp only
      cases parse object <;> rfl

/-- **An object wrapped in other text is recovered.** Behind a text without an opening brace the text of an object is
found, exactly and whatever follows it; and unless the whole text is a document or has too many digits in a row, what
is read of it is what is read of the object, its value. -/
theorem parseReply_recovers {before object after : List Char} {members : List (Key × Value)} (hbefore : '{' ∉ before)
    (hobject : Writes Numeral.Any object (.value (.object members))) :
    firstObject (before ++ object ++ after) = .ok object ∧
    ((¬ ∃ v, IsDocument Numeral.Any (before ++ object ++ after) v) → Brief (before ++ object ++ after) →
      parse object = .ok (.object members) ∧ parseReply (before ++ object ++ after) = .ok (.object members)) := by
  have hfirst : firstObject (before ++ object ++ after) = .ok object := by
    obtain ⟨inner, hinner, rfl⟩ := hobject.eq_braced
    exact firstObject_eq_ok.mpr ⟨before, inner, after, hbefore, hinner, rfl, rfl⟩
  refine ⟨hfirst, fun hnone hbrief => ?_⟩
  have hinfix : object <:+: before ++ object ++ after := ⟨before, after, rfl⟩
  have hread : parse object = .ok (.object members) := hobject.isDocument.parse_eq (hbrief.of_isInfix hinfix)
  refine ⟨hread, ?_⟩
  rw [parseReply_of_not_document hbrief hnone, hfirst]
  dsimp only
  rw [hread]
  rfl

/-- An object with objects in it, and with braces and quotes in strings. -/
def nestedObject : List Char := "\x7b\"a\": \x7b\"b\": \"\x7d\"\x7d, \"c\": \"\\\"q\\\"\"\x7d".toList

/-- The members of it. -/
def nestedMembers : List (Key × Value) := [(.text "a", .object [(.text "b", .str "\x7d")]), (.text "c", .str "\"q\"")]

/-- A reply with the object between words and another object. -/
def nestedReply : List Char := "Here you go: ".toList ++ nestedObject ++ " trailing \x7b\"x\": 1\x7d".toList

theorem writes_nestedObject : Writes Numeral.Any nestedObject (.value (.object nestedMembers)) := by
  have hbrace : Writes Numeral.Any "\"\x7d\"".toList (.value (.str "\x7d")) :=
    .string (stringBody_of_forall ['\x7d'] (by simp))
  have hquoted : Writes Numeral.Any "\"\\\"q\\\"\"".toList (.value (.str "\"q\"")) :=
    .string (.short rfl (.plain (by decide) (by decide) (by decide) (.short rfl .nil)))
  have hinner : Writes Numeral.Any "\x7b\"b\": \"\x7d\"\x7d".toList (.value (.object [(.text "b", .str "\x7d")])) :=
    .object isGap_nil (.lastMember (stringBody_of_forall ['b'] (by simp)) isGap_nil isGap_blank hbrace isGap_nil)
  have hlast : Writes Numeral.Any "\"c\": \"\\\"q\\\"\"".toList (.members [(.text "c", .str "\"q\"")]) :=
    .lastMember (stringBody_of_forall ['c'] (by simp)) isGap_nil isGap_blank hquoted isGap_nil
  exact .object isGap_nil
    (.member (stringBody_of_forall ['a'] (by simp)) isGap_nil isGap_blank hinner isGap_nil isGap_blank hlast)

theorem parseReply_recovers_nested :
    ('{' ∉ "Here you go: ".toList ∧ Writes Numeral.Any nestedObject (.value (.object nestedMembers)) ∧
      (¬ ∃ v, IsDocument Numeral.Any nestedReply v) ∧ Brief nestedReply) ∧
    firstObject nestedReply = .ok nestedObject ∧ parse nestedObject = .ok (.object nestedMembers) ∧
    parseReply nestedReply = .ok (.object nestedMembers) := by
  have hbefore : '{' ∉ "Here you go: ".toList := by decide
  have hbrief : Brief nestedReply := Template.brief_of_length_le (by decide)
  have hnone : ¬ ∃ v, IsDocument Numeral.Any nestedReply v := not_isDocument_of_parse hbrief rfl
  obtain ⟨hfirst, hreply⟩ := parseReply_recovers hbefore writes_nestedObject
  exact ⟨⟨hbefore, writes_nestedObject, hnone, hbrief⟩, hfirst, hreply hnone hbrief⟩

/-! ### The output of tools -/

/-- An object stands for itself, and any other value for an object that holds it as its result. -/
def asObject : Value → Value
  | .object members => .object members
  | v => .ofFields [("result", v)]

theorem parseOutput_eq_match (text : String) :
    parseOutput text =
      match parseReply text.toList with
      | .ok v => asObject v
      | .error _ => .ofFields [("text", .str text)] := by
  rw [parseOutput.eq_def]
  split
  · next members h => rw [h]; rfl
  · next v hv h =>
    rw [h]
    cases v with
    | object members => exact absurd rfl (hv members)
    | _ => rfl
  · next e h => rw [h]

/-- What begins with a brace and is a value is an object. -/
theorem Writes.object_of_head {admits : Numeral → Prop} {cs : List Char} {v : Value}
    (h : Writes admits cs (.value v)) (hhead : cs.head? = some '{') : ∃ members, v = .object members := by
  -- no word and no number begins with a brace
  have hscalar : (∃ c rest, cs = c :: rest ∧ StartsScalar c) → ∃ members, v = .object members := by
    rintro ⟨c, rest, rfl, -, hc⟩
    obtain rfl := Option.some.inj hhead
    simp at hc
  cases h with
  | literal h => exact hscalar (startsScalar_literal h)
  | number hn _ _ => exact hscalar (startsScalar_written hn)
  | string | emptyList | list => simp at hhead
  | emptyObject | object => exact ⟨_, rfl⟩

theorem IsDocument.object_of_firstObject {admits : Numeral → Prop} {cs block : List Char} {v : Value}
    (hblock : firstObject cs = .ok block) (h : IsDocument admits block v) : ∃ members, v = .object members := by
  obtain ⟨-, inner, -, -, -, hinner, -⟩ := firstObject_eq_ok.mp hblock
  obtain ⟨front, body, back, hsplit, hfront, hbody, -⟩ := h
  cases front with
  | nil =>
    refine hbody.object_of_head ?_
    obtain ⟨c, rest, rfl, -⟩ := hbody.head
    rw [hinner] at hsplit
    exact congrArg some (List.cons.inj hsplit).1.symm
  | cons c front =>
    -- the brace would be a blank
    rw [hinner] at hsplit
    have hspace := hfront c List.mem_cons_self
    rw [← (List.cons.inj hsplit).1] at hspace
    simp [isSpace] at hspace

/-- What is read of a text that is no document is its first object. -/
theorem firstObject_of_parseReply {cs : List Char} {v : Value} (hnone : ¬ ∃ v, IsDocument Numeral.Any cs v)
    (h : parseReply cs = .ok v) : ∃ block, firstObject cs = .ok block ∧ IsDocument Numeral.IsShort block v := by
  rw [parseReply.eq_def] at h
  split at h
  · next w hw => exact absurd ⟨w, (parse_eq_ok.mp hw).any⟩ hnone
  · split at h
    · split at h
      · simp at h
      · next block hblock =>
        split at h
        · next w hw =>
          obtain rfl := Except.ok.inj h
          exact ⟨block, hblock, parse_eq_ok.mp hw⟩
        · simp at h
    · simp at h

/-- **What the output of a tool stands for.** Always for an object. The text of a document stands for its value. Any
other text stands for itself, unchanged, unless the first object in it is a document: then it can stand for this
object, and does so when it has not too many digits in a row. -/
theorem parseOutput_eq (text : String) :
    (∃ members, parseOutput text = .object members) ∧
    (∀ v, IsDocument Numeral.IsShort text.toList v → parseOutput text = asObject v) ∧
    ((¬ ∃ v, IsDocument Numeral.Any text.toList v) →
      (parseOutput text = .ofFields [("text", .str text)] ∧
        (Brief text.toList → ∀ block members, firstObject text.toList = .ok block →
          ¬ IsDocument Numeral.IsShort block (.object members))) ∨
      ∃ block members, firstObject text.toList = .ok block ∧ IsDocument Numeral.IsShort block (.object members) ∧
        parseOutput text = .object members) := by
  refine ⟨?_, fun v hv => ?_, fun hnone => ?_⟩
  · rw [parseOutput_eq_match]
    cases parseReply text.toList with
    | error e => exact ⟨_, rfl⟩
    | ok v => cases v <;> exact ⟨_, rfl⟩
  · rw [parseOutput_eq_match, parseReply, parse_eq_ok.mpr hv]
  · rw [parseOutput_eq_match]
    cases hreply : parseReply text.toList with
    | error e =>
      refine .inl ⟨rfl, fun hbrief block members hblock hobject => ?_⟩
      rw [parseReply_of_not_document hbrief hnone, hblock] at hreply
      dsimp only at hreply
      rw [parse_eq_ok.mpr hobject] at hreply
      simp [Except.mapError] at hreply
    | ok v =>
      -- what was read cannot be the whole text, and the block begins with a brace
      obtain ⟨block, hblock, hdocument⟩ := firstObject_of_parseReply hnone hreply
      obtain ⟨members, rfl⟩ := hdocument.object_of_firstObject hblock
      exact .inr ⟨block, members, hblock, hdocument, rfl⟩

/-- A line of a log that ends with an object. -/
def logLine : String := "saved \x7b\"to\": \"a.csv\"\x7d"

theorem writes_logObject :
    Writes Numeral.IsShort "\x7b\"to\": \"a.csv\"\x7d".toList (.value (.object [(.text "to", .str "a.csv")])) :=
  .object isGap_nil (.lastMember (stringBody_of_forall ['t', 'o'] (by simp)) isGap_nil isGap_blank
    (.string (stringBody_of_forall ['a', '.', 'c', 's', 'v'] (by simp))) isGap_nil)

/-- It is no document, and yet does not stand for itself. -/
theorem parseOutput_logLine :
    (¬ ∃ v, IsDocument Numeral.Any logLine.toList v) ∧
    parseOutput logLine = .object [(.text "to", .str "a.csv")] ∧
    parseOutput logLine ≠ .ofFields [("text", .str logLine)] := by
  have hbrief : Brief logLine.toList := Template.brief_of_length_le (by decide)
  have hnone : ¬ ∃ v, IsDocument Numeral.Any logLine.toList v := not_isDocument_of_parse hbrief rfl
  have hblock : firstObject logLine.toList = .ok "\x7b\"to\": \"a.csv\"\x7d".toList := by rfl
  have houtput : parseOutput logLine = .object [(.text "to", .str "a.csv")] := by
    rw [parseOutput_eq_match, parseReply_of_not_document hbrief hnone, hblock]
    dsimp only
    rw [parse_eq_ok.mpr writes_logObject.isDocument]
    rfl
  refine ⟨hnone, houtput, ?_⟩
  rw [houtput]
  simp [Value.ofFields]

end Switchboard.Json
