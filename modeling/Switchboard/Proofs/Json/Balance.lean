import Mathlib.Data.List.TakeWhile
import Switchboard.Json.Embedded
import Switchboard.Proofs.Outcome

/-!
The block of braces at the first opening brace of a text.

* `Balanced` — texts whose braces match up, with those inside double-quoted strings left out;
* `closing_balanced`, `closing_cases` — a balanced text leaves the depth of the scan as it was, and wherever the
  scan ends, what it has passed is balanced up to the braces it had to close;
* `firstObject_eq_ok` — what is taken is a balanced text between two braces, behind a text without an opening one;
* `firstObject_shortest` — it is the shortest balanced text that starts there, and nothing is taken only when there
  is none.

Design notes: `Balanced` is a grammar, not a count: a text is nothing, or a character that is neither a quote nor a
brace, or a string, or two braces around a balanced text, with a balanced text behind it.
-/
namespace Switchboard.Json

/-! ### Balanced texts -/

/-- What may stand between the quotes of a string: a backslash takes the next character along. -/
inductive Quotable : List Char → Prop where
  | nil : Quotable []
  | plain {c : Char} {cs : List Char} (hquote : c ≠ '"') (hback : c ≠ '\\') (h : Quotable cs) : Quotable (c :: cs)
  | escaped {c : Char} {cs : List Char} (h : Quotable cs) : Quotable ('\\' :: c :: cs)

/-- A text whose braces match up outside its strings, and whose strings are closed. -/
inductive Balanced : List Char → Prop where
  | nil : Balanced []
  | plain {c : Char} {cs : List Char} (hquote : c ≠ '"') (hopen : c ≠ '{') (hclose : c ≠ '}')
      (h : Balanced cs) : Balanced (c :: cs)
  | quoted {inner cs : List Char} (hinner : Quotable inner) (h : Balanced cs) :
      Balanced ('"' :: inner ++ '"' :: cs)
  | braced {inner cs : List Char} (hinner : Balanced inner) (h : Balanced cs) :
      Balanced ('{' :: inner ++ '}' :: cs)

/-- Balanced texts side by side. -/
theorem Balanced.append {cs ds : List Char} (h : Balanced cs) (hds : Balanced ds) : Balanced (cs ++ ds) := by
  induction h with
  | nil => exact hds
  | plain hquote hopen hclose _ ih => exact .plain hquote hopen hclose ih
  | quoted hinner _ ih => simpa using Balanced.quoted hinner ih
  | braced hinner _ _ ih => simpa using Balanced.braced hinner ih

/-- A text without quotes and braces. -/
theorem balanced_of_forall {cs : List Char} (h : ∀ c ∈ cs, c ≠ '"' ∧ c ≠ '{' ∧ c ≠ '}') : Balanced cs := by
  induction cs with
  | nil => exact .nil
  | cons c cs ih =>
    obtain ⟨⟨hquote, hopen, hclose⟩, hcs⟩ := List.forall_mem_cons.mp h
    exact .plain hquote hopen hclose (ih hcs)

/-- A balanced text that begins with a brace is a balanced text between two braces, with another one behind. -/
theorem Balanced.eq_braced {cs : List Char} (h : Balanced ('{' :: cs)) :
    ∃ inner rest, Balanced inner ∧ cs = inner ++ '}' :: rest := by
  generalize hall : '{' :: cs = all at h
  cases h with
  | nil => simp at hall
  | plain _ hopen _ _ => exact absurd (List.cons.inj hall).1.symm hopen
  | quoted => exact absurd (List.cons.inj hall).1 (by decide)
  | braced hinner _ => exact ⟨_, _, hinner, (List.cons.inj hall).2⟩

/-! ### What the scan does with them -/

/-- The scan passes over a string. -/
theorem closing_quotable {inner : List Char} (h : Quotable inner) (depth : Nat) (cs : List Char) :
    closing .inside depth (inner ++ '"' :: cs) = (closing .outside depth cs).map (inner ++ '"' :: ·) := by
  induction h with
  | nil => simp [closing]
  | plain hquote hback _ ih => simp [closing, hquote, hback, ih, Function.comp_def]
  | escaped _ ih => simp [closing, ih, Function.comp_def]

/-- Within braces a balanced text leaves the depth as it was. -/
theorem closing_balanced {cs : List Char} (h : Balanced cs) {depth : Nat} (hdepth : 1 ≤ depth) (rest : List Char) :
    closing .outside depth (cs ++ rest) = (closing .outside depth rest).map (cs ++ ·) := by
  induction h generalizing depth rest with
  | nil => simp
  | plain hquote hopen hclose _ ih =>
    simp [closing, hquote, hopen, hclose, ih hdepth, Function.comp_def]
  | quoted hinner _ ih =>
    rw [List.append_assoc, List.cons_append, List.cons_append, closing, if_pos rfl, closing_quotable hinner,
      ih hdepth]
    simp [Function.comp_def]
  | braced hinner _ ihinner ih =>
    rw [List.append_assoc, List.cons_append, List.cons_append, closing, if_neg (by decide), if_pos rfl,
      ihinner (Nat.le_add_left 1 depth), closing, if_neg (by decide), if_neg (by decide), if_pos rfl,
      if_neg (by omega), Nat.add_sub_cancel, ih hdepth]
    simp [Function.comp_def]

/-- Where a scan that starts inside a string ends, the string has been closed. -/
theorem closing_inside_cases {depth : Nat} {cs taken : List Char} (h : closing .inside depth cs = some taken) :
    ∃ inner rest, Quotable inner ∧ cs = inner ++ '"' :: rest ∧ ∃ more, closing .outside depth rest = some more := by
  -- two characters are read at once behind a backslash
  induction hlength : cs.length using Nat.strongRecOn generalizing cs taken with
  | _ n ih =>
    subst hlength
    cases cs with
    | nil => simp [closing] at h
    | cons c cs =>
      rw [closing] at h
      obtain ⟨more, hmore, -⟩ := Option.map_eq_some_iff.mp h
      by_cases hback : c = '\\'
      · subst hback
        rw [if_pos rfl] at hmore
        cases cs with
        | nil => simp [closing] at hmore
        | cons d cs =>
          rw [closing] at hmore
          obtain ⟨more, hmore, -⟩ := Option.map_eq_some_iff.mp hmore
          obtain ⟨inner, rest, hinner, rfl, hrest⟩ :=
            ih cs.length (by simp only [List.length_cons]; omega) hmore rfl
          exact ⟨'\\' :: d :: inner, rest, .escaped hinner, rfl, hrest⟩
      · rw [if_neg hback] at hmore
        by_cases hquote : c = '"'
        · subst hquote
          exact ⟨[], cs, .nil, rfl, more, by simpa using hmore⟩
        · rw [if_neg hquote] at hmore
          obtain ⟨inner, rest, hinner, rfl, hrest⟩ := ih cs.length (by simp) hmore rfl
          exact ⟨c :: inner, rest, .plain hquote hback hinner, rfl, hrest⟩

/-- Where a scan ends that starts within braces, it has passed a balanced text and the brace that closes the
innermost of them, and from there a scan with one brace less ends too. -/
theorem closing_cases {depth : Nat} {cs taken : List Char} (h : closing .outside (depth + 1) cs = some taken) :
    ∃ inner rest, Balanced inner ∧ cs = inner ++ '}' :: rest ∧
      (depth = 0 ∨ ∃ more, closing .outside depth rest = some more) := by
  induction hlength : cs.length using Nat.strongRecOn generalizing depth cs taken with
  | _ n ih =>
    subst hlength
    cases cs with
    | nil => simp [closing] at h
    | cons c cs =>
      rw [closing] at h
      by_cases hquote : c = '"'
      · subst hquote
        rw [if_pos rfl] at h
        obtain ⟨_, hinside, -⟩ := Option.map_eq_some_iff.mp h
        obtain ⟨string, behind, hstring, rfl, more, hmore⟩ := closing_inside_cases hinside
        obtain ⟨inner, rest, hinner, rfl, hrest⟩ := ih behind.length (by simp; omega) hmore rfl
        exact ⟨'"' :: string ++ '"' :: inner, rest, .quoted hstring hinner, by simp, hrest⟩
      rw [if_neg hquote] at h
      by_cases hopen : c = '{'
      · -- the brace opened here is closed first, and then the one that was open before
        subst hopen
        rw [if_pos rfl] at h
        obtain ⟨_, hdeeper, -⟩ := Option.map_eq_some_iff.mp h
        obtain ⟨block, behind, hblock, rfl, hbehind⟩ := ih cs.length (by simp) hdeeper rfl
        obtain ⟨more, hmore⟩ := hbehind.resolve_left (Nat.succ_ne_zero depth)
        obtain ⟨inner, rest, hinner, rfl, hrest⟩ := ih behind.length (by simp; omega) hmore rfl
        exact ⟨'{' :: block ++ '}' :: inner, rest, .braced hblock hinner, by simp, hrest⟩
      rw [if_neg hopen] at h
      by_cases hclose : c = '}'
      · subst hclose
        rw [if_pos rfl] at h
        refine ⟨[], cs, .nil, rfl, ?_⟩
        by_cases hdepth : depth = 0
        · exact .inl hdepth
        · rw [if_neg (by omega), Nat.add_sub_cancel] at h
          obtain ⟨more, hmore, -⟩ := Option.map_eq_some_iff.mp h
          exact .inr ⟨more, hmore⟩
      · rw [if_neg hclose] at h
        obtain ⟨more, hmore, -⟩ := Option.map_eq_some_iff.mp h
        obtain ⟨inner, rest, hinner, rfl, hrest⟩ := ih cs.length (by simp) hmore rfl
        exact ⟨c :: inner, rest, .plain hquote hopen hclose hinner, rfl, hrest⟩

/-- The scan takes a balanced text between braces, and nothing behind it. -/
theorem closing_braced {inner : List Char} (h : Balanced inner) (after : List Char) :
    closing .outside 0 ('{' :: inner ++ '}' :: after) = some ('{' :: inner ++ ['}']) := by
  rw [List.cons_append, closing, if_neg (by decide), if_pos rfl, closing_balanced h (by decide), closing]
  simp

/-- What the scan takes from an opening brace on. -/
theorem closing_eq_some {cs taken : List Char} :
    closing .outside 0 ('{' :: cs) = some taken ↔
      ∃ inner after, Balanced inner ∧ cs = inner ++ '}' :: after ∧ taken = '{' :: inner ++ ['}'] := by
  constructor
  · intro h
    have hopened := h
    rw [closing, if_neg (by decide), if_pos rfl] at hopened
    obtain ⟨_, hbehind, -⟩ := Option.map_eq_some_iff.mp hopened
    obtain ⟨inner, after, hinner, rfl, -⟩ := closing_cases hbehind
    have hbraced := closing_braced hinner after
    rw [List.cons_append] at hbraced
    exact ⟨inner, after, hinner, rfl, Option.some.inj (h.symm.trans hbraced)⟩
  · rintro ⟨inner, after, hinner, rfl, rfl⟩
    rw [← List.cons_append]
    exact closing_braced hinner after

/-! ### The first block -/

/-- A part of a text that begins with the first opening brace in it. -/
def AtFirstBrace (cs part : List Char) : Prop :=
  ∃ before after, cs = before ++ part ++ after ∧ '{' ∉ before ∧ part.head? = some '{'

/-- The text from the first opening brace on. -/
theorem dropWhile_first {before cs : List Char} (hbefore : '{' ∉ before) :
    (before ++ '{' :: cs).dropWhile (· != '{') = '{' :: cs := by
  have hpass : ∀ c ∈ before, (c != '{') = true := fun c hc => by
    simpa using fun heq : c = '{' => hbefore (heq ▸ hc)
  rw [List.dropWhile_append_of_pos hpass, List.dropWhile_cons_of_neg (by simp)]

/-- A text has an opening brace or not, and if so a first one. -/
theorem first_brace (cs : List Char) :
    '{' ∉ cs ∨ ∃ before block, cs = before ++ '{' :: block ∧ '{' ∉ before := by
  by_cases h : '{' ∈ cs
  · obtain ⟨before, block, hsplit, hbefore⟩ := List.eq_append_cons_of_mem h
    exact .inr ⟨before, block, hsplit, hbefore⟩
  · exact .inl h

/-- In a text without an opening brace there is no object. -/
theorem firstObject_of_notMem {cs : List Char} (h : '{' ∉ cs) : firstObject cs = .error .absent := by
  have hnone : cs.dropWhile (· != '{') = [] := by
    rw [List.dropWhile_eq_nil_iff]
    intro c hc
    simpa using fun heq : c = '{' => h (heq ▸ hc)
  rw [firstObject, hnone]

/-- From the first opening brace on, the scan decides. -/
theorem firstObject_eq {before block : List Char} (hbefore : '{' ∉ before) :
    firstObject (before ++ '{' :: block) =
      match closing .outside 0 ('{' :: block) with
      | some object => .ok object
      | none => .error .unbalanced := by
  cases hclosing : closing .outside 0 ('{' :: block) <;> simp only [firstObject, dropWhile_first hbefore, hclosing]

/-- **What is taken.** A balanced text between two braces, behind a text without an opening brace. -/
theorem firstObject_eq_ok {cs object : List Char} :
    firstObject cs = .ok object ↔
      ∃ before inner after, '{' ∉ before ∧ Balanced inner ∧ object = '{' :: inner ++ ['}'] ∧
        cs = before ++ object ++ after := by
  constructor
  · intro h
    rcases first_brace cs with hnone | ⟨before, block, rfl, hbefore⟩
    · simp [firstObject_of_notMem hnone] at h
    · rw [firstObject_eq hbefore] at h
      split at h
      · next taken htaken =>
        obtain rfl := Except.ok.inj h
        obtain ⟨inner, after, hinner, rfl, rfl⟩ := closing_eq_some.mp htaken
        exact ⟨before, inner, after, hbefore, hinner, rfl, by simp⟩
      · simp at h
  · rintro ⟨before, inner, after, hbefore, hinner, rfl, rfl⟩
    have htaken := closing_braced hinner after
    have hsplit : before ++ ('{' :: inner ++ ['}']) ++ after
        = before ++ '{' :: (inner ++ '}' :: after) := by simp
    rw [hsplit, firstObject_eq hbefore, ← List.cons_append, htaken]

/-- A balanced text at the first opening brace begins with what is taken. -/
theorem firstObject_of_balanced {cs part : List Char} (hpart : AtFirstBrace cs part) (hbalanced : Balanced part) :
    ∃ object, firstObject cs = .ok object ∧ object <+: part := by
  obtain ⟨before, after, rfl, hbefore, hhead⟩ := hpart
  obtain ⟨tail, rfl⟩ := List.head?_eq_some_iff.mp hhead
  obtain ⟨inner, rest, hinner, rfl⟩ := hbalanced.eq_braced
  refine ⟨'{' :: inner ++ ['}'], ?_, rest, by simp⟩
  exact firstObject_eq_ok.mpr ⟨before, inner, rest ++ after, hbefore, hinner, rfl, by simp⟩

/-- What is taken stays the same whatever stands behind it, and whatever without an opening brace in front. -/
theorem firstObject_around {cs object before : List Char} (h : firstObject cs = .ok object)
    (hbefore : '{' ∉ before) (after : List Char) : firstObject (before ++ object ++ after) = .ok object := by
  obtain ⟨-, inner, -, -, hinner, rfl, -⟩ := firstObject_eq_ok.mp h
  exact firstObject_eq_ok.mpr ⟨before, inner, after, hbefore, hinner, rfl, rfl⟩

/-- The shortest balanced text that begins with the first opening brace. -/
structure IsShortestBlock (cs part : List Char) : Prop where
  start : AtFirstBrace cs part
  balanced : Balanced part
  shortest : ∀ other, AtFirstBrace cs other → Balanced other → part.length ≤ other.length

theorem firstObject_eq_ok_iff_isShortestBlock {cs object : List Char} :
    firstObject cs = .ok object ↔ IsShortestBlock cs object := by
  constructor
  · intro h
    obtain ⟨before, inner, after, hbefore, hinner, rfl, hsplit⟩ := firstObject_eq_ok.mp h
    refine ⟨⟨before, after, hsplit, hbefore, rfl⟩, .braced hinner .nil, fun other hother hbalanced => ?_⟩
    obtain ⟨object, hobject, hprefix⟩ := firstObject_of_balanced hother hbalanced
    obtain rfl := Except.ok.inj (hobject.symm.trans h)
    exact hprefix.length_le
  · rintro ⟨hstart, hbalanced, hshortest⟩
    obtain ⟨taken, htaken, hprefix⟩ := firstObject_of_balanced hstart hbalanced
    obtain ⟨before, inner, after, hbefore, hinner, rfl, hsplit⟩ := firstObject_eq_ok.mp htaken
    have hlength := hshortest _ ⟨before, after, hsplit, hbefore, rfl⟩ (.braced hinner .nil)
    rw [htaken, hprefix.eq_of_length_le hlength]

/-- **The shortest balanced block.** What is taken from a text is the shortest balanced text that begins with its
first opening brace; the text is refused as one without an object exactly when it has no opening brace, and as
unbalanced exactly when it has one and no balanced text begins with the first. What was taken is taken again from
itself, and from any text with it that has no opening brace in front. -/
theorem firstObject_shortest (cs : List Char) :
    (∀ object, firstObject cs = .ok object ↔ IsShortestBlock cs object) ∧
    ((firstObject cs).mapError ExtractError.message = .error "No JSON object found in output." ↔ '{' ∉ cs) ∧
    ((firstObject cs).mapError ExtractError.message = .error "Unbalanced JSON object in output." ↔
      '{' ∈ cs ∧ ∀ part, AtFirstBrace cs part → ¬ Balanced part) ∧
    ∀ object, firstObject cs = .ok object →
      firstObject object = .ok object ∧
        ∀ before after, '{' ∉ before → firstObject (before ++ object ++ after) = .ok object := by
  have hmessages : ExtractError.message .absent ≠ ExtractError.message .unbalanced := by decide
  have habsent : firstObject cs = .error .absent ↔ '{' ∉ cs := by
    refine ⟨fun h => ?_, firstObject_of_notMem⟩
    rcases first_brace cs with hnone | ⟨before, block, rfl, hbefore⟩
    · exact hnone
    · rw [firstObject_eq hbefore] at h
      split at h <;> simp at h
  have hunbalanced : firstObject cs = .error .unbalanced ↔
      '{' ∈ cs ∧ ∀ part, AtFirstBrace cs part → ¬ Balanced part := by
    constructor
    · intro h
      refine ⟨?_, fun part hpart hbalanced => ?_⟩
      · by_contra hnone
        simp [firstObject_of_notMem hnone] at h
      · obtain ⟨object, hobject, -⟩ := firstObject_of_balanced hpart hbalanced
        simp [hobject] at h
    · rintro ⟨hmem, hnone⟩
      cases h : firstObject cs with
      | ok object =>
        have hblock := firstObject_eq_ok_iff_isShortestBlock.mp h
        exact absurd hblock.balanced (hnone object hblock.start)
      | error e =>
        cases e with
        | absent => exact absurd hmem (habsent.mp h)
        | unbalanced => rfl
  refine ⟨fun object => firstObject_eq_ok_iff_isShortestBlock, ?_, ?_, fun object h => ⟨?_, fun before after hbefore =>
    firstObject_around h hbefore after⟩⟩
  · rw [← habsent, mapError_eq_error]
    constructor
    · rintro ⟨e, he, hmessage⟩
      cases e with
      | absent => exact he
      | unbalanced => exact absurd hmessage.symm hmessages
    · exact fun h => ⟨_, h, rfl⟩
  · rw [← hunbalanced, mapError_eq_error]
    constructor
    · rintro ⟨e, he, hmessage⟩
      cases e with
      | absent => exact absurd hmessage hmessages
      | unbalanced => exact he
    · exact fun h => ⟨_, h, rfl⟩
  · have haround := @firstObject_around _ _ [] h (by simp) []
    rwa [List.nil_append, List.append_nil] at haround

end Switchboard.Json
