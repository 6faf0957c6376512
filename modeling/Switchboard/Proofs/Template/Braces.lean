import Switchboard.Proofs.Text.Blank
import Switchboard.Template.Path

/-!
Expressions and their braces.

* `Inside`, `unwrap_iff` — the text of an expression without its braces and the blanks around it;
* `unwrap_isInfix` — this text stands in the expression;
* `unwrap_braced` — what is put between double braces is found there.
-/
namespace Switchboard.Template

/-- The text of an expression: blanks at the ends are dropped, one pair of double braces around the rest is
dropped, and then the blanks at the ends once more. -/
inductive Inside (cs : List Char) : List Char → Prop where
  | braces {inner : List Char} (h : Text.strip cs = opening ++ inner ++ closing) :
      Inside cs (Text.strip inner)
  | plain (h : ∀ inner, Text.strip cs ≠ opening ++ inner ++ closing) : Inside cs (Text.strip cs)

/-- A text that begins and ends with double braces has both of them: they do not overlap. -/
theorem startsWith_and_endsWith_iff {cs : List Char} :
    (Text.startsWith opening cs && Text.endsWith closing cs) = true
      ↔ ∃ inner, cs = opening ++ inner ++ closing := by
  have hend : Text.endsWith closing cs = true ↔ closing <:+ cs := by
    rw [Text.endsWith, Text.startsWith_iff, List.reverse_prefix]
  rw [Bool.and_eq_true, Text.startsWith_iff, hend]
  constructor
  · rintro ⟨⟨rest, rfl⟩, before, hclose⟩
    -- what stands in front of the closing braces begins with the opening ones
    rcases before with _ | ⟨first, _ | ⟨second, inner⟩⟩
    · simp [opening, closing] at hclose
    · simp [opening, closing] at hclose
    · have hrest : inner ++ closing = rest := by
        simpa [opening] using (List.cons.inj (List.cons.inj hclose).2).2
      exact ⟨inner, by rw [← hrest, List.append_assoc]⟩
  · rintro ⟨inner, rfl⟩
    exact ⟨⟨inner ++ closing, by simp⟩, List.suffix_append _ _⟩

/-- An expression has one text inside. -/
theorem unwrap_iff {cs body : List Char} : unwrap cs = body ↔ Inside cs body := by
  have hunwrap : Inside cs (unwrap cs) := by
    rw [unwrap]
    split
    · next hbraces =>
      obtain ⟨inner, hinner⟩ := startsWith_and_endsWith_iff.mp hbraces
      have hcut : ((Text.strip cs).drop 2).take ((Text.strip cs).length - 4) = inner := by
        rw [hinner]
        simp [opening, closing]
      rw [hcut]
      exact .braces hinner
    · next hplain =>
      exact .plain fun inner hinner => hplain (startsWith_and_endsWith_iff.mpr ⟨inner, hinner⟩)
  constructor
  · rintro rfl
    exact hunwrap
  · intro hinside
    generalize unwrap cs = found at hunwrap
    cases hunwrap with
    | braces h =>
      cases hinside with
      | braces h' =>
        have hinner := h.symm.trans h'
        rw [List.append_assoc, List.append_assoc, List.append_cancel_left_eq,
          List.append_cancel_right_eq] at hinner
        rw [hinner]
      | plain h' => exact absurd h (h' _)
    | plain h =>
      cases hinside with
      | braces h' => exact absurd h' (h _)
      | plain h' => rfl

theorem unwrap_isInfix (cs : List Char) : unwrap cs <:+: cs := by
  rw [unwrap]
  split
  · refine (Text.strip_isInfix _).trans ((List.take_prefix _ _).isInfix.trans ?_)
    exact (List.drop_suffix _ _).isInfix.trans (Text.strip_isInfix cs)
  · exact Text.strip_isInfix cs

/-- What stands between double braces is unwrapped, and stripped. -/
theorem unwrap_braced (cs : List Char) : unwrap (opening ++ cs ++ closing) = Text.strip cs := by
  refine unwrap_iff.mpr (.braces (Text.strip_of_ends (fun c hc => ?_) fun c hc => ?_))
  · obtain rfl : '{' = c := by simpa [opening] using hc
    decide
  · obtain rfl : '}' = c := by simpa [closing] using hc
    decide

end Switchboard.Template
