import Switchboard.Proofs.Template.Grammar
import Switchboard.Proofs.Template.Relabel

/-!
What becomes of a text in a template: it is evaluated, refused or kept.

* `Exact`, `whole_iff` — the texts that count as expressions are double braces around something without
  braces, with nothing else or with one line break behind;
* `evaluate_ne_embedded`, `evaluate_ne_text` — what expressions never come to: they are not refused for what
  they stand in, and where there is no data they give no text;
* `compile_text` — which of the three becomes of a text;
* `line_break_evaluated` — a text with a line break behind its expression is evaluated too.

Design notes: whether a text is evaluated is said by what it comes to. A text could come to the same as an
expression by chance, so the statement is about all runs at once: in a run without data an expression gives
no text, and in no run is it refused as an embedded one, which tells the three apart.
-/
namespace Switchboard.Template

/-! ### Exactly one expression -/

/-- A text that is double braces around something without braces, and nothing else. -/
def Exact (s : String) : Prop :=
  ∃ body, s.toList = opening ++ (body ++ closing) ∧ body ≠ [] ∧ ∀ c ∈ body, c ≠ '{' ∧ c ≠ '}'

theorem whole_iff {s : String} : Whole s ↔ Exact s ∨ ∃ t, Exact t ∧ s = t ++ "\n" := by
  have hbreak : "\n".toList = ['\n'] := rfl
  constructor
  · rintro ⟨body, tail, hs, hne, hinside, rfl | rfl⟩
    · exact .inl ⟨body, hs, hne, hinside⟩
    · refine .inr ⟨String.ofList (opening ++ (body ++ closing)), ⟨body, by simp, hne, hinside⟩, ?_⟩
      apply String.toList_injective
      rw [hs, String.toList_append, String.toList_ofList, hbreak]
      simp
  · rintro (⟨body, hs, hne, hinside⟩ | ⟨t, ⟨body, ht, hne, hinside⟩, rfl⟩)
    · exact ⟨body, closing, hs, hne, hinside, .inl rfl⟩
    · refine ⟨body, closing ++ ['\n'], ?_, hne, hinside, .inr rfl⟩
      rw [String.toList_append, ht, hbreak]
      simp

/-- A line break behind an expression is not part of what is read. -/
theorem unwrap_concat (cs : List Char) : unwrap (cs ++ ['\n']) = unwrap cs := by
  rw [unwrap, unwrap, Text.strip_concat cs (by decide)]

/-- An expression has the value that it has without a line break behind. -/
theorem evaluate_concat {h : History} {run : Nat} {s : String} {v : Value} :
    evaluate h run (s ++ "\n") = .ok v ↔ evaluate h run s = .ok v := by
  have hparse : ∀ path, Path.parse (s ++ "\n") = .ok path ↔ Path.parse s = .ok path := by
    intro path
    have htext : (s ++ "\n").toList = s.toList ++ ['\n'] := String.toList_append
    rw [Path.parse_eq, Path.parse_eq, htext, unwrap_concat]
    -- only the error for an empty path tells of the whole expression
    by_cases hempty : (unwrap s.toList).isEmpty
    · simp [hempty]
    · rw [if_neg hempty, if_neg hempty]
  rw [evaluate, evaluate, bind_eq_ok, bind_eq_ok]
  simp only [hparse]

/-! ### What expressions never come to -/

/-- An error that is not the one of a text with double braces inside. -/
def Error.IsOwn (e : Error) : Prop := ∀ template, e ≠ .embedded template

theorem Error.isOwn_unresolved (path : String) (cause : Cause) : IsOwn (.unresolved path cause) := by
  simp [IsOwn]

section Own

variable {h : History} {run : Nat} {e : Error}

theorem parse_own {expression : String} (he : Path.parse expression = .error e) : e.IsOwn := by
  rcases Path.parse_eq_error he with ⟨path, cause, rfl, -⟩ | ⟨digits, rfl, -⟩
  · exact Error.isOwn_unresolved path cause
  · simp [Error.IsOwn]

theorem rootValue_own {path : Path} (he : rootValue h run path = .error e) : e.IsOwn := by
  obtain ⟨-, rfl⟩ := rootValue_eq_error.mp he
  exact Error.isOwn_unresolved _ _

theorem step_own {path here : String} {current : Value} {segment : Segment}
    (he : step h path here current segment = .error e) : e.IsOwn := by
  rcases step_cases h path here current segment with ⟨_, hstep, -⟩ | ⟨_, hstep, -⟩ | ⟨_, hstep, -⟩
  · simp [hstep] at he
  · obtain rfl := Except.error.inj (hstep.symm.trans he)
    exact Error.isOwn_unresolved _ _
  · obtain rfl := Except.error.inj (hstep.symm.trans he)
    simp [Error.IsOwn]

theorem walk_own {path : Path} {walked segments : List Segment} {current : Value}
    (he : walk h path walked current segments = .error e) : e.IsOwn := by
  induction segments generalizing walked current with
  | nil => simp [walk] at he
  | cons segment rest ih =>
    rcases bind_eq_error.mp he with hstep | ⟨next, -, hrest⟩
    · exact step_own hstep
    · exact ih hrest

/-- An expression is not refused for what it stands in. -/
theorem evaluate_ne_embedded (h : History) (run : Nat) (expression template : String) :
    evaluate h run expression ≠ .error (.embedded template) := by
  intro he
  refine (?_ : Error.IsOwn (.embedded template)) template rfl
  rcases bind_eq_error.mp he with hparse | ⟨path, -, he⟩
  · exact parse_own hparse
  · rcases bind_eq_error.mp he with hroot | ⟨start, -, hwalk⟩
    · exact rootValue_own hroot
    · exact walk_own hwalk

end Own

/-- A run in which nothing can be referred to: it has no input and no outputs. -/
def bare : History := [.start .null]

/-- A bare run has nothing but its missing input and its empty collections. -/
theorem holds_bare {v : Value} (hv : bare.Holds 0 v) : v = .null ∨ ∃ ledger, v = .shared 0 ledger := by
  induction hv with
  | input => exact .inl rfl
  | shared ledger => exact .inr ⟨ledger, rfl⟩
  | item hv hitems hitem ih =>
    rcases ih with rfl | ⟨ledger, rfl⟩
    · rcases hitems with hitems | hitems <;> cases hitems
    · cases ledger with
      | outputs =>
        rcases hitems with hitems | hitems
        · obtain rfl := Value.list.inj hitems
          simp [bare, History.context, Context.start] at hitem
        · cases hitems
      | named => rcases hitems with hitems | hitems <;> cases hitems
  | member hv hmembers hmember ih =>
    rcases ih with rfl | ⟨ledger, rfl⟩
    · cases hmembers
    · cases ledger with
      | outputs => cases hmembers
      | named =>
        obtain rfl := Value.object.inj hmembers
        simp [bare, History.context, Context.start] at hmember

/-- No expression comes to a text in a bare run. -/
theorem evaluate_ne_text (expression s : String) : evaluate bare 0 expression ≠ .ok (.str s) := by
  intro hv
  rcases holds_bare (evaluate_holds hv) with hnull | ⟨ledger, hshared⟩
  · cases hnull
  · cases hshared

/-! ### Evaluated, refused or kept -/

/-- **What becomes of a text.** A text is evaluated exactly when it is double braces around something
without braces, or such with one line break behind. Any other text with double braces in it is refused,
with the text in the error, and a text without double braces is kept as it is. The line break makes no
difference to the value. -/
theorem compile_text (s : String) :
    (Whole s ↔ Exact s ∨ ∃ t, Exact t ∧ s = t ++ "\n") ∧
    ((∀ h run, compile h run (.str s) = evaluate h run s) ↔ Whole s) ∧
    ((∀ h run, compile h run (.str s) = .error (.embedded s)) ↔ opening <:+: s.toList ∧ ¬ Whole s) ∧
    ((∀ h run, compile h run (.str s) = .ok (.str s)) ↔ ¬ opening <:+: s.toList) ∧
    ∀ t, Exact t → s = t ++ "\n" →
      ∀ h run v, compile h run (.str s) = .ok v ↔ compile h run (.str t) = .ok v := by
  have hevaluated : ∀ {t}, Whole t → ∀ h run, compile h run (.str t) = evaluate h run t := by
    intro t hwhole h run
    rw [compile, compileText, if_pos (isWhole_iff.mpr hwhole)]
  have hrefused : ¬ Whole s → opening <:+: s.toList →
      ∀ h run, compile h run (.str s) = .error (.embedded s) := by
    intro hnot hopening h run
    rw [compile]
    exact compileText_eq_error.mpr (.embedded hnot hopening)
  have hkept : ¬ opening <:+: s.toList → ∀ h run, compile h run (.str s) = .ok (.str s) := by
    intro hplain h run
    rw [compile]
    exact compileText_eq_ok.mpr (.plain hplain)
  refine ⟨whole_iff, ⟨fun heq => ?_, hevaluated⟩, ⟨fun heq => ?_, fun ⟨hopening, hnot⟩ =>
    hrefused hnot hopening⟩, ⟨fun heq => ?_, hkept⟩, ?_⟩
  · by_contra hnot
    by_cases hopening : opening <:+: s.toList
    · exact evaluate_ne_embedded bare 0 s s ((heq bare 0).symm.trans (hrefused hnot hopening bare 0))
    · exact evaluate_ne_text s s ((heq bare 0).symm.trans (hkept hopening bare 0))
  · refine ⟨?_, fun hwhole => ?_⟩
    · by_contra hplain
      exact absurd ((heq bare 0).symm.trans (hkept hplain bare 0)) (by simp)
    · exact evaluate_ne_embedded bare 0 s s ((hevaluated hwhole bare 0).symm.trans (heq bare 0))
  · intro hopening
    by_cases hwhole : Whole s
    · exact evaluate_ne_text s s ((hevaluated hwhole bare 0).symm.trans (heq bare 0))
    · exact absurd ((heq bare 0).symm.trans (hrefused hwhole hopening bare 0)) (by simp)
  · rintro t ht rfl h run v
    rw [hevaluated (whole_iff.mpr (.inr ⟨t, ht, rfl⟩)), hevaluated (whole_iff.mpr (.inl ht)),
      evaluate_concat]

/-- A text that has a line break behind its expression is not exactly one expression, and yet it is
evaluated. -/
theorem line_break_evaluated :
    opening <:+: "\x7b\x7binput\x7d\x7d\n".toList ∧ ¬ Exact "\x7b\x7binput\x7d\x7d\n" ∧
      compile [.start (.int 7)] 0 (.str "\x7b\x7binput\x7d\x7d\n") = .ok (.int 7) := by
  refine ⟨Text.contains_iff.mp rfl, ?_, rfl⟩
  rintro ⟨body, hs, -⟩
  -- an exact text ends with a brace
  have hlast : some '\n' = some '}' := by
    have hends := congrArg List.getLast? hs
    rwa [← List.append_assoc, List.getLast?_append] at hends
  exact absurd hlast (by decide)

end Switchboard.Template
