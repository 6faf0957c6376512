import Switchboard.Proofs.Members
import Switchboard.Proofs.Outcome
import Switchboard.Template.Evaluate

/-!
Where a path starts, and what one step of it comes to.

* `Starts`, `rootValue_eq_ok`, `rootValue_eq_error` — the value that a root stands for;
* `Enters` — a segment leads from a value to a part of it, and to one part only (`Enters.unique`);
* `hindrance` — the reason that a value gives where nothing leads on from it;
* `step_cases` — all that a step can come to: the value that the segment leads to, the reason that the value
  gives, or a position that is too long to be read.
-/
namespace Switchboard.Template

/-! ### Roots -/

/-- The value that a root stands for in a run. -/
inductive Starts (h : History) (run : Nat) : Root → Value → Prop where
  | input : Starts h run .input (h.context run).input
  | steps : Starts h run .steps (.shared run .outputs)
  | stepsByName : Starts h run .stepsByName (.shared run .named)
  | previousStep {v : Value} (hlast : (h.context run).outputs.getLast? = some v) :
      Starts h run .previousStep v

variable {h : History} {run : Nat} {path : Path} {v : Value}

theorem rootValue_eq_ok : rootValue h run path = .ok v ↔ Starts h run path.root v := by
  rw [rootValue]
  cases path.root with
  | input => exact ⟨fun hv => Except.ok.inj hv ▸ .input, by rintro (_ | _ | _ | _); rfl⟩
  | steps => exact ⟨fun hv => Except.ok.inj hv ▸ .steps, by rintro (_ | _ | _ | _); rfl⟩
  | stepsByName => exact ⟨fun hv => Except.ok.inj hv ▸ .stepsByName, by rintro (_ | _ | _ | _); rfl⟩
  | previousStep =>
    rw [Context.previous?]
    cases hlast : (h.context run).outputs.getLast? with
    | none =>
      refine iff_of_false (by simp) ?_
      rintro (_ | _ | _ | hv)
      simp [hlast] at hv
    | some output =>
      constructor
      · intro hv
        obtain rfl := Except.ok.inj hv
        exact .previousStep hlast
      · rintro (_ | _ | _ | hv)
        rw [hlast] at hv
        rw [Option.some.inj hv]

/-- Only the last output can be missing, where there is none. -/
theorem rootValue_eq_error {e : Error} :
    rootValue h run path = .error e ↔
      (path.root = .previousStep ∧ (h.context run).outputs = []) ∧
        .unresolved path.text .noPreviousStep = e := by
  rw [rootValue]
  cases path.root with
  | previousStep =>
    rw [Context.previous?]
    cases hlast : (h.context run).outputs.getLast? with
    | none => simp [List.getLast?_eq_none_iff.mp hlast]
    | some output =>
      have hne : (h.context run).outputs ≠ [] := by
        intro hnil
        simp [hnil] at hlast
      simp [hne]
  | _ => simp

/-- A root stands for one value. -/
theorem Starts.unique {start start' : Value} (hstart : Starts h run path.root start)
    (hstart' : Starts h run path.root start') : start' = start :=
  Except.ok.inj ((rootValue_eq_ok.mpr hstart').symm.trans (rootValue_eq_ok.mpr hstart))

/-! ### Segments -/

/-- The position in a list that a segment stands for: an index stands for itself, and a name that is made
of ASCII digits for the number that they write. -/
def Segment.number? : Segment → Option Nat
  | .index n => some n
  | .name key =>
    if key ≠ "" ∧ key.toList.all Text.isDigit then some (Text.digitsValue key.toList) else none

/-- A segment leads from a value to a part of it: from a mapping to what it has under the text of the
segment, and from a list to the item at the position that the segment stands for. -/
inductive Enters (h : History) (v : Value) (segment : Segment) (w : Value) : Prop where
  | member {members : List (Key × Value)} (hv : h.peek v = .object members)
      (hw : Members.get? (.text segment.text) members = some w) : Enters h v segment w
  | item {items : List Value} {position : Nat} (hv : h.peek v = .list items ∨ h.peek v = .tuple items)
      (hposition : segment.number? = some position) (hw : items[position]? = some w) :
      Enters h v segment w

/-- The reason that a path has no value when it stops at a value: nothing leads on from null, from a
mapping or a list nothing does under what was asked for, and all else has no parts. -/
def hindrance : Value → Reason
  | .null => .null
  | .object _ | .list _ | .tuple _ => .missing
  | _ => .type

variable {w w' : Value} {segment : Segment}

/-- A segment leads to one value only. -/
theorem Enters.unique (hw : Enters h v segment w) (hw' : Enters h v segment w') : w' = w := by
  rcases hw with ⟨hv, hw⟩ | ⟨hv | hv, hn, hw⟩ <;>
    rcases hw' with ⟨hv', hw'⟩ | ⟨hv' | hv', hn', hw'⟩ <;>
    simp_all

/-- A position is read, unless it has too many digits. -/
theorem position?_cases (segment : Segment) :
    position? segment = .ok segment.number? ∨
      ∃ digits, position? segment = .error (.tooManyDigits digits) := by
  cases segment with
  | index n => exact .inl rfl
  | name key =>
    have hcond : (!key.isEmpty && key.toList.all Text.isDigit) = true ↔
        key ≠ "" ∧ key.toList.all Text.isDigit = true := by simp
    rw [position?, Segment.number?]
    by_cases hdigits : key ≠ "" ∧ key.toList.all Text.isDigit = true
    · rw [if_pos (hcond.mpr hdigits), if_pos hdigits, readIndex]
      split
      · exact .inr ⟨_, rfl⟩
      · exact .inl rfl
    · rw [if_neg (mt hcond.mp hdigits), if_neg hdigits]
      exact .inl rfl

/-! ### Steps -/

/-- A step into a list, or into a tuple. -/
theorem step_of_items {h : History} {path here : String} {current : Value} {segment : Segment}
    {items : List Value} (hpeek : h.peek current = .list items ∨ h.peek current = .tuple items) :
    step h path here current segment = (position? segment).bind fun position =>
      match position.bind (items[·]?) with
      | some v => .ok v
      | none => .error (.unresolved path (.noProperty segment.text here
          ((List.range items.length).map toString))) := by
  rcases hpeek with hpeek | hpeek <;> rw [step, hpeek] <;> rfl

/-- What a step comes to: where the segment leads, or to the reason that the value gives when it leads
nowhere, or to nothing at all when the position in a list is too long to be read. -/
theorem step_cases (h : History) (path here : String) (v : Value) (segment : Segment) :
    (∃ w, step h path here v segment = .ok w ∧ Enters h v segment w) ∨
    (∃ cause, step h path here v segment = .error (.unresolved path cause) ∧
      cause.reason = hindrance (h.peek v) ∧ ∀ w, ¬ Enters h v segment w) ∨
    ∃ digits, step h path here v segment = .error (.tooManyDigits digits) ∧
      position? segment = .error (.tooManyDigits digits) := by
  cases hv : h.peek v with
  | object members =>
    simp only [step, hv]
    cases hget : Members.get? (.text segment.text) members with
    | some w => exact .inl ⟨w, rfl, .member hv hget⟩
    | none =>
      refine .inr (.inl ⟨_, rfl, rfl, ?_⟩)
      rintro w (⟨hv', hw⟩ | ⟨hv' | hv', -, -⟩) <;> simp_all
  | list items | tuple items =>
    have hitems : h.peek v = .list items ∨ h.peek v = .tuple items := by simp [hv]
    rw [step_of_items hitems]
    rcases position?_cases segment with hposition | ⟨digits, hposition⟩
    · rw [hposition]
      simp only [Except.bind]
      cases hitem : segment.number?.bind (items[·]?) with
      | some w =>
        obtain ⟨n, hn, hw⟩ := Option.bind_eq_some_iff.mp hitem
        exact .inl ⟨w, rfl, .item hitems hn hw⟩
      | none =>
        refine .inr (.inl ⟨_, rfl, rfl, ?_⟩)
        rintro w (⟨hv', hw⟩ | ⟨hv' | hv', hn, hw⟩) <;> simp_all
    · exact .inr (.inr ⟨digits, by rw [hposition]; rfl, hposition⟩)
  | _ =>
    simp only [step, hv]
    refine .inr (.inl ⟨_, rfl, rfl, ?_⟩)
    rintro w (⟨hv', -⟩ | ⟨hv' | hv', -, -⟩) <;> simp [hv] at hv'

/-- A step that was taken leads to where the segment leads. -/
theorem enters_of_step {path here : String} (hstep : step h path here v segment = .ok w) :
    Enters h v segment w := by
  rcases step_cases h path here v segment with ⟨w', hok, hw'⟩ | ⟨cause, herror, -⟩ | ⟨digits, herror, -⟩
  · obtain rfl := Except.ok.inj (hok.symm.trans hstep)
    exact hw'
  · simp [herror] at hstep
  · simp [herror] at hstep

end Switchboard.Template
