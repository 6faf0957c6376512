import Switchboard.Proofs.Outcome
import Switchboard.Proofs.Template.Relabel

/-!
Outcomes of expressions up to the reasons for which they fail.

* `byReason`, `Agree` — an outcome with the reason of its failure only, and outcomes that are then the same;
* `byReason_bind`, `byReason_map`, `byReason_mapM` — computations step by step;
* `step_agree`, `walk_agree`, `rootValue_agree` — how a path is written and names the places it comes to makes
  no difference;
* `Segment.sense`, `walk_agree_of_sense`, `path_agree` — nor does a segment that a step takes for another.
-/
namespace Switchboard.Template

/-- The reason that a failed path is put down to; other failures have none. -/
def Error.reason? : Error → Option Reason
  | .unresolved _ cause => some cause.reason
  | .embedded _ | .tooManyDigits _ => none

variable {α β : Type}

/-- An outcome with the reason of its failure only. -/
def byReason (x : Except Error α) : Except (Option Reason) α := x.mapError Error.reason?

/-- Two computations give the same, or fail for the same reason. -/
def Agree (x y : Except Error α) : Prop := byReason x = byReason y

theorem Agree.symm {x y : Except Error α} (h : Agree x y) : Agree y x := Eq.symm h

theorem Agree.trans {x y z : Except Error α} (h : Agree x y) (h' : Agree y z) : Agree x z :=
  Eq.trans h h'

@[simp] theorem byReason_ok (a : α) : byReason (.ok a) = .ok a := rfl

@[simp] theorem byReason_error (e : Error) :
    byReason (.error e : Except Error α) = .error e.reason? := rfl

theorem byReason_eq_ok {x : Except Error α} {a : α} : byReason x = .ok a ↔ x = .ok a :=
  mapError_eq_ok

/-- What agrees with a value is this value. -/
theorem Agree.eq_ok {x y : Except Error α} (h : Agree x y) {a : α} (hy : y = .ok a) : x = .ok a :=
  byReason_eq_ok.mp (Eq.trans h (byReason_eq_ok.mpr hy))

theorem byReason_bind (x : Except Error α) (f : α → Except Error β) :
    byReason (x >>= f) = byReason x >>= fun a => byReason (f a) := by
  cases x <;> rfl

theorem byReason_map (x : Except Error α) (f : α → β) : byReason (x.map f) = (byReason x).map f := by
  cases x <;> rfl

theorem byReason_mapM (f : α → Except Error β) (as : List α) :
    byReason (as.mapM f) = as.mapM fun a => byReason (f a) := by
  induction as with
  | nil => rfl
  | cons a rest ih =>
    rw [List.mapM_cons, List.mapM_cons, ← ih]
    simp only [byReason_bind]
    rfl

/-- Where a step starts is named in its messages only. -/
theorem step_agree (h : History) (path here path' here' : String) (v : Value) (segment : Segment) :
    Agree (step h path here v segment) (step h path' here' v segment) := by
  have hitems : ∀ items, h.peek v = .list items ∨ h.peek v = .tuple items →
      Agree (step h path here v segment) (step h path' here' v segment) := by
    intro items hv
    rw [Agree, step_of_items hv, step_of_items hv]
    cases position? segment with
    | error e => rfl
    | ok position => simp only [Except.bind]; split <;> rfl
  cases hv : h.peek v with
  | list items => exact hitems items (.inl hv)
  | tuple items => exact hitems items (.inr hv)
  | object members =>
    rw [Agree, step, step, hv]
    simp only
    split <;> rfl
  | _ =>
    rw [Agree, step, step, hv]
    rfl

/-- All that a step needs of a segment: its text, and its position in a list. -/
def Segment.sense (segment : Segment) : String × Except Error (Option Nat) :=
  (segment.text, position? segment)

/-- A step depends on the sense of its segment only. -/
theorem step_of_sense {h : History} {path here : String} {v : Value} {segment segment' : Segment}
    (hsense : segment.sense = segment'.sense) : step h path here v segment = step h path here v segment' := by
  obtain ⟨htext, hposition⟩ := Prod.mk.inj hsense
  rw [step, step, htext, hposition]

/-- Segments that make the same sense one by one lead to the same, or stop for the same reason, whatever path they
belong to. -/
theorem walk_agree_of_sense {h : History} {path path' : Path} {segments segments' : List Segment}
    (hsense : segments.map Segment.sense = segments'.map Segment.sense) {walked walked' : List Segment}
    {v : Value} : Agree (walk h path walked v segments) (walk h path' walked' v segments') := by
  induction segments generalizing segments' walked walked' v with
  | nil =>
    obtain rfl := List.map_eq_nil_iff.mp hsense.symm
    rfl
  | cons segment rest ih =>
    obtain ⟨segment', rest', rfl, hfirst, hrest⟩ := List.map_eq_cons_iff.mp hsense.symm
    have hstep := step_agree h path.text
      (place (if path.explicitRoot then some path.root else none) walked) path'.text
      (place (if path'.explicitRoot then some path'.root else none) walked') v segment
    rw [Agree] at hstep ⊢
    rw [walk, walk, byReason_bind, byReason_bind, hstep, step_of_sense hfirst.symm]
    exact congrArg _ (funext fun next => ih hrest.symm)

/-- What a path is written like makes no difference to where its segments lead. -/
theorem walk_agree (h : History) (path path' : Path) (walked walked' : List Segment) (v : Value)
    (segments : List Segment) :
    Agree (walk h path walked v segments) (walk h path' walked' v segments) :=
  walk_agree_of_sense rfl

theorem rootValue_agree (h : History) (run : Nat) {path path' : Path} (hroot : path'.root = path.root) :
    Agree (rootValue h run path) (rootValue h run path') := by
  rw [Agree, rootValue, rootValue, hroot]
  cases path.root with
  | previousStep => cases (h.context run).previous? <;> rfl
  | _ => rfl

/-- Paths from the same root, whose segments make the same sense, come to the same. -/
theorem path_agree (h : History) (run : Nat) {path path' : Path} (hroot : path'.root = path.root)
    (hsense : path.segments.map Segment.sense = path'.segments.map Segment.sense) :
    Agree (rootValue h run path >>= fun start => walk h path [] start path.segments)
      (rootValue h run path' >>= fun start => walk h path' [] start path'.segments) := by
  have hstart := rootValue_agree h run hroot
  rw [Agree] at hstart ⊢
  rw [byReason_bind, byReason_bind, hstart]
  exact congrArg _ (funext fun start => walk_agree_of_sense hsense)

end Switchboard.Template
