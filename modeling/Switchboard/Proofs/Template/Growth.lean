import Switchboard.Proofs.Template.Apart
import Switchboard.Proofs.Template.History
import Switchboard.Proofs.Template.Walk

/-!
References stay while a chain goes on.

* `Context.GrowsTo`, `History.GrowsTo` — nothing that was there is lost or replaced: one record under a new
  name does this (`Context.GrowsTo.record`), and so do any number of them (`History.GrowsTo.recordAll`);
* `step_of_growsTo`, `walk_of_growsTo`, `evaluate_of_growsTo` — what a path led to it still leads to;
* `evaluate_stays` — after further records an expression has the value that it had, which looks as before
  unless the collections of the run are to be seen in it.
-/
namespace Switchboard

/-! ### Growth -/

/-- A context has grown to another: its input is the same, its outputs have stayed at their positions, and
its names still stand for what they stood for. -/
structure Context.GrowsTo (c c' : Context) : Prop where
  input : c'.input = c.input
  outputs : c.outputs <+: c'.outputs
  named : ∀ name v, c.named.lookup name = some v → c'.named.lookup name = some v

/-- The contexts of all runs have grown. -/
def History.GrowsTo (h h' : History) : Prop := ∀ run, (h.context run).GrowsTo (h'.context run)

/-- The names under which a run has recorded outputs. -/
def History.names (h : History) (run : Nat) : List String := (h.context run).named.map Prod.fst

namespace Context

theorem GrowsTo.refl (c : Context) : c.GrowsTo c := ⟨rfl, List.prefix_rfl, fun _ _ h => h⟩

/-- A name that stands for something is among the names. -/
theorem mem_of_lookup {named : List (String × Value)} {name : String} {v : Value}
    (h : named.lookup name = some v) : name ∈ named.map Prod.fst := by
  obtain ⟨before, after, rfl, -⟩ := List.lookup_eq_some_iff.mp h
  simp

/-- A record whose name is new, or empty, loses nothing. -/
theorem GrowsTo.record {c c' : Context} (h : c.GrowsTo c') {name : Option String}
    (hnew : ∀ n, name = some n → n ≠ "" → n ∉ c.named.map Prod.fst) (output : Value) :
    c.GrowsTo (c'.record output name) := by
  refine ⟨h.input, h.outputs.trans (List.prefix_append _ _), fun other v hother => ?_⟩
  have hnot : ¬ (name = some other ∧ other ≠ "") := fun ⟨hname, hne⟩ =>
    hnew other hname hne (mem_of_lookup hother)
  rw [lookup_record, if_neg hnot]
  exact h.named other v hother

end Context

namespace History

variable {h h' : History} {run : Nat}

theorem GrowsTo.refl (h : History) : h.GrowsTo h := fun run => .refl (h.context run)

/-- A record in a run whose name is new to this run, or empty, loses nothing. -/
theorem GrowsTo.record (hgrows : h.GrowsTo h') {name : Option String}
    (hnew : ∀ n, name = some n → n ≠ "" → n ∉ h.names run) (output : Value) :
    h.GrowsTo (h'.record run output name) := by
  rcases Nat.lt_or_ge run h'.length with hrun | hrun
  · intro run'
    by_cases hsame : run' = run
    · subst hsame
      rw [context_record hrun]
      exact (hgrows run').record hnew output
    · rw [context_record_of_ne hsame]
      exact hgrows run'
  · rw [record_of_length_le hrun]
    exact hgrows

/-- Neither do any number of such records. -/
theorem GrowsTo.recordAll (hgrows : h.GrowsTo h') {records : List (Value × Option String)}
    (hnew : ∀ r ∈ records, ∀ name, r.2 = some name → name ≠ "" → name ∉ h.names run) :
    h.GrowsTo (h'.recordAll run records) := by
  induction records generalizing h' with
  | nil => exact hgrows
  | cons r rest ih =>
    obtain ⟨hr, hrest⟩ := List.forall_mem_cons.mp hnew
    exact ih (hgrows.record hr r.1) hrest

end History

/-! ### Paths in what has grown -/

namespace Template

variable {h h' : History} {run : Nat} {path : Path} {walked segments : List Segment} {v w : Value}

/-- A step that was taken is taken again, to the same value. -/
theorem step_of_growsTo (hgrows : h.GrowsTo h') {path here : String} {segment : Segment}
    (hstep : step h path here v segment = .ok w) : step h' path here v segment = .ok w := by
  -- nothing but a shared collection is looked up in the history
  cases v with
  | shared run ledger =>
    cases ledger with
    | outputs =>
      have hitems : ∀ h : History, h.peek (.shared run .outputs) = .list (h.context run).outputs :=
        fun _ => rfl
      rw [step_of_items (.inl (hitems _))] at hstep ⊢
      obtain ⟨position, hposition, hstep⟩ := bind_eq_ok.mp hstep
      cases hitem : position.bind ((h.context run).outputs[·]?) with
      | none => simp [hitem] at hstep
      | some u =>
        obtain ⟨i, rfl, hi⟩ := Option.bind_eq_some_iff.mp hitem
        obtain ⟨hlt, hget⟩ := List.getElem?_eq_some_iff.mp hi
        have hkept : (h'.context run).outputs[i]? = some u :=
          hget ▸ List.prefix_iff_getElem?.mp (hgrows run).outputs i hlt
        rw [hposition]
        simp only [hitem] at hstep
        simp only [Except.bind, Option.bind_some, hkept, hstep]
    | named =>
      obtain ⟨members, hmembers, hget⟩ := h.peek_named run
      obtain ⟨members', hmembers', hget'⟩ := h'.peek_named run
      rw [step, hmembers] at hstep
      rw [step, hmembers']
      simp only [hget] at hstep
      simp only [hget']
      cases hname : (h.context run).named.lookup segment.text with
      | none => simp [hname] at hstep
      | some u =>
        simp only [hname] at hstep
        simp only [(hgrows run).named _ _ hname, hstep]
  | _ => exact hstep

/-- Segments that led to a value still lead there. -/
theorem walk_of_growsTo (hgrows : h.GrowsTo h') {u : Value}
    (hwalk : walk h path walked v segments = .ok u) : walk h' path walked v segments = .ok u := by
  induction segments generalizing walked v with
  | nil => exact hwalk
  | cons segment rest ih =>
    obtain ⟨next, hstep, hrest⟩ := bind_eq_ok.mp hwalk
    rw [walk, step_of_growsTo hgrows hstep]
    exact ih hrest

/-- All roots but the last output stand for the same value as before. -/
theorem rootValue_of_growsTo (hgrows : h.GrowsTo h') (hroot : path.root ≠ .previousStep) :
    rootValue h' run path = rootValue h run path := by
  rw [rootValue, rootValue]
  cases hpath : path.root with
  | input => simp only [(hgrows run).input]
  | steps | stepsByName => rfl
  | previousStep => exact absurd hpath hroot

/-- An expression with another root than the last output keeps its value. -/
theorem evaluate_of_growsTo (hgrows : h.GrowsTo h') {expression : String}
    (hparse : Path.parse expression = .ok path) (hroot : path.root ≠ .previousStep)
    (hv : evaluate h run expression = .ok v) : evaluate h' run expression = .ok v := by
  rw [evaluate_of_parse hparse] at hv ⊢
  obtain ⟨start, hstart, hwalk⟩ := bind_eq_ok.mp hv
  rw [rootValue_of_growsTo hgrows hroot, hstart]
  exact walk_of_growsTo hgrows hwalk

end Template

/-! ### Expressions -/

namespace Template

/-- **References stay while a chain goes on.** Take an expression with another root than the last output,
and a value that it has in a run. After any further records in this run whose names are new to it, or
empty, the expression has this value still. If the value is one of the collections of the run, or holds
one, that is the same collection as before, which shows the new records too; if none is to be seen in it,
it looks as before. -/
theorem evaluate_stays {h : History} {run : Nat} {expression : String} {path : Path}
    (hparse : Path.parse expression = .ok path) (hroot : path.root ≠ .previousStep) {v : Value}
    (hv : evaluate h run expression = .ok v) {records : List (Value × Option String)}
    (hnew : ∀ r ∈ records, ∀ name, r.2 = some name → name ≠ "" → name ∉ h.names run) :
    evaluate (h.recordAll run records) run expression = .ok v ∧
      (h.Apart run v → (h.recordAll run records).reveal v = h.reveal v) :=
  ⟨evaluate_of_growsTo ((History.GrowsTo.refl h).recordAll hnew) hparse hroot hv,
    History.reveal_of_apart (h.length_recordAll run records)
      fun _ hne => History.context_recordAll_of_ne hne records⟩

/-- A run in which one step has completed. -/
def halfway : History := [(Context.start .null).record (.ofFields [("text", .int 7)]) (some "first")]

/-- A part of the first output keeps its value when three more outputs are recorded, two of them without a
name to speak of. -/
theorem halfway_stays :
    Path.parse "\x7b\x7bfirst.text\x7d\x7d"
        = .ok ⟨"first.text", .stepsByName, [.name "first", .name "text"], false⟩ ∧
      evaluate halfway 0 "\x7b\x7bfirst.text\x7d\x7d" = .ok (.int 7) ∧ "second" ∉ halfway.names 0 ∧
      evaluate (halfway.recordAll 0 [(.int 1, some "second"), (.int 2, some ""), (.int 3, none)]) 0
          "\x7b\x7bfirst.text\x7d\x7d" = .ok (.int 7) ∧
      (halfway.recordAll 0 [(.int 1, some "second"), (.int 2, some ""), (.int 3, none)]).reveal
          (.int 7) = .int 7 := by
  have hparse : Path.parse "\x7b\x7bfirst.text\x7d\x7d"
      = .ok ⟨"first.text", .stepsByName, [.name "first", .name "text"], false⟩ := by decide
  have hvalue : evaluate halfway 0 "\x7b\x7bfirst.text\x7d\x7d" = .ok (.int 7) := rfl
  have hsecond : "second" ∉ halfway.names 0 := by decide
  have hnew : ∀ r ∈ [(Value.int 1, some "second"), (.int 2, some ""), (.int 3, none)],
      ∀ name, r.2 = some name → name ≠ "" → name ∉ halfway.names 0 := by simpa using hsecond
  obtain ⟨hstays, hlooks⟩ := evaluate_stays hparse (by decide) hvalue hnew
  have hapart : halfway.Apart 0 (.int 7) := History.apart_of_isPlain (fun _ => rfl) halfway 0
  exact ⟨hparse, hvalue, hsecond, hstays, (hlooks hapart).trans rfl⟩

/-- All outputs by name are one collection, which has the records that come later. -/
example : evaluate halfway 0 "\x7b\x7bstepsByName\x7d\x7d" = .ok (.shared 0 .named) ∧
    halfway.reveal (.shared 0 .named) = .ofFields [("first", .ofFields [("text", .int 7)])] ∧
    (halfway.record 0 (.int 1) (some "second")).reveal (.shared 0 .named)
      = .ofFields [("first", .ofFields [("text", .int 7)]), ("second", .int 1)] := ⟨rfl, rfl, rfl⟩

end Template

end Switchboard
