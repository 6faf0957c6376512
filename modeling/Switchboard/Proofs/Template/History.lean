import Switchboard.Proofs.Members
import Switchboard.Template.Context
import Mathlib.Data.List.Infix

/-!
What records leave behind.

* `Context.recordAll` — outputs recorded one after the other: all of them in order
  (`outputs_recordAll`), and by name the last of each name (`lookup_recordAll`);
* `context_record`, `context_record_of_ne` — a record in one run of a history changes the context of that
  run and no other;
* `peek_named` — the outputs by name as a mapping;
* `context_of_isPrefix`, `isPrefix_record` — contexts that were there before a run was opened.
-/
namespace Switchboard

namespace Context

/-! ### One record -/

@[simp] theorem input_record (c : Context) (output : Value) (name : Option String) :
    (c.record output name).input = c.input := rfl

@[simp] theorem outputs_record (c : Context) (output : Value) (name : Option String) :
    (c.record output name).outputs = c.outputs ++ [output] := rfl

theorem lookup_cons (n other : String) (v : Value) (named : List (String × Value)) :
    ((n, v) :: named).lookup other = if n = other then some v else named.lookup other := by
  rw [List.lookup_cons]
  by_cases hname : n = other
  · simp [hname]
  · simp [hname, beq_eq_false_iff_ne.mpr (Ne.symm hname)]

theorem lookup_setNamed (name other : String) (output : Value) (named : List (String × Value)) :
    (setNamed name output named).lookup other
      = if name = other then some output else named.lookup other := by
  induction named with
  | nil => rw [setNamed, lookup_cons]
  | cons m rest ih =>
    obtain ⟨n, v⟩ := m
    rw [setNamed]
    by_cases hn : n = name
    · subst hn
      rw [if_pos rfl, lookup_cons, lookup_cons]
      by_cases hname : n = other <;> simp [hname]
    · rw [if_neg hn, lookup_cons, lookup_cons, ih]
      by_cases hname : n = other
      · subst hname
        rw [if_pos rfl, if_neg (Ne.symm hn), if_pos rfl]
      · rw [if_neg hname, if_neg hname]

/-- A record changes what its own name stands for, if it has one, and no other. -/
theorem lookup_record (c : Context) (output : Value) (name : Option String) (other : String) :
    (c.record output name).named.lookup other
      = if name = some other ∧ other ≠ "" then some output else c.named.lookup other := by
  cases name with
  | none => simp [record]
  | some name =>
    by_cases hempty : name = ""
    · subst hempty
      have hnot : ¬ (some "" = some other ∧ other ≠ "") := by
        rintro ⟨hname, hne⟩
        exact hne (Option.some.inj hname).symm
      rw [if_neg hnot]
      rfl
    · have hname : (some name = some other ∧ other ≠ "") ↔ name = other := by
        rw [Option.some.injEq]
        exact ⟨And.left, fun h => ⟨h, h ▸ hempty⟩⟩
      simp only [record, String.isEmpty_iff, hempty, if_false, lookup_setNamed, hname]

/-! ### Records one after the other -/

/-- Records outputs one after the other, each under its name. -/
def recordAll (c : Context) (records : List (Value × Option String)) : Context :=
  records.foldl (fun c r => c.record r.1 r.2) c

theorem recordAll_append (c : Context) (before after : List (Value × Option String)) :
    c.recordAll (before ++ after) = (c.recordAll before).recordAll after := List.foldl_append

@[simp] theorem input_recordAll (c : Context) (records : List (Value × Option String)) :
    (c.recordAll records).input = c.input := by
  induction records generalizing c with
  | nil => rfl
  | cons r rest ih => exact ih _

@[simp] theorem outputs_recordAll (c : Context) (records : List (Value × Option String)) :
    (c.recordAll records).outputs = c.outputs ++ records.map Prod.fst := by
  induction records generalizing c with
  | nil => simp [recordAll]
  | cons r rest ih =>
    have hrest := ih (c.record r.1 r.2)
    rw [outputs_record, List.append_assoc, List.singleton_append] at hrest
    exact hrest

/-- What a name stands for stays as long as it is not recorded again. -/
theorem lookup_recordAll_of_forall_ne (c : Context) {name : String}
    {records : List (Value × Option String)} (hnone : ∀ r ∈ records, r.2 ≠ some name) :
    (c.recordAll records).named.lookup name = c.named.lookup name := by
  induction records generalizing c with
  | nil => rfl
  | cons r rest ih =>
    obtain ⟨hr, hrest⟩ := List.forall_mem_cons.mp hnone
    have hlookup : (c.record r.1 r.2).named.lookup name = c.named.lookup name := by
      rw [lookup_record, if_neg fun h => hr h.1]
    rw [← hlookup]
    exact ih _ hrest

/-- The record at a position is the last one under its name. -/
structure LastUnder (records : List (Value × Option String)) (name : String) (i : Nat) : Prop where
  here : (records.map Prod.snd)[i]? = some (some name)
  after : ∀ r ∈ records.drop (i + 1), r.2 ≠ some name

/-- A name stands for the output that was recorded last under it. -/
theorem lookup_recordAll (c : Context) {records : List (Value × Option String)} {name : String}
    {i : Nat} (hlast : LastUnder records name i) (hne : name ≠ "") :
    ∃ output, (c.recordAll records).named.lookup name = some output ∧
      (records.map Prod.fst)[i]? = some output := by
  obtain ⟨⟨output, _⟩, hrecord, rfl⟩ : ∃ r, records[i]? = some r ∧ r.2 = some name := by
    simpa using hlast.here
  refine ⟨output, ?_, by simp [hrecord]⟩
  obtain ⟨hi, hget⟩ := List.getElem?_eq_some_iff.mp hrecord
  have hsplit : records = records.take i ++ (output, some name) :: records.drop (i + 1) := by
    rw [← hget, List.getElem_cons_drop, List.take_append_drop]
  rw [hsplit, recordAll_append]
  have hnamed : ((c.recordAll (records.take i)).record output (some name)).named.lookup name
      = some output := by
    rw [lookup_record, if_pos ⟨rfl, hne⟩]
  rw [← hnamed]
  exact lookup_recordAll_of_forall_ne _ hlast.after

end Context

namespace History

/-- The outputs by name are a mapping in which names stand for what they stand for in the run. -/
theorem peek_named (h : History) (run : Nat) :
    ∃ members, h.peek (.shared run .named) = .object members ∧
      ∀ name, Members.get? (.text name) members = (h.context run).named.lookup name :=
  ⟨_, rfl, fun name => Members.get?_fields name _⟩

/-! ### Records in one run of a history -/

@[simp] theorem length_record (h : History) (run : Nat) (output : Value) (name : Option String) :
    (h.record run output name).length = h.length := by
  simp [record]

/-- The context of the run in which an output is recorded. -/
theorem context_record {h : History} {run : Nat} (hrun : run < h.length) (output : Value)
    (name : Option String) :
    (h.record run output name).context run = (h.context run).record output name := by
  rw [context, context, record, List.getD_eq_getElem?_getD, List.getD_eq_getElem?_getD,
    List.getElem?_modify_eq, List.getElem?_eq_getElem hrun]
  rfl

/-- A record leaves the contexts of other runs as they are. -/
theorem context_record_of_ne {h : History} {run run' : Nat} (hne : run' ≠ run) (output : Value)
    (name : Option String) : (h.record run output name).context run' = h.context run' := by
  rw [context, context, record, List.getD_eq_getElem?_getD, List.getD_eq_getElem?_getD,
    List.getElem?_modify_ne _ _ hne.symm]

/-- A context that was there stays as it is when contexts are added. -/
theorem context_of_isPrefix {h h' : History} (hpre : h <+: h') {run : Nat}
    (hrun : run < h.length) : h'.context run = h.context run := by
  have hget := List.prefix_iff_getElem?.mp hpre run hrun
  rw [context, context, List.getD_eq_getElem?_getD, List.getD_eq_getElem?_getD, hget,
    List.getElem?_eq_getElem hrun]

/-- A record in a later run leaves the contexts that were there as they are. -/
theorem isPrefix_record {h h' : History} (hpre : h <+: h') {run : Nat} (hrun : h.length ≤ run)
    (output : Value) (name : Option String) : h <+: h'.record run output name := by
  rw [List.prefix_iff_getElem?] at hpre ⊢
  intro i hi
  rw [record, List.getElem?_modify_ne _ _ (by omega)]
  exact hpre i hi

/-- A run that was not opened has no records. -/
theorem record_of_length_le {h : History} {run : Nat} (hrun : h.length ≤ run) (output : Value)
    (name : Option String) : h.record run output name = h :=
  List.modify_eq_self hrun

/-- Records outputs one after the other in one run. -/
def recordAll (h : History) (run : Nat) (records : List (Value × Option String)) : History :=
  records.foldl (fun h r => h.record run r.1 r.2) h

@[simp] theorem length_recordAll (h : History) (run : Nat) (records : List (Value × Option String)) :
    (h.recordAll run records).length = h.length := by
  induction records generalizing h with
  | nil => rfl
  | cons r rest ih => exact (ih _).trans (length_record h run r.1 r.2)

/-- Records leave the contexts of other runs as they are. -/
theorem context_recordAll_of_ne {h : History} {run run' : Nat} (hne : run' ≠ run)
    (records : List (Value × Option String)) :
    (h.recordAll run records).context run' = h.context run' := by
  induction records generalizing h with
  | nil => rfl
  | cons r rest ih => exact ih.trans (context_record_of_ne hne r.1 r.2)

end History

end Switchboard
