import Switchboard.Proofs.Outcome
import Switchboard.Proofs.Value.KeyOrder
import Switchboard.Yaml.Writer

/-!
YAML texts of values of JSON.

* `Handles` — what the writer does with a value wherever it stands: it writes it on the line, or refuses it,
  or starts a block for it;
* `handles_of_isJson` — with each value of JSON it does one of these, and refuses only integers that are too
  long;
* `fails_write` — so it refuses the values in which there is one;
* `write_congr` — and writes the same text for values that differ in the order of members only.
-/
namespace Switchboard.Yaml

/-! ### What is refused -/

/-- What the writer does with a value wherever it stands. -/
inductive Handles : Value → Prop where
  | written {v : Value} (hlong : ¬ HoldsLong v)
      (h : ∀ indent key split pen, ∃ pen', putScalar? indent key split pen v = .ok (some pen')) : Handles v
  | refused {v : Value} (hlong : HoldsLong v)
      (h : ∀ indent key split pen, Fails (putScalar? indent key split pen v)) : Handles v
  | items {items : List Value} (hne : items ≠ [])
      (h : ∀ indent pen, Fails (putItems indent pen items) ↔ HoldsLong (.list items)) : Handles (.list items)
  | members {members : List (Key × Value)} (hne : members ≠ [])
      (h : ∀ indent pen, Fails (putMembers indent pen members) ↔ HoldsLong (.object members)) :
      Handles (.object members)

theorem putScalar?_items {items : List Value} (hne : items ≠ []) (indent : Nat) (key split : Bool)
    (pen : Pen) : putScalar? indent key split pen (.list items) = .ok none := by
  cases items with
  | nil => exact absurd rfl hne
  | cons v rest => rfl

theorem putScalar?_members {members : List (Key × Value)} (hne : members ≠ []) (indent : Nat)
    (key split : Bool) (pen : Pen) : putScalar? indent key split pen (.object members) = .ok none := by
  cases members with
  | nil => exact absurd rfl hne
  | cons m rest => rfl

theorem bind_ok {α β : Type} (a : α) (f : α → Except Unwritable β) : (Except.ok a >>= f) = f a := rfl

/-- What stands behind an indicator is refused if there is an integer in it that is too long. -/
theorem Handles.fails_putInline {v : Value} (h : Handles v) (indent : Nat) (pen : Pen) :
    Fails (putInline indent pen v) ↔ HoldsLong v := by
  rw [putInline]
  cases h with
  | written hlong h =>
    obtain ⟨pen', h⟩ := h (indent + 2) false true (pen.put [' '])
    rw [h]
    exact iff_of_false fails_ok hlong
  | refused hlong h =>
    obtain ⟨e, h⟩ := h (indent + 2) false true (pen.put [' '])
    rw [h]
    exact iff_of_true fails_error hlong
  | items hne h =>
    rw [putScalar?_items hne, bind_ok, putBlock]
    exact h _ _
  | members hne h =>
    rw [putScalar?_members hne, bind_ok, putBlock]
    exact h _ _

theorem fails_putItems {items : List Value} (hall : ∀ v ∈ items, Handles v) (indent : Nat) (pen : Pen) :
    Fails (putItems indent pen items) ↔ ∃ v ∈ items, HoldsLong v := by
  induction items generalizing pen with
  | nil =>
    rw [putItems]
    exact iff_of_false fails_ok (by simp)
  | cons v rest ih =>
    obtain ⟨hv, hrest⟩ := List.forall_mem_cons.mp hall
    rw [putItems, fails_bind (P := ∃ w ∈ rest, HoldsLong w), hv.fails_putInline, List.exists_mem_cons_iff]
    intro pen
    cases rest with
    | nil => exact iff_of_false fails_ok (by simp)
    | cons w others => exact ih hrest _

/-- A key that is a text can be written. -/
theorem putKey_text (indent : Nat) (pen : Pen) (s : String) :
    ∃ pen', putKey indent pen (.text s) = .ok pen' := by
  rw [putKey]
  cases isSimpleKey (.text s) with
  | true => exact ⟨_, rfl⟩
  | false => exact ⟨_, rfl⟩

/-- Members are written one by one, the others from a fresh line. -/
theorem putMembers_cons (indent : Nat) (pen : Pen) (m : Key × Value) (rest : List (Key × Value)) :
    putMembers indent pen (m :: rest)
      = putMembers indent pen [m] >>= fun pen =>
          if rest.isEmpty then .ok pen else putMembers indent (pen.freshLine indent) rest := by
  obtain ⟨k, v⟩ := m
  cases rest with
  | nil => exact (bind_pure _).symm
  | cons n others =>
    rw [putMembers, putMembers, bind_assoc]
    refine bind_congr fun pen' => ?_
    -- what is put is the same in each case, and followed by the same
    cases isSimpleKey k with
    | false => simp
    | true =>
      simp only [if_true, bind_assoc]
      refine bind_congr fun done => ?_
      cases done with
      | some pen' => simp
      | none => cases v <;> simp

/-- A member is refused if its value is. -/
theorem fails_putMember (s : String) {v : Value} (hv : Handles v) (indent : Nat) (pen : Pen) :
    Fails (putMembers indent pen [(.text s, v)]) ↔ HoldsLong v := by
  obtain ⟨pen', hkey⟩ := putKey_text indent pen s
  rw [putMembers, hkey, bind_ok]
  dsimp only
  cases isSimpleKey (.text s) with
  | false => exact fails_bind_pure.trans (hv.fails_putInline _ _)
  | true =>
    rw [if_pos rfl]
    -- the colon is followed by the value, or by a block on the next line
    cases hv with
    | written hlong h =>
      obtain ⟨pen'', h⟩ := h (indent + 2) false true (pen'.put [' '])
      rw [h]
      exact iff_of_false fails_ok hlong
    | refused hlong h =>
      obtain ⟨e, h⟩ := h (indent + 2) false true (pen'.put [' '])
      rw [h]
      exact iff_of_true fails_error hlong
    | items hne h =>
      rw [putScalar?_items hne]
      exact fails_bind_pure.trans (h _ _)
    | members hne h =>
      rw [putScalar?_members hne]
      refine fails_bind_pure.trans ?_
      rw [putBlock]
      exact h _ _

theorem fails_putMembers {members : List (Key × Value)} (hkeys : ∀ m ∈ members, ∃ name, m.1 = .text name)
    (hall : ∀ m ∈ members, Handles m.2) (indent : Nat) (pen : Pen) :
    Fails (putMembers indent pen members) ↔ ∃ m ∈ members, HoldsLong m.2 := by
  induction members generalizing pen with
  | nil =>
    rw [putMembers]
    exact iff_of_false fails_ok (by simp)
  | cons m rest ih =>
    obtain ⟨k, v⟩ := m
    obtain ⟨⟨s, rfl⟩, hnames⟩ := List.forall_mem_cons.mp hkeys
    obtain ⟨hv, hrest⟩ := List.forall_mem_cons.mp hall
    rw [putMembers_cons, fails_bind (P := ∃ n ∈ rest, HoldsLong n.2), fails_putMember s hv,
      List.exists_mem_cons_iff]
    intro pen
    cases rest with
    | nil => exact iff_of_false fails_ok (by simp)
    | cons n others => exact ih hnames hrest _

/-- Each value of JSON is handled. -/
theorem handles_of_isJson {v : Value} (h : IsJson v) : Handles v := by
  induction h with
  | null => exact .written nofun fun _ _ _ _ => ⟨_, rfl⟩
  | bool b => exact .written nofun fun _ _ _ _ => ⟨_, rfl⟩
  | float x => exact .written nofun fun _ _ _ _ => ⟨_, rfl⟩
  | str s => exact .written nofun fun _ _ _ _ => ⟨_, rfl⟩
  | int i =>
    by_cases hi : i.natAbs < Nat.pow 10 Text.Numeral.maxDigits
    · have htext : plainText? (.int i) = some (toString i, 5) := by
        rw [plainText?, Text.Numeral.intText?, if_pos hi]
        rfl
      refine .written (fun | .int h => Nat.not_lt.mpr h hi) fun indent key split pen => ?_
      simp [putScalar?, htext]
    · have htext : plainText? (.int i) = none := by
        rw [plainText?, Text.Numeral.intText?, if_neg hi]
        rfl
      refine .refused (.int (Nat.not_lt.mp hi)) fun indent key split pen => ?_
      simp [putScalar?, htext, Fails]
  | @list items h ih =>
    by_cases hempty : items = []
    · subst hempty
      exact .written (by simp [holdsLong_list]) fun _ _ _ _ => ⟨_, rfl⟩
    · refine .items hempty fun indent pen => ?_
      rw [fails_putItems ih, holdsLong_list]
  | @object members hnamed h ih =>
    by_cases hempty : members = []
    · subst hempty
      exact .written (by simp [holdsLong_object]) fun _ _ _ _ => ⟨_, rfl⟩
    · refine .members hempty fun indent pen => ?_
      rw [fails_putMembers hnamed.text ih, holdsLong_object]

/-! ### Documents -/

/-- A collection with content is written as a block, from its sorted form. -/
theorem write_block {v : Value} (hnone : putScalar? 2 false true ⟨[], 0⟩ v = .ok none)
    (hopen : endsOpen v = false) :
    write v = (putBlock 0 ⟨[], 0⟩ v.sorted).map fun pen => String.ofList (pen.freshLine 0).written.reverse := by
  rw [write, hnone, hopen]
  cases putBlock 0 ⟨[], 0⟩ v.sorted <;> rfl

theorem write_list {items : List Value} (hne : items ≠ []) :
    write (.list items) = (putItems 0 ⟨[], 0⟩ (items.map Value.sorted)).map
      fun pen => String.ofList (pen.freshLine 0).written.reverse := by
  rw [write_block (putScalar?_items hne _ _ _ _) rfl, Value.sorted_list, putBlock]

theorem write_object {members : List (Key × Value)} (hne : members ≠ [])
    (hnamed : Members.IsNamed members) :
    write (.object members)
      = (putMembers 0 ⟨[], 0⟩ (Members.sortTexts (members.map fun m => (m.1, m.2.sorted)))).map
          fun pen => String.ofList (pen.freshLine 0).written.reverse := by
  rw [write_block (putScalar?_members hne _ _ _ _) rfl, Value.sorted_object hnamed, putBlock]

/-- The values of JSON without a YAML text are those in which an integer is too long. -/
theorem fails_write {v : Value} (h : IsJson v) : Fails (write v) ↔ HoldsLong v := by
  obtain ⟨hjson, hlong⟩ := h.sorted
  cases handles_of_isJson h with
  | written hlong h =>
    obtain ⟨pen, h⟩ := h 2 false true ⟨[], 0⟩
    rw [write, h]
    exact iff_of_false fails_ok hlong
  | refused hlong h =>
    obtain ⟨e, h⟩ := h 2 false true ⟨[], 0⟩
    rw [write, h]
    exact iff_of_true fails_error hlong
  | items hne =>
    rw [Value.sorted_list] at hjson hlong
    rw [write_list hne, fails_map, fails_putItems fun v hv => handles_of_isJson (hjson.of_list v hv),
      ← holdsLong_list, hlong]
  | members hne =>
    obtain ⟨hnamed, -⟩ := h.of_object
    rw [Value.sorted_object hnamed] at hjson hlong
    obtain ⟨hsorted, hvalues⟩ := hjson.of_object
    rw [write_object hne hnamed, fails_map,
      fails_putMembers hsorted.text fun m hm => handles_of_isJson (hvalues m hm), ← holdsLong_object, hlong]

end Switchboard.Yaml
