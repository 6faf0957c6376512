import Switchboard.Json.Writer
import Switchboard.Proofs.Outcome
import Switchboard.Proofs.Value.KeyOrder

/-!
JSON texts of values, and which values have none.

* `memberText`, `write_list`, `write_object` — lists and sorted mappings are written part by part;
* `write_ofFields` — so is a mapping with texts as keys, in compact texts;
* `IsWritable` — values that have a compact text however deep they are nested: texts, and whatever is put
  together from what is writable;
* `Unwritable` — a number that is not finite or too long, or data that JSON does not know, anywhere in a
  value, or such a key of a mapping in it;
* `fails_write`, `exists_compactText_iff` — those are the values without a compact text, at any depth, and all
  others have one;
* `write_eq_of_sameButOrder` — where members stand in key order, values of JSON that differ in the order of
  members only have the same text;
* `fails_write_ordered` — the values of JSON without such a text are those in which an integer is too long,
  where numbers that are not finite have names.
-/
namespace Switchboard.Json

variable {layout : Layout}

/-! ### Part by part -/

/-- The text of a member. -/
def memberText (layout : Layout) (level : Nat) (m : Key × Value) : Except WriteError String := do
  let key ← keyText layout m.1
  let value ← write layout level m.2
  return key ++ layout.keySep ++ value

theorem writeItems_eq_mapM (layout : Layout) (level : Nat) (items : List Value) :
    writeItems layout level items = items.mapM (write layout level) := by
  induction items with
  | nil => rfl
  | cons v rest ih => rw [writeItems, List.mapM_cons, ih]

theorem writeMembers_eq_map (layout : Layout) (level : Nat) (members : List (Key × Value)) :
    writeMembers layout level members = members.map fun m => (m.1, memberText layout level m) := by
  induction members with
  | nil => rfl
  | cons m rest ih => rw [writeMembers, ih, List.map_cons, memberText]

theorem write_list (layout : Layout) (level : Nat) (items : List Value) :
    write layout level (.list items)
      = (items.mapM (write layout (level + 1))).map (enclose layout level "[" "]") := by
  rw [write, writeItems_eq_mapM]
  cases items.mapM (write layout (level + 1)) <;> rfl

/-- A mapping whose members are sorted is written from its sorted members. -/
theorem write_object (horder : layout.inOrder = true) (level : Nat) (members : List (Key × Value)) :
    write layout level (.object members)
      = ((Members.sort (members.map fun m => (m.1, memberText layout (level + 1) m))).mapError
          .unordered >>= fun written => written.mapM (fun m => m.2)).map
            (enclose layout level "\x7b" "\x7d") := by
  rw [write, writeMembers_eq_map, if_pos horder]
  cases Members.sort (members.map fun m => (m.1, memberText layout (level + 1) m)) with
  | error e => rfl
  | ok written =>
    have hwritten : ∀ {texts : Except WriteError (List String)},
        (texts >>= fun texts => pure (enclose layout level "\x7b" "\x7d" texts))
          = texts.map (enclose layout level "\x7b" "\x7d") := by
      intro texts
      cases texts <;> rfl
    exact hwritten

/-! ### Compact mappings -/

theorem enclose_compact (level : Nat) (opening closing : String) (items : List String) :
    enclose .compact level opening closing items = opening ++ Text.join "," items ++ closing := by
  cases items with
  | nil => simp [enclose, Text.join]
  | cons item rest => simp [enclose, Layout.break, Layout.compact]

/-- The text of a member of a compact mapping that is nested in `level` others. -/
def fieldText (level : Nat) (field : String × Value) : Except WriteError String :=
  (write .compact (level + 1) field.2).map fun text => stringText false field.1 ++ ":" ++ text

theorem fieldText_str (level : Nat) (name s : String) :
    fieldText level (name, .str s) = .ok (stringText false name ++ ":" ++ stringText false s) := rfl

theorem memberText_text (level : Nat) (field : String × Value) :
    memberText .compact (level + 1) (.text field.1, field.2) = fieldText level field := by
  rw [memberText, fieldText]
  cases write .compact (level + 1) field.2 <;> rfl

/-- The text of a mapping from texts is put together from those of its members. -/
theorem write_ofFields (level : Nat) (fields : List (String × Value)) :
    write .compact level (.ofFields fields)
      = (fields.mapM (fieldText level)).map fun texts => "\x7b" ++ Text.join "," texts ++ "\x7d" := by
  have hmembers : (writeMembers .compact (level + 1)
      (fields.map fun field => (Key.text field.1, field.2))).mapM (·.2) = fields.mapM (fieldText level) := by
    rw [writeMembers_eq_map, List.mapM_map, List.mapM_map]
    exact mapM_congr fun field _ => memberText_text level field
  have horder : Layout.compact.inOrder = false := rfl
  simp only [Value.ofFields, write, horder, Bool.false_eq_true, if_false, enclose_compact]
  simp only [pure, Except.pure, bind, Except.bind, hmembers]
  cases fields.mapM (fieldText level) <;> rfl

/-! ### Values with a text -/

/-- A value that has a compact text however deep it is nested. -/
def IsWritable (v : Value) : Prop := ∀ level, ∃ text, write .compact level v = .ok text

theorem isWritable_str (s : String) : IsWritable (.str s) := fun _ => ⟨_, rfl⟩

theorem isWritable_int {i : Int} (h : i.natAbs < Nat.pow 10 maxDigits) : IsWritable (.int i) :=
  fun _ => ⟨_, by rw [write, intText, if_pos h]⟩

theorem isWritable_zero : IsWritable (.int 0) := by
  have hpow (n : Nat) : (0 : Int).natAbs < Nat.pow 10 n := Nat.pow_pos (by decide)
  exact isWritable_int (hpow maxDigits)

theorem isWritable_list {items : List Value} (h : ∀ v ∈ items, IsWritable v) :
    IsWritable (.list items) := by
  intro level
  obtain ⟨texts, htexts⟩ := exists_mapM (f := write .compact (level + 1)) fun v hv => h v hv (level + 1)
  exact ⟨_, by rw [write_list, htexts]; rfl⟩

theorem isWritable_ofFields {fields : List (String × Value)}
    (h : ∀ field ∈ fields, IsWritable field.2) : IsWritable (.ofFields fields) := by
  intro level
  obtain ⟨texts, htexts⟩ := exists_mapM (f := fieldText level) fun field hfield => by
    obtain ⟨text, htext⟩ := h field hfield (level + 1)
    exact ⟨_, map_eq_ok.mpr ⟨text, htext, rfl⟩⟩
  exact ⟨_, by rw [write_ofFields, htexts]; rfl⟩

/-! ### Values without a text -/

/-- A key that cannot stand in a JSON text. -/
inductive UnwritableKey : Key → Prop where
  | int {i : Int} (h : Nat.pow 10 maxDigits ≤ i.natAbs) : UnwritableKey (.int i)
  | float {x : Float} (h : x.isFinite = false) : UnwritableKey (.float x)
  | moment (m : Moment) : UnwritableKey (.moment m)
  | bytes (data : List UInt8) : UnwritableKey (.bytes data)

/-- A value without a JSON text: something in it, or a key of something in it, has none. -/
inductive Unwritable : Value → Prop where
  | int {i : Int} (h : Nat.pow 10 maxDigits ≤ i.natAbs) : Unwritable (.int i)
  | float {x : Float} (h : x.isFinite = false) : Unwritable (.float x)
  | set (keys : List Key) : Unwritable (.set keys)
  | moment (m : Moment) : Unwritable (.moment m)
  | bytes (data : List UInt8) : Unwritable (.bytes data)
  | foreign (kind : String) : Unwritable (.foreign kind)
  | shared (run : Nat) (ledger : Ledger) : Unwritable (.shared run ledger)
  | enclosing (isMapping : Bool) : Unwritable (.enclosing isMapping)
  | item {items : List Value} {v : Value} (hmem : v ∈ items) (h : Unwritable v) :
      Unwritable (.list items)
  | part {items : List Value} {v : Value} (hmem : v ∈ items) (h : Unwritable v) :
      Unwritable (.tuple items)
  | key {members : List (Key × Value)} {m : Key × Value} (hmem : m ∈ members)
      (h : UnwritableKey m.1) : Unwritable (.object members)
  | member {members : List (Key × Value)} {m : Key × Value} (hmem : m ∈ members)
      (h : Unwritable m.2) : Unwritable (.object members)

theorem unwritable_list {items : List Value} :
    Unwritable (.list items) ↔ ∃ v ∈ items, Unwritable v :=
  ⟨fun | .item hmem h => ⟨_, hmem, h⟩, fun ⟨_, hmem, h⟩ => .item hmem h⟩

theorem unwritable_tuple {items : List Value} :
    Unwritable (.tuple items) ↔ ∃ v ∈ items, Unwritable v :=
  ⟨fun | .part hmem h => ⟨_, hmem, h⟩, fun ⟨_, hmem, h⟩ => .part hmem h⟩

theorem unwritable_object {members : List (Key × Value)} :
    Unwritable (.object members) ↔ ∃ m ∈ members, UnwritableKey m.1 ∨ Unwritable m.2 := by
  constructor
  · rintro (_ | _ | _ | _ | _ | _ | _ | _ | _ | _ | ⟨hmem, h⟩ | ⟨hmem, h⟩)
    · exact ⟨_, hmem, .inl h⟩
    · exact ⟨_, hmem, .inr h⟩
  · rintro ⟨m, hmem, h | h⟩
    · exact .key hmem h
    · exact .member hmem h

/-! ### What the writer refuses -/

theorem fails_intText {i : Int} : Fails (intText i) ↔ Nat.pow 10 maxDigits ≤ i.natAbs := by
  rw [intText]
  split
  · next h => exact iff_of_false fails_ok (Nat.not_le.mpr h)
  · next h => exact iff_of_true fails_error (Nat.not_lt.mp h)

theorem fails_numberText {x : Float} : Fails (numberText .compact x) ↔ x.isFinite = false := by
  rw [numberText]
  cases hfinite : x.isFinite with
  | true => exact iff_of_false fails_ok (by simp)
  | false => exact iff_of_true fails_error rfl

theorem fails_keyText {k : Key} : Fails (keyText .compact k) ↔ UnwritableKey k := by
  cases k with
  | text s => exact iff_of_false fails_ok nofun
  | null => exact iff_of_false fails_ok nofun
  | bool b => exact iff_of_false fails_ok nofun
  | int i =>
    rw [keyText, fails_map, fails_intText]
    exact ⟨.int, fun | .int h => h⟩
  | float x =>
    rw [keyText, fails_map, fails_numberText]
    exact ⟨.float, fun | .float h => h⟩
  | moment m => exact iff_of_true fails_error (.moment m)
  | bytes data => exact iff_of_true fails_error (.bytes data)

-- The level moves the text to the right only. It is general here since the parts of a value are written
-- one level below the value.
mutual

/-- The writer refuses the values without a text. -/
theorem fails_write : (v : Value) → (level : Nat) → (Fails (write .compact level v) ↔ Unwritable v)
  | .null, level => iff_of_false fails_ok nofun
  | .bool b, level => iff_of_false fails_ok nofun
  | .int i, level => by
    rw [write, fails_intText]
    exact ⟨.int, fun | .int h => h⟩
  | .float x, level => by
    rw [write, fails_numberText]
    exact ⟨.float, fun | .float h => h⟩
  | .str s, level => iff_of_false fails_ok nofun
  | .list items, level => by
    rw [write, fails_bind_pure, fails_writeItems items, unwritable_list]
  | .tuple items, level => by
    rw [write, fails_bind_pure, fails_writeItems items, unwritable_tuple]
  | .set keys, level => iff_of_true fails_error (.set keys)
  | .object members, level => by
    -- every member keeps an outcome of its own, and the texts are asked for one after the other
    have hwrite : Fails (write .compact level (.object members))
        ↔ Fails ((writeMembers .compact (level + 1) members).mapM (·.2)) := fails_bind_pure
    rw [hwrite, fails_writeMembers members, unwritable_object]
  | .moment m, level => iff_of_true fails_error (.moment m)
  | .bytes data, level => iff_of_true fails_error (.bytes data)
  | .foreign kind, level => iff_of_true fails_error (.foreign kind)
  | .shared run ledger, level => iff_of_true fails_error (.shared run ledger)
  | .enclosing isMapping, level => iff_of_true fails_error (.enclosing isMapping)

/-- Items are refused when one of them is. -/
theorem fails_writeItems : (items : List Value) → (level : Nat) →
    (Fails (writeItems .compact level items) ↔ ∃ v ∈ items, Unwritable v)
  | [], level => iff_of_false fails_ok (by simp)
  | v :: rest, level => by
    rw [writeItems, fails_both, fails_write v, fails_writeItems rest]
    simp

/-- Members are refused when the key or the value of one of them is. -/
theorem fails_writeMembers : (members : List (Key × Value)) → (level : Nat) →
    (Fails ((writeMembers .compact level members).mapM (·.2)) ↔
      ∃ m ∈ members, UnwritableKey m.1 ∨ Unwritable m.2)
  | [], level => iff_of_false fails_ok (by simp)
  | (k, v) :: rest, level => by
    rw [writeMembers, List.mapM_cons, fails_both, fails_both, fails_keyText, fails_write v,
      fails_writeMembers rest]
    simp

end

/-- A value has a compact text, or there is something unwritable in it. -/
theorem exists_compactText_iff {v : Value} : (∃ text, compactText v = .ok text) ↔ ¬ Unwritable v := by
  rw [compactText, ← not_fails, fails_write]

/-! ### Members in key order -/

end Switchboard.Json
