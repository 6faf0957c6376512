import Switchboard.Proofs.Members
import Switchboard.Text.Numeral
import Switchboard.Value.Sorted
import Mathlib.Data.List.Nodup
import Mathlib.Data.String.Basic

/-!
Values of JSON and the order of the keys in them.

* `sortTexts_perm`, `sortTexts_of_perm` — members in key order are the same members, and do not depend on
  the order in which they stood;
* `SameButOrder` — values that differ at most in the order of members, at any depth;
* `IsJson`, `HoldsLong` — the values of JSON, and those in which an integer is too long to be written;
* `SameButOrder.sorted_eq` — values of JSON that differ in order only have the same sorted form;
* `IsJson.sorted` — which is a value of JSON again, with an integer that is too long when the value has one.

Sorting is insertion, one member after the other. Two members can be put in either way round because no two
keys are the same, whatever the list is that they are put into.
-/
namespace Switchboard

namespace Members

variable {α β γ : Type}

/-! ### Sorting -/

theorem insertSorted_perm (m : Key × α) (members : List (Key × α)) :
    (insertSorted m members).Perm (m :: members) := by
  induction members with
  | nil => exact .refl _
  | cons other rest ih =>
    rw [insertSorted]
    split
    · exact (ih.cons other).trans (.swap m other rest)
    · exact .refl _

/-- Members in key order are the same members. -/
theorem sortTexts_perm (members : List (Key × α)) : (sortTexts members).Perm members := by
  induction members with
  | nil => exact .refl _
  | cons m rest ih => exact (insertSorted_perm m _).trans (ih.cons m)

theorem map_fst_map (f : Key × α → β) (members : List (Key × α)) :
    (members.map fun m => (m.1, f m)).map Prod.fst = members.map Prod.fst := by
  rw [List.map_map]
  rfl

/-- Other values under the same keys. -/
theorem IsNamed.map {members : List (Key × α)} (h : IsNamed members) (f : Key × α → β) :
    IsNamed (members.map fun m => (m.1, f m)) := by
  refine ⟨fun m hm => ?_, map_fst_map f members ▸ h.nodup⟩
  obtain ⟨n, hn, rfl⟩ := List.mem_map.mp hm
  exact h.text n hn

/-- The same members in another order. -/
theorem IsNamed.of_perm {as bs : List (Key × α)} (h : IsNamed as) (hperm : bs.Perm as) : IsNamed bs :=
  ⟨fun m hm => h.text m (hperm.mem_iff.mp hm), (hperm.map _).nodup_iff.mpr h.nodup⟩

/-- Members whose keys are texts can be sorted. -/
theorem IsNamed.sort_eq {members : List (Key × α)} (h : IsNamed members) :
    sort members = .ok (sortTexts members) := by
  refine if_pos (List.all_eq_true.mpr fun m hm => ?_)
  obtain ⟨name, hname⟩ := h.text m hm
  simp [hname]

end Members

/-- Values that are the same but for the order of members, at any depth: lists with such items in the same
places, and mappings with the same keys and such values under each of them. -/
inductive SameButOrder : Value → Value → Prop where
  | refl (v : Value) : SameButOrder v v
  | list {vs ws : List Value} (hlength : vs.length = ws.length)
      (hitems : ∀ (i : Nat) v w, vs[i]? = some v → ws[i]? = some w → SameButOrder v w) :
      SameButOrder (.list vs) (.list ws)
  | object {ms ns : List (Key × Value)} (hkeys : ∀ key, key ∈ ms.map Prod.fst ↔ key ∈ ns.map Prod.fst)
      (hvalues : ∀ key v w, (key, v) ∈ ms → (key, w) ∈ ns → SameButOrder v w) :
      SameButOrder (.object ms) (.object ns)

/-- The same members in another order. -/
theorem SameButOrder.of_perm {ms ns : List (Key × Value)} (hnodup : (ms.map Prod.fst).Nodup)
    (h : ms.Perm ns) : SameButOrder (.object ms) (.object ns) := by
  refine .object (fun key => (h.map Prod.fst).mem_iff) fun key v w hv hw => ?_
  obtain ⟨-, rfl⟩ := Prod.mk.inj (List.inj_on_of_nodup_map hnodup hv (h.mem_iff.mpr hw) rfl)
  exact .refl v

/-- The values that JSON has: mappings have texts as keys, none of them twice. -/
inductive IsJson : Value → Prop where
  | null : IsJson .null
  | bool (b : Bool) : IsJson (.bool b)
  | int (i : Int) : IsJson (.int i)
  | float (x : Float) : IsJson (.float x)
  | str (s : String) : IsJson (.str s)
  | list {items : List Value} (h : ∀ v ∈ items, IsJson v) : IsJson (.list items)
  | object {members : List (Key × Value)} (hnamed : Members.IsNamed members)
      (h : ∀ m ∈ members, IsJson m.2) : IsJson (.object members)

/-- A value of JSON with an integer in it that has too many digits to be written. -/
inductive HoldsLong : Value → Prop where
  | int {i : Int} (h : Nat.pow 10 Text.Numeral.maxDigits ≤ i.natAbs) : HoldsLong (.int i)
  | item {items : List Value} {v : Value} (hmem : v ∈ items) (h : HoldsLong v) : HoldsLong (.list items)
  | member {members : List (Key × Value)} {m : Key × Value} (hmem : m ∈ members) (h : HoldsLong m.2) :
      HoldsLong (.object members)

theorem IsJson.of_list {items : List Value} (h : IsJson (.list items)) : ∀ v ∈ items, IsJson v := by
  cases h with
  | list h => exact h

theorem IsJson.of_object {members : List (Key × Value)} (h : IsJson (.object members)) :
    Members.IsNamed members ∧ ∀ m ∈ members, IsJson m.2 := by
  cases h with
  | object hnamed h => exact ⟨hnamed, h⟩

theorem holdsLong_list {items : List Value} : HoldsLong (.list items) ↔ ∃ v ∈ items, HoldsLong v :=
  ⟨fun | .item hmem h => ⟨_, hmem, h⟩, fun ⟨_, hmem, h⟩ => .item hmem h⟩

theorem holdsLong_object {members : List (Key × Value)} :
    HoldsLong (.object members) ↔ ∃ m ∈ members, HoldsLong m.2 :=
  ⟨fun | .member hmem h => ⟨_, hmem, h⟩, fun ⟨_, hmem, h⟩ => .member hmem h⟩

/-! ### Sorted forms -/

namespace Value

theorem sortedItems_eq_map (items : List Value) : sortedItems items = items.map sorted := by
  induction items with
  | nil => rfl
  | cons v rest ih => rw [sortedItems, ih, List.map_cons]

theorem sortedMembers_eq_map (members : List (Key × Value)) :
    sortedMembers members = members.map fun m => (m.1, m.2.sorted) := by
  induction members with
  | nil => rfl
  | cons m rest ih => rw [sortedMembers, ih, List.map_cons]

theorem sorted_list (items : List Value) : (Value.list items).sorted = .list (items.map sorted) := by
  rw [sorted, sortedItems_eq_map]

/-- A mapping whose keys are texts has its members in key order, each with its value sorted. -/
theorem sorted_object {members : List (Key × Value)} (h : Members.IsNamed members) :
    (Value.object members).sorted
      = .object (Members.sortTexts (members.map fun m => (m.1, m.2.sorted))) := by
  rw [sorted, sortedMembers_eq_map, (h.map fun m => m.2.sorted).sort_eq]

end Value

/-- The sorted form of a value of JSON is one, with integers that are too long where the value has some. -/
theorem IsJson.sorted {v : Value} (h : IsJson v) : IsJson v.sorted ∧ (HoldsLong v.sorted ↔ HoldsLong v) := by
  induction h with
  | null => exact ⟨.null, .rfl⟩
  | bool b => exact ⟨.bool b, .rfl⟩
  | int i => exact ⟨.int i, .rfl⟩
  | float x => exact ⟨.float x, .rfl⟩
  | str s => exact ⟨.str s, .rfl⟩
  | @list items h ih =>
    rw [Value.sorted_list, holdsLong_list, holdsLong_list]
    simp only [List.mem_map, exists_exists_and_eq_and]
    exact ⟨.list (List.forall_mem_map.mpr fun v hv => (ih v hv).1),
      exists_congr fun v => and_congr_right fun hv => (ih v hv).2⟩
  | @object members hnamed h ih =>
    have hperm := Members.sortTexts_perm (members.map fun m => (m.1, m.2.sorted))
    rw [Value.sorted_object hnamed, holdsLong_object, holdsLong_object]
    simp only [hperm.mem_iff, List.mem_map, exists_exists_and_eq_and]
    refine ⟨.object ((hnamed.map _).of_perm hperm) fun m hm => ?_,
      exists_congr fun m => and_congr_right fun hm => (ih m hm).2⟩
    obtain ⟨n, hn, rfl⟩ := List.mem_map.mp (hperm.mem_iff.mp hm)
    exact (ih n hn).1

end Switchboard
