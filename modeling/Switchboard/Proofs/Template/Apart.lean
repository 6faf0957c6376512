import Switchboard.Template.Context
import Mathlib.Data.List.Basic

/-!
Values, and the shared collections that are to be seen in them.

* `Value.IsPlain` — a value without shared collections shows the same in every history
  (`History.reveal_of_isPlain`);
* `History.Shows`, `History.Apart` — a value in which the two collections of a run are not to be seen, not
  even inside those of other runs; a plain value is one (`History.apart_of_isPlain`);
* `History.reveal_of_apart` — such a value looks the same whatever the run records.
-/
namespace Switchboard

/-! ### Plain values -/

namespace Value

variable {f : Nat → Ledger → Value}

theorem replaceSharedItems_eq_map (items : List Value) :
    replaceSharedItems f items = items.map (replaceShared f) := by
  induction items with
  | nil => rfl
  | cons v rest ih => rw [replaceSharedItems, List.map_cons, ih]

theorem replaceSharedMembers_eq_map (members : List (Key × Value)) :
    replaceSharedMembers f members = members.map (Prod.map id (replaceShared f)) := by
  induction members with
  | nil => rfl
  | cons m rest ih =>
    obtain ⟨k, v⟩ := m
    rw [replaceSharedMembers, List.map_cons, ih, Prod.map_apply, id_eq]

/-- A value that holds no shared collections, so that there is nothing in it to replace. -/
def IsPlain (v : Value) : Prop := ∀ f, v.replaceShared f = v

theorem map_eq_self {α : Type} {g : α → α} {as : List α} :
    as.map g = as ↔ ∀ a ∈ as, g a = a := by
  have hid : as.map g = as.map id ↔ ∀ a ∈ as, g a = id a := List.map_inj_left
  rwa [List.map_id] at hid

theorem isPlain_list {items : List Value} : (list items).IsPlain ↔ ∀ v ∈ items, v.IsPlain := by
  simp only [IsPlain, replaceShared, replaceSharedItems_eq_map, list.injEq, map_eq_self]
  exact ⟨fun h v hv f => h f v hv, fun h f v hv => h v hv f⟩

theorem isPlain_tuple {items : List Value} : (tuple items).IsPlain ↔ ∀ v ∈ items, v.IsPlain := by
  simp only [IsPlain, replaceShared, replaceSharedItems_eq_map, tuple.injEq, map_eq_self]
  exact ⟨fun h v hv f => h f v hv, fun h f v hv => h v hv f⟩

theorem isPlain_object {members : List (Key × Value)} :
    (object members).IsPlain ↔ ∀ m ∈ members, m.2.IsPlain := by
  have hmember : ∀ (f : Nat → Ledger → Value) (m : Key × Value),
      Prod.map id (replaceShared f) m = m ↔ m.2.replaceShared f = m.2 := fun f m => by
    simp [Prod.ext_iff]
  simp only [IsPlain, replaceShared, replaceSharedMembers_eq_map, object.injEq, map_eq_self, hmember]
  exact ⟨fun h m hm f => h f m hm, fun h f m hm => h m hm f⟩

theorem not_isPlain_shared {run : Nat} {ledger : Ledger} : ¬ (shared run ledger).IsPlain := by
  intro h
  have hnull := h fun _ _ => .null
  simp [replaceShared] at hnull

end Value

/-- There is nothing to open in a plain value. -/
theorem History.peek_of_isPlain {v : Value} (hv : v.IsPlain) (h : History) : h.peek v = v := by
  cases v with
  | shared => exact absurd hv Value.not_isPlain_shared
  | _ => rfl

/-- A plain value shows the same in every history. -/
theorem History.reveal_of_isPlain {v : Value} (hv : v.IsPlain) (h : History) : h.reveal v = v := by
  rw [reveal, revealWithin, hv]

/-! ### Values apart from a run -/

/-- A value shows another one: it is that one, or one of its parts shows it. The parts of a shared
collection are those that it has in the history. -/
inductive History.Shows (h : History) (u : Value) : Value → Prop where
  | self : Shows h u u
  | item {v w : Value} {items : List Value} (hv : h.peek v = .list items ∨ h.peek v = .tuple items)
      (hitem : w ∈ items) (hw : Shows h u w) : Shows h u v
  | member {v w : Value} {k : Key} {members : List (Key × Value)} (hv : h.peek v = .object members)
      (hmember : (k, w) ∈ members) (hw : Shows h u w) : Shows h u v

/-- Neither of the two collections of a run is to be seen in a value. -/
def History.Apart (h : History) (run : Nat) (v : Value) : Prop :=
  ∀ ledger, ¬ h.Shows (.shared run ledger) v

namespace History.Apart

variable {h h' : History} {run : Nat} {v w : Value}

theorem item {items : List Value} (hv : h.Apart run v)
    (hitems : h.peek v = .list items ∨ h.peek v = .tuple items) (hw : w ∈ items) : h.Apart run w :=
  fun ledger hshows => hv ledger (.item hitems hw hshows)

theorem member {k : Key} {members : List (Key × Value)} (hv : h.Apart run v)
    (hmembers : h.peek v = .object members) (hw : (k, w) ∈ members) : h.Apart run w :=
  fun ledger hshows => hv ledger (.member hmembers hw hshows)

/-- A collection that is apart from a run belongs to another one. -/
theorem ne_of_shared {run' : Nat} {ledger : Ledger} (hv : h.Apart run (.shared run' ledger)) :
    run' ≠ run := by
  rintro rfl
  exact hv ledger .self

/-- Nothing more is seen in a collection when it is opened. -/
theorem ledger {run' : Nat} {ledger : Ledger} (hv : h.Apart run (.shared run' ledger)) :
    h.Apart run ((h.context run').ledger ledger) := by
  intro other hshows
  cases ledger with
  | outputs =>
    cases hshows with
    | item hpeek hitem hw => exact hv other (.item hpeek hitem hw)
    | member hpeek => cases hpeek
  | named =>
    cases hshows with
    | item hpeek => rcases hpeek with hpeek | hpeek <;> cases hpeek
    | member hpeek hmember hw => exact hv other (.member hpeek hmember hw)

end History.Apart

/-- A plain value holds no collection of any run. -/
theorem History.apart_of_isPlain {v : Value} (hv : v.IsPlain) (h : History) (run : Nat) :
    h.Apart run v := by
  intro ledger hshows
  induction hshows with
  | self => exact Value.not_isPlain_shared hv
  | item hpeek hitem _ ih =>
    rw [peek_of_isPlain hv] at hpeek
    rcases hpeek with rfl | rfl
    · exact ih (Value.isPlain_list.mp hv _ hitem)
    · exact ih (Value.isPlain_tuple.mp hv _ hitem)
  | member hpeek hmember _ ih =>
    rw [peek_of_isPlain hv] at hpeek
    subst hpeek
    exact ih (Value.isPlain_object.mp hv _ hmember)

namespace Value

variable {h : History} {run : Nat} {f g : Nat → Ledger → Value}

mutual

/-- In a value apart from a run, only shared collections apart from it are replaced. -/
theorem replaceShared_of_apart
    (hfg : ∀ run' ledger, h.Apart run (.shared run' ledger) → f run' ledger = g run' ledger) :
    (v : Value) → h.Apart run v → v.replaceShared f = v.replaceShared g
  | .list items, hv => by
    rw [replaceShared, replaceShared,
      replaceSharedItems_of_apart hfg items fun w hw => hv.item (.inl rfl) hw]
  | .tuple items, hv => by
    rw [replaceShared, replaceShared,
      replaceSharedItems_of_apart hfg items fun w hw => hv.item (.inr rfl) hw]
  | .object members, hv => by
    rw [replaceShared, replaceShared,
      replaceSharedMembers_of_apart hfg members fun m hm => hv.member rfl hm]
  | .shared run' ledger, hv => hfg run' ledger hv
  | .null, _ | .bool _, _ | .int _, _ | .float _, _ | .str _, _ | .set _, _ | .moment _, _
  | .bytes _, _ | .foreign _, _ | .enclosing _, _ => rfl

/-- `replaceShared_of_apart` on the items of a list. -/
theorem replaceSharedItems_of_apart
    (hfg : ∀ run' ledger, h.Apart run (.shared run' ledger) → f run' ledger = g run' ledger) :
    (items : List Value) → (∀ v ∈ items, h.Apart run v) →
      replaceSharedItems f items = replaceSharedItems g items
  | [], _ => rfl
  | v :: rest, hitems => by
    obtain ⟨hv, hrest⟩ := List.forall_mem_cons.mp hitems
    rw [replaceSharedItems, replaceSharedItems, replaceShared_of_apart hfg v hv,
      replaceSharedItems_of_apart hfg rest hrest]

/-- `replaceShared_of_apart` on the members of a mapping. -/
theorem replaceSharedMembers_of_apart
    (hfg : ∀ run' ledger, h.Apart run (.shared run' ledger) → f run' ledger = g run' ledger) :
    (members : List (Key × Value)) → (∀ m ∈ members, h.Apart run m.2) →
      replaceSharedMembers f members = replaceSharedMembers g members
  | [], _ => rfl
  | (k, v) :: rest, hmembers => by
    obtain ⟨hv, hrest⟩ := List.forall_mem_cons.mp hmembers
    rw [replaceSharedMembers, replaceSharedMembers, replaceShared_of_apart hfg v hv,
      replaceSharedMembers_of_apart hfg rest hrest]

end

end Value

namespace History

variable {h h' : History} {run : Nat}

theorem revealWithin_of_apart (hothers : ∀ run', run' ≠ run → h'.context run' = h.context run')
    (budget : Nat) (seen : List (Nat × Ledger)) {v : Value} (hv : h.Apart run v) :
    h'.revealWithin budget seen v = h.revealWithin budget seen v := by
  induction budget generalizing seen v with
  | zero => rfl
  | succ budget ih =>
    rw [revealWithin, revealWithin]
    refine Value.replaceShared_of_apart (fun run' ledger hshared => ?_) v hv
    rw [hothers run' hshared.ne_of_shared, ih _ hshared.ledger]

/-- Where nothing but a run has changed, a value apart from this run is opened as before. -/
theorem peek_of_apart (hothers : ∀ run', run' ≠ run → h'.context run' = h.context run') {v : Value}
    (hv : h.Apart run v) : h'.peek v = h.peek v := by
  cases v with
  | shared run' ledger => rw [peek, peek, hothers run' hv.ne_of_shared]
  | _ => rfl

/-- Where nothing but a run has changed, a value apart from this run looks as before. -/
theorem reveal_of_apart (hlength : h'.length = h.length)
    (hothers : ∀ run', run' ≠ run → h'.context run' = h.context run') {v : Value}
    (hv : h.Apart run v) : h'.reveal v = h.reveal v := by
  rw [reveal, reveal, hlength, revealWithin_of_apart hothers _ _ hv]

end History

end Switchboard
