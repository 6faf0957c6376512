import Switchboard.Value
import Mathlib.Data.List.Basic

/-!
The members of a mapping.

* `get?_map`, `get?_fields`, `mem_of_get?`, `get?_filter`, `get?_insert_of_ne` — what is found under a key;
* `ofList_induction`, `forall_mem_ofList`, `ofList_map` — members that are put in one after the other;
* `IsNamed` — keys that are texts, none of them twice: members that were put in under texts have such keys
  (`isNamed_ofList`), and stay as they are when they are put in again (`IsNamed.ofList_eq`).
-/
namespace Switchboard.Members

variable {α β : Type} {P : α → Prop}

/-! ### Finding -/

theorem get?_map (g : α → β) (key : Key) (members : List (Key × α)) :
    get? key (members.map (Prod.map id g)) = (get? key members).map g := by
  induction members with
  | nil => rfl
  | cons m rest ih =>
    obtain ⟨k, v⟩ := m
    rw [List.map_cons, Prod.map_apply, id_eq, get?, get?, ih]
    split <;> rfl

/-- Under texts as keys, what is found is what the library finds. -/
theorem get?_fields (name : String) (fields : List (String × α)) :
    get? (.text name) (fields.map fun (n, v) => (.text n, v)) = fields.lookup name := by
  induction fields with
  | nil => rfl
  | cons m rest ih =>
    obtain ⟨n, v⟩ := m
    rw [List.map_cons, get?, ih, List.lookup_cons]
    by_cases hname : n = name
    · simp [hname]
    · have hkey : ¬ (Key.text n).canonical = (Key.text name).canonical := fun h => hname (Key.text.inj h)
      rw [if_neg hkey, beq_eq_false_iff_ne.mpr (Ne.symm hname)]

/-- What is found under a key is a member. -/
theorem mem_of_get? {key : Key} {members : List (Key × α)} {v : α}
    (h : get? key members = some v) : ∃ k, (k, v) ∈ members := by
  induction members with
  | nil => simp [get?] at h
  | cons m rest ih =>
    obtain ⟨k, w⟩ := m
    rw [get?] at h
    split at h
    · obtain rfl := Option.some.inj h
      exact ⟨k, List.mem_cons_self⟩
    · obtain ⟨k', hk'⟩ := ih h
      exact ⟨k', List.mem_cons_of_mem _ hk'⟩

/-- What is found under a key does not change when other keys are left out. -/
theorem get?_filter {p : Key × α → Bool} {key : Key} {members : List (Key × α)}
    (h : ∀ m ∈ members, p m = false → m.1.canonical ≠ key.canonical) :
    get? key (members.filter p) = get? key members := by
  induction members with
  | nil => rfl
  | cons m rest ih =>
    obtain ⟨hm, hrest⟩ := List.forall_mem_cons.mp h
    obtain ⟨k, v⟩ := m
    rw [List.filter_cons, get?]
    cases hp : p (k, v) with
    | true => rw [if_pos rfl, get?, ih hrest]
    | false => rw [if_neg (by simp), if_neg (hm hp), ih hrest]

/-! ### Putting in -/

/-- What is put in under one key is not found under another. -/
theorem get?_insert_of_ne {key other : Key} (h : other.canonical ≠ key.canonical) (value : α)
    (members : List (Key × α)) : get? key (insert other value members) = get? key members := by
  induction members with
  | nil => exact if_neg h
  | cons m rest ih =>
    obtain ⟨k, v⟩ := m
    rw [insert]
    split
    · next hsame =>
      have hother : k.canonical ≠ key.canonical := hsame ▸ h
      rw [get?, get?, if_neg hother, if_neg hother]
    · rw [get?, get?, ih]

/-- A member that is put in is the only one that may be new. -/
theorem forall_mem_insert {key : Key} {value : α} {members : List (Key × α)} (hvalue : P value)
    (h : ∀ m ∈ members, P m.2) : ∀ m ∈ insert key value members, P m.2 := by
  induction members with
  | nil => simpa [insert] using hvalue
  | cons m rest ih =>
    obtain ⟨k, v⟩ := m
    obtain ⟨hv, hrest⟩ := List.forall_mem_cons.mp h
    rw [insert]
    split
    · exact List.forall_mem_cons.mpr ⟨hvalue, hrest⟩
    · exact List.forall_mem_cons.mpr ⟨hv, ih hrest⟩

/-- What holds of no members, and still holds with one more that is put in, holds of all that are put
in. -/
theorem ofList_induction {Q : List (Key × α) → Prop} {pairs : List (Key × α)} (hnil : Q [])
    (hinsert : ∀ m ∈ pairs, ∀ members, Q members → Q (insert m.1 m.2 members)) :
    Q (ofList pairs) :=
  List.foldlRecOn pairs _ hnil fun members hmembers m hm => hinsert m hm members hmembers

theorem forall_mem_ofList {pairs : List (Key × α)} (h : ∀ m ∈ pairs, P m.2) :
    ∀ m ∈ ofList pairs, P m.2 :=
  ofList_induction (Q := fun members => ∀ m ∈ members, P m.2) (by simp)
    fun m hm _ hmembers => forall_mem_insert (h m hm) hmembers

theorem insert_map (g : α → β) (key : Key) (value : α) (members : List (Key × α)) :
    insert key (g value) (members.map (Prod.map id g)) = (insert key value members).map (Prod.map id g) := by
  induction members with
  | nil => rfl
  | cons m rest ih =>
    obtain ⟨k, v⟩ := m
    rw [List.map_cons, Prod.map_apply, id_eq, insert, insert, ih]
    split <;> rfl

/-- The values of members can be replaced before or after they are put in. -/
theorem ofList_map (g : α → β) (pairs : List (Key × α)) :
    ofList (pairs.map (Prod.map id g)) = (ofList pairs).map (Prod.map id g) := by
  have hfold : ∀ before : List (Key × α),
      (pairs.map (Prod.map id g)).foldl (fun acc m => insert m.1 m.2 acc) (before.map (Prod.map id g))
        = (pairs.foldl (fun acc m => insert m.1 m.2 acc) before).map (Prod.map id g) := by
    induction pairs with
    | nil => exact fun _ => rfl
    | cons m rest ih =>
      intro before
      rw [List.map_cons, List.foldl_cons, List.foldl_cons, Prod.map_fst, Prod.map_snd, id_eq, insert_map, ih]
  exact hfold []

/-! ### Keys that are texts -/

/-- The keys are texts, and none is there twice. -/
structure IsNamed (members : List (Key × α)) : Prop where
  text : ∀ m ∈ members, ∃ name, m.1 = .text name
  nodup : (members.map Prod.fst).Nodup

/-- What is put in under a new text comes last. -/
theorem insert_of_notMem {members : List (Key × α)} (h : ∀ m ∈ members, ∃ name, m.1 = .text name)
    {name : String} (value : α) (hnew : .text name ∉ members.map Prod.fst) :
    insert (.text name) value members = members ++ [(.text name, value)] := by
  induction members with
  | nil => rfl
  | cons m rest ih =>
    obtain ⟨k, v⟩ := m
    obtain ⟨⟨other, rfl⟩, hrest⟩ := List.forall_mem_cons.mp h
    obtain ⟨hne, hnew⟩ := not_or.mp (mt List.mem_cons.mpr hnew)
    rw [insert, if_neg fun hsame => hne hsame.symm, ih hrest hnew, List.cons_append]

/-- What is put in under a text that is there leaves the keys as they are. -/
theorem fst_insert_of_mem {members : List (Key × α)} (h : ∀ m ∈ members, ∃ name, m.1 = .text name)
    {name : String} (value : α) (hold : .text name ∈ members.map Prod.fst) :
    (insert (.text name) value members).map Prod.fst = members.map Prod.fst := by
  induction members with
  | nil => simp at hold
  | cons m rest ih =>
    obtain ⟨k, v⟩ := m
    obtain ⟨⟨other, rfl⟩, hrest⟩ := List.forall_mem_cons.mp h
    rw [insert]
    split
    · rfl
    · next hne =>
      have hold : .text name ∈ rest.map Prod.fst :=
        (List.mem_cons.mp hold).resolve_left fun hkey => hne (congrArg Key.canonical hkey.symm)
      rw [List.map_cons, ih hrest hold, List.map_cons]

theorem isNamed_nil : IsNamed ([] : List (Key × α)) := ⟨by simp, by simp⟩

theorem IsNamed.insert {members : List (Key × α)} (h : IsNamed members) (name : String) (value : α) :
    IsNamed (insert (.text name) value members) := by
  by_cases hmem : .text name ∈ members.map Prod.fst
  · have hkeys := fst_insert_of_mem h.text value hmem
    refine ⟨fun m hm => ?_, hkeys ▸ h.nodup⟩
    obtain ⟨m', hm', hkey⟩ := List.mem_map.mp (hkeys ▸ List.mem_map_of_mem hm)
    rw [← hkey]
    exact h.text m' hm'
  · rw [insert_of_notMem h.text value hmem]
    refine ⟨List.forall_mem_append.mpr ⟨h.text, by simp⟩, ?_⟩
    rw [List.map_append, List.nodup_append]
    exact ⟨h.nodup, by simp, by simpa using fun k v hm hkey => hmem (List.mem_map.mpr ⟨_, hm, hkey⟩)⟩

/-- Members that were put in under texts. -/
theorem isNamed_ofList {pairs : List (Key × α)} (h : ∀ m ∈ pairs, ∃ name, m.1 = .text name) :
    IsNamed (ofList pairs) :=
  ofList_induction isNamed_nil fun m hm members hmembers => by
    obtain ⟨name, hname⟩ := h m hm
    rw [hname]
    exact hmembers.insert name m.2

/-- Members with such keys stay as they are when they are put in one after the other. -/
theorem IsNamed.ofList_eq {members : List (Key × α)} (h : IsNamed members) :
    ofList members = members := by
  have hfold : ∀ before : List (Key × α), IsNamed (before ++ members) →
      members.foldl (fun acc m => Members.insert m.1 m.2 acc) before = before ++ members := by
    intro before hnamed
    clear h
    induction members generalizing before with
    | nil => simp
    | cons m rest ih =>
      obtain ⟨k, v⟩ := m
      obtain ⟨hbefore, hothers⟩ := List.forall_mem_append.mp hnamed.text
      obtain ⟨name, rfl⟩ : ∃ name, k = .text name := hothers _ List.mem_cons_self
      have hnew : .text name ∉ before.map Prod.fst := by
        have hnodup := hnamed.nodup
        rw [List.map_append, List.nodup_append] at hnodup
        exact fun hold => hnodup.2.2 _ hold _ List.mem_cons_self rfl
      have hsplit : before ++ (.text name, v) :: rest = before ++ [(.text name, v)] ++ rest := by simp
      rw [List.foldl_cons, insert_of_notMem hbefore v hnew, hsplit]
      exact ih _ (hsplit ▸ hnamed)
  exact hfold [] h

end Switchboard.Members
