import Switchboard.Registry
import Mathlib.Data.List.DropRight
import Mathlib.Data.List.Induction
import Mathlib.Data.List.Perm.Subperm

/-!
The registry as a map from names to entries, and under operations that come in any order and number.

* `lookup_register` — what is registered is found by its name, and all else is found as before;
* `lookup_name` — what is found by a name has that name;
* `size_ge` — a registry holds at least as many entries as names can be found in it;
* `names_register`, `nodup_register` — a name that is registered keeps its place, and a new one comes last;
* `contains_iff`, `size_eq` — which names are known, and how many there are;
* `Operation`, `perform`, `run` — what can be asked of a registry, what it answers, and what it holds
  afterwards;
* `Spares`, `LastRegistered` — the operations that leave a name alone, and the entry that a history leaves
  under its name;
* `lookup_perform`, `names_perform` — what one operation does to each name, and to the names in order;
* `lookup_after`, `names_after` — what a whole history does to them;
* `after_ordered` — a registry is an ordered map, whatever was asked of it before.

The inductions over histories run from their end, since the last operation decides first what a name stands
for.
-/
namespace Switchboard.Registry

variable {H : Type}

theorem lookup_cons (e : Entry H) (rest : List (Entry H)) (name : String) :
    lookup ⟨e :: rest⟩ name = if e.name = name then some e else lookup ⟨rest⟩ name := by
  by_cases h : e.name = name
  · simp [lookup, h]
  · have hne : (e.name == name) = false := by simpa using h
    simp [lookup, h]

/-- What is registered is found by its name, and all else is found as before. -/
theorem lookup_register (r : Registry H) (entry : Entry H) (name : String) :
    (r.register entry).lookup name = if entry.name = name then some entry else r.lookup name := by
  obtain ⟨entries⟩ := r
  rw [register]
  induction entries with
  | nil => exact lookup_cons entry [] name
  | cons e rest ih =>
    rw [put]
    by_cases he : e.name = entry.name
    · rw [if_pos he, lookup_cons, lookup_cons, he]
      by_cases hn : entry.name = name <;> simp [hn]
    · rw [if_neg he, lookup_cons, lookup_cons, ih]
      by_cases hn : entry.name = name
      · subst hn
        simp [he]
      · simp [hn]

/-- What is found by a name has that name. -/
theorem lookup_name {r : Registry H} {name : String} {entry : Entry H}
    (h : r.lookup name = some entry) : entry.name = name := by
  simpa using List.find?_some h

theorem mem_of_lookup {r : Registry H} {name : String} {entry : Entry H}
    (h : r.lookup name = some entry) : entry ∈ r.entries :=
  List.mem_of_find?_eq_some h

/-- A registry holds at least as many entries as names can be found in it. -/
theorem size_ge {r : Registry H} {names : List String} (hnodup : names.Nodup)
    (h : ∀ name ∈ names, (r.lookup name).isSome) : names.length ≤ r.size := by
  have hsub : names ⊆ r.entries.map (·.name) := by
    intro name hname
    obtain ⟨entry, hentry⟩ := Option.isSome_iff_exists.mp (h name hname)
    exact List.mem_map.mpr ⟨entry, mem_of_lookup hentry, lookup_name hentry⟩
  simpa [size] using (hnodup.subperm hsub).length_le

/-! ### Names in order -/

theorem names_put (entry : Entry H) (entries : List (Entry H)) :
    (put entry entries).map (·.name)
      = if entry.name ∈ entries.map (·.name) then entries.map (·.name)
        else entries.map (·.name) ++ [entry.name] := by
  induction entries with
  | nil => rfl
  | cons e rest ih =>
    rw [put]
    by_cases hname : e.name = entry.name
    · simp [hname]
    · rw [if_neg hname, List.map_cons, ih, List.map_cons]
      by_cases hmem : entry.name ∈ rest.map (·.name)
      · rw [if_pos hmem, if_pos (List.mem_cons_of_mem _ hmem)]
      · have hnew : entry.name ∉ e.name :: rest.map (·.name) :=
          fun h => (List.mem_cons.mp h).elim (fun heq => hname heq.symm) hmem
        rw [if_neg hmem, if_neg hnew, List.cons_append]

/-- A name that is registered keeps its place, and a new one comes last. -/
theorem names_register (r : Registry H) (entry : Entry H) :
    (r.register entry).names
      = if entry.name ∈ r.names then r.names else r.names ++ [entry.name] :=
  names_put entry r.entries

theorem nodup_register {r : Registry H} (h : r.names.Nodup) (entry : Entry H) :
    (r.register entry).names.Nodup := by
  rw [names_register]
  split
  · exact h
  · next hnew =>
    rw [List.nodup_append]
    exact ⟨h, by simp, fun a ha b hb => by
      obtain rfl := List.mem_singleton.mp hb
      exact fun heq => hnew (heq ▸ ha)⟩

/-- A name is known exactly when something is found by it. -/
theorem contains_iff (r : Registry H) (name : String) :
    r.contains name = true ↔ r.lookup name ≠ none := by
  rw [contains, lookup, List.any_eq_true, Ne, List.find?_eq_none]
  simp

theorem size_eq (r : Registry H) : r.size = r.names.length := (List.length_map _).symm

/-! ### Operations -/

/-- What can be asked of a registry. -/
inductive Operation (H : Type) where
  | register (entry : Entry H)
  | lookup (name : String)
  | contains (name : String)
  | clear

/-- What a registry answers. -/
inductive Answer (H : Type) where
  | entry (found : Option (Entry H))
  | truth (b : Bool)
  | nothing

/-- The answer to an operation, and the registry after it. -/
def perform (r : Registry H) : Operation H → Answer H × Registry H
  | .register entry => (.entry (some entry), r.register entry)
  | .lookup name => (.entry (r.lookup name), r)
  | .contains name => (.truth (r.contains name), r)
  | .clear => (.nothing, r.clear)

/-- The answers to operations one after the other, and the registry after all of them. -/
def run (r : Registry H) : List (Operation H) → List (Answer H) × Registry H
  | [] => ([], r)
  | op :: rest =>
    let others := run (r.perform op).2 rest
    ((r.perform op).1 :: others.1, others.2)

/-- The registry that a history of operations leaves. -/
def after (history : List (Operation H)) : Registry H := (run empty history).2

theorem run_append (r : Registry H) (earlier later : List (Operation H)) :
    run r (earlier ++ later)
      = ((run r earlier).1 ++ (run (run r earlier).2 later).1, (run (run r earlier).2 later).2) := by
  induction earlier generalizing r with
  | nil => rfl
  | cons op rest ih => simp only [List.cons_append, run, ih]

theorem length_run (r : Registry H) (history : List (Operation H)) :
    (run r history).1.length = history.length := by
  induction history generalizing r with
  | nil => rfl
  | cons op rest ih => exact congrArg (· + 1) (ih _)

theorem after_concat (history : List (Operation H)) (op : Operation H) :
    after (history ++ [op]) = ((after history).perform op).2 := by
  rw [after, run_append]
  rfl

/-- The answer to an operation in a history is the one of the registry as it is then. -/
theorem answer_run (earlier later : List (Operation H)) (op : Operation H) :
    (run empty (earlier ++ op :: later)).1[earlier.length]? = some ((after earlier).perform op).1 := by
  rw [run_append, List.getElem?_append_right (length_run empty earlier).le, length_run, Nat.sub_self]
  rfl

namespace Operation

/-- The operations that only ask. -/
def isReading : Operation H → Bool
  | .lookup _ | .contains _ => true
  | .register _ | .clear => false

/-- Whether an operation leaves alone what a name stands for. -/
def Spares (name : String) : Operation H → Prop
  | .register entry => entry.name ≠ name
  | .clear => False
  | .lookup _ | .contains _ => True

/-- Whether an operation forgets all entries. -/
def isClear : Operation H → Bool
  | .clear => true
  | _ => false

/-- The name that an operation registers something under. -/
def registered? : Operation H → Option String
  | .register entry => some entry.name
  | _ => none

end Operation

/-! ### What a name stands for -/

/-- After an operation a name stands for what was just registered under it, or else for what it stood for
before an operation that leaves it alone. -/
theorem lookup_perform (r : Registry H) (op : Operation H) (name : String) (entry : Entry H) :
    (r.perform op).2.lookup name = some entry ↔
      (op = .register entry ∧ entry.name = name) ∨ (op.Spares name ∧ r.lookup name = some entry) := by
  cases op with
  | register new =>
    rw [perform, lookup_register]
    by_cases hname : new.name = name
    · simp only [if_pos hname, Option.some.injEq, Operation.register.injEq, Operation.Spares]
      constructor
      · rintro rfl
        exact .inl ⟨rfl, hname⟩
      · rintro (⟨rfl, -⟩ | ⟨hne, -⟩)
        · rfl
        · exact absurd hname hne
    · simp only [if_neg hname, Operation.register.injEq, Operation.Spares]
      constructor
      · exact fun h => .inr ⟨hname, h⟩
      · rintro (⟨rfl, heq⟩ | ⟨-, h⟩)
        · exact absurd heq hname
        · exact h
  | lookup _ => simp [perform, Operation.Spares]
  | contains _ => simp [perform, Operation.Spares]
  | clear => simp [perform, Operation.Spares, Registry.clear, empty, Registry.lookup]

/-- An entry that was registered in a history, with no registration under its name and no clearing behind
it. -/
def LastRegistered (history : List (Operation H)) (entry : Entry H) : Prop :=
  ∃ earlier later, history = earlier ++ .register entry :: later ∧ ∀ op ∈ later, op.Spares entry.name

theorem lastRegistered_concat {history : List (Operation H)} {op : Operation H} {entry : Entry H} :
    LastRegistered (history ++ [op]) entry ↔
      op = .register entry ∨ (op.Spares entry.name ∧ LastRegistered history entry) := by
  constructor
  · rintro ⟨earlier, later, hsplit, hlater⟩
    rcases List.eq_nil_or_concat later with rfl | ⟨before, last, rfl⟩
    · obtain ⟨-, hop⟩ := List.append_inj' hsplit rfl
      exact .inl (List.singleton_inj.mp hop)
    · rw [List.concat_eq_append, ← List.cons_append, ← List.append_assoc] at hsplit
      obtain ⟨hhistory, hop⟩ := List.append_inj' hsplit rfl
      obtain rfl := List.singleton_inj.mp hop
      rw [List.concat_eq_append] at hlater
      obtain ⟨hbefore, hlast⟩ := List.forall_mem_append.mp hlater
      exact .inr ⟨hlast _ (List.mem_singleton_self _), earlier, before, hhistory, hbefore⟩
  · rintro (rfl | ⟨hspares, earlier, later, rfl, hlater⟩)
    · exact ⟨history, [], rfl, by simp⟩
    · refine ⟨earlier, later ++ [op], by simp, List.forall_mem_append.mpr ⟨hlater, ?_⟩⟩
      exact fun other hother => List.mem_singleton.mp hother ▸ hspares

/-- A name stands for the entry that was registered last under it since the last clearing. -/
theorem lookup_after (history : List (Operation H)) (name : String) (entry : Entry H) :
    (after history).lookup name = some entry ↔ LastRegistered history entry ∧ entry.name = name := by
  induction history using List.reverseRecOn with
  | nil => simp [after, run, empty, lookup, LastRegistered]
  | append_singleton history op ih =>
    rw [after_concat, lookup_perform, ih, lastRegistered_concat]
    constructor
    · rintro (⟨hop, hname⟩ | ⟨hspares, hlast, rfl⟩)
      · exact ⟨.inl hop, hname⟩
      · exact ⟨.inr ⟨hspares, hlast⟩, rfl⟩
    · rintro ⟨hop | ⟨hspares, hlast⟩, rfl⟩
      · exact .inl ⟨hop, rfl⟩
      · exact .inr ⟨hspares, hlast, rfl⟩

/-! ### The names in order -/

/-- The names under which a history registers something after the last clearing, one for each
registration. -/
def registeredNames (history : List (Operation H)) : List String :=
  (history.rtakeWhile (!·.isClear)).filterMap Operation.registered?

theorem registeredNames_concat (history : List (Operation H)) (op : Operation H) :
    registeredNames (history ++ [op])
      = if op.isClear then [] else registeredNames history ++ op.registered?.toList := by
  rw [registeredNames, List.rtakeWhile_concat]
  cases op with
  | clear => rfl
  | register entry =>
    simp [Operation.isClear, Operation.registered?, registeredNames, List.filterMap_append]
  | lookup _ | contains _ =>
    simp [Operation.isClear, Operation.registered?, registeredNames, List.filterMap_append]

/-- What one operation does to the names. -/
theorem names_perform (r : Registry H) (op : Operation H) :
    (r.perform op).2.names
      = if op.isClear then []
        else match op.registered? with
          | some name => if name ∈ r.names then r.names else r.names ++ [name]
          | none => r.names := by
  cases op with
  | register entry => exact names_register r entry
  | lookup _ | contains _ | clear => rfl

theorem eraseDups_concat (names : List String) (name : String) :
    (names ++ [name]).eraseDups
      = if name ∈ names then names.eraseDups else names.eraseDups ++ [name] := by
  rw [List.eraseDups_append]
  by_cases hmem : name ∈ names <;> simp [List.removeAll, hmem, List.eraseDups_cons]

/-- The names stand in the order in which they were registered first since the last clearing. -/
theorem names_after (history : List (Operation H)) :
    (after history).names = (registeredNames history).eraseDups := by
  induction history using List.reverseRecOn with
  | nil => rfl
  | append_singleton history op ih =>
    rw [after_concat, names_perform, registeredNames_concat]
    cases hclear : op.isClear with
    | true => rfl
    | false =>
      cases hname : op.registered? with
      | none => simpa using ih
      | some name =>
        simp only [Bool.false_eq_true, if_false, Option.toList_some, eraseDups_concat, ih,
          List.mem_eraseDups]

theorem nodup_after (history : List (Operation H)) : (after history).names.Nodup := by
  induction history using List.reverseRecOn with
  | nil => exact List.nodup_nil
  | append_singleton history op ih =>
    rw [after_concat]
    cases op with
    | register entry => exact nodup_register ih entry
    | lookup _ | contains _ => exact ih
    | clear => exact List.nodup_nil

/-- A history leaves the same registry without the operations that only ask. -/
theorem after_filter (history : List (Operation H)) :
    after (history.filter (!·.isReading)) = after history := by
  induction history using List.reverseRecOn with
  | nil => rfl
  | append_singleton history op ih =>
    rw [List.filter_append, after_concat, ← ih]
    cases op with
    | register entry => exact after_concat _ _
    | clear => exact after_concat _ _
    | lookup _ | contains _ => exact congrArg after (List.append_nil _)

/-- **A registry is an ordered map under every history.** Whatever was asked of a registry, a name stands for
the entry that was registered last under it since the last clearing, and for none if there is no such entry; a
name is known exactly when it stands for an entry; the names stand once each, in the order of their first
registration since the last clearing; there are as many entries as names; to ask changes nothing, and is
answered from what the operations before have left. -/
theorem after_ordered (history : List (Operation H)) :
    (∀ name entry, (after history).lookup name = some entry ↔
      LastRegistered history entry ∧ entry.name = name) ∧
    (∀ name, (after history).lookup name = none ↔
      ∀ entry, LastRegistered history entry → entry.name ≠ name) ∧
    (∀ name, (after history).contains name = true ↔ (after history).lookup name ≠ none) ∧
    (after history).names = (registeredNames history).eraseDups ∧ (after history).names.Nodup ∧
    (after history).size = (after history).names.length ∧
    after (history.filter (!·.isReading)) = after history ∧
    ∀ op later, (run empty (history ++ op :: later)).1[history.length]?
      = some ((after history).perform op).1 := by
  refine ⟨lookup_after history, fun name => ?_, contains_iff _, names_after history, nodup_after history,
    size_eq _, after_filter history, fun op later => answer_run history later op⟩
  rw [Option.eq_none_iff_forall_ne_some]
  simp only [ne_eq, lookup_after, not_and]

/-- A history in which a name is registered twice, and another one before and after everything is
forgotten. -/
example : (after [.register ⟨"old", 0, none, none⟩, .clear, .register ⟨"a", 1, none, none⟩,
      .register ⟨"b", 2, none, none⟩, .lookup "old", .register ⟨"a", 3, none, none⟩]).names
    = ["a", "b"] := by
  decide

end Switchboard.Registry
