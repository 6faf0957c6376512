import Switchboard.Config.Graph
import Mathlib.Logic.Relation

/-!
The graph of the calls between endpoints: what it holds, and what it means that one chain calls
another.

* `targets_insert` — an entry that is put into a graph changes the targets of its own name only;
* `length_callGraph_le` — a graph has no more entries than there are chains;
* `targets_callGraph` — where no two endpoints share a name, the targets of a chain are the endpoints
  of its steps.

`CallGraph.Calls` is the relation that the search for cycles walks along: only chains can be on a
cycle, so a call of any other endpoint does not count.
-/
namespace Switchboard.Config

/-! ### Repetitions -/

/-- What is left without repetitions is what was not seen before. -/
theorem mem_distinct {s : String} : ∀ {seen l : List String},
    s ∈ distinct seen l ↔ s ∈ l ∧ s ∉ seen := by
  intro seen l
  induction l generalizing seen with
  | nil => simp [distinct]
  | cons t rest ih =>
    rw [distinct]
    by_cases ht : t ∈ seen
    · rw [if_pos ht, ih]
      constructor
      · rintro ⟨h, hs⟩
        exact ⟨List.mem_cons_of_mem _ h, hs⟩
      · rintro ⟨h, hs⟩
        rcases List.mem_cons.mp h with rfl | h
        · exact absurd ht hs
        · exact ⟨h, hs⟩
    · rw [if_neg ht, List.mem_cons, ih]
      by_cases hs : s = t
      · subst hs
        simp [ht]
      · simp [hs]

namespace CallGraph

/-! ### Entries -/

/-- Whether a name is that of a chain. -/
def Has (g : CallGraph) (name : String) : Prop := (g.targets name).isSome

instance (g : CallGraph) (name : String) : Decidable (g.Has name) :=
  inferInstanceAs (Decidable (_ = true))

/-- One chain calls another. -/
def Calls (g : CallGraph) (a b : String) : Prop :=
  b ∈ (g.targets a).getD [] ∧ g.Has b

/-- Some chain can come back to itself. -/
def IsCircular (g : CallGraph) : Prop := ∃ name, Relation.TransGen g.Calls name name

theorem targets_cons (n name : String) (ts : List String) (g : CallGraph) :
    targets ((n, ts) :: g) name = if name = n then some ts else g.targets name := by
  by_cases h : name = n
  · simp [targets, h]
  · have hne : (name == n) = false := by simpa using h
    simp [targets, List.lookup_cons, hne, h]

theorem targets_insert (g : CallGraph) (n name : String) (ts : List String) :
    (g.insert n ts).targets name = if name = n then some ts else g.targets name := by
  induction g with
  | nil => exact targets_cons n name ts []
  | cons entry rest ih =>
    obtain ⟨m, us⟩ := entry
    rw [insert]
    by_cases hm : m = n
    · rw [if_pos hm, targets_cons, targets_cons, hm]
      by_cases hn : name = n <;> simp [hn]
    · rw [if_neg hm, targets_cons, targets_cons, ih]
      by_cases hn : name = n
      · subst hn
        simp [Ne.symm hm]
      · simp [hn]

theorem length_insert_le (g : CallGraph) (n : String) (ts : List String) :
    (g.insert n ts).length ≤ g.length + 1 := by
  induction g with
  | nil => simp [insert]
  | cons entry rest ih =>
    rw [insert]
    split
    · simp
    · simpa using ih

/-- The names of chains are the names of entries. -/
theorem has_iff_mem {g : CallGraph} {name : String} :
    g.Has name ↔ name ∈ g.map (·.1) := by
  induction g with
  | nil => simp [Has, targets]
  | cons entry rest ih =>
    obtain ⟨n, ts⟩ := entry
    rw [Has, targets_cons]
    by_cases h : name = n
    · simp [h]
    · rw [if_neg h, List.map_cons, List.mem_cons, ← ih, Has]
      simp [h]

theorem Calls.has_left {g : CallGraph} {a b : String} (h : g.Calls a b) : g.Has a := by
  rw [Has]
  cases ht : g.targets a with
  | none => simp [Calls, ht] at h
  | some _ => rfl

end CallGraph

/-! ### The graph of endpoints -/

/-- Puts the targets of chains into a graph, one after the other. -/
private def insertAll (g : CallGraph) (cs : List (Endpoint × Chain)) : CallGraph :=
  cs.foldl (fun g (e, c) => g.insert e.name (distinct [] (c.steps.map (·.endpoint)))) g

private theorem insertAll_cons (g : CallGraph) (e : Endpoint) (c : Chain)
    (rest : List (Endpoint × Chain)) :
    insertAll g ((e, c) :: rest)
      = insertAll (g.insert e.name (distinct [] (c.steps.map (·.endpoint)))) rest := rfl

private theorem length_insertAll_le (g : CallGraph) (cs : List (Endpoint × Chain)) :
    (insertAll g cs).length ≤ g.length + cs.length := by
  induction cs generalizing g with
  | nil => simp [insertAll]
  | cons entry rest ih =>
    have hput := g.length_insert_le entry.1.name (distinct [] (entry.2.steps.map (·.endpoint)))
    have hrest := ih (g.insert entry.1.name (distinct [] (entry.2.steps.map (·.endpoint))))
    rw [insertAll_cons, List.length_cons]
    omega

private theorem targets_insertAll_of_notMem {name : String} {cs : List (Endpoint × Chain)}
    (h : name ∉ cs.map (·.1.name)) (g : CallGraph) :
    (insertAll g cs).targets name = g.targets name := by
  induction cs generalizing g with
  | nil => rfl
  | cons entry rest ih =>
    simp only [List.map_cons, List.mem_cons, not_or] at h
    rw [insertAll_cons, ih h.2, CallGraph.targets_insert, if_neg h.1]

private theorem targets_insertAll {e : Endpoint} {c : Chain} {cs : List (Endpoint × Chain)}
    (hnodup : (cs.map (·.1.name)).Nodup) (hmem : (e, c) ∈ cs) (g : CallGraph) :
    (insertAll g cs).targets e.name = some (distinct [] (c.steps.map (·.endpoint))) := by
  induction cs generalizing g with
  | nil => simp at hmem
  | cons entry rest ih =>
    simp only [List.map_cons, List.nodup_cons] at hnodup
    rw [insertAll_cons]
    rcases List.mem_cons.mp hmem with rfl | hmem
    · rw [targets_insertAll_of_notMem hnodup.1, CallGraph.targets_insert, if_pos rfl]
    · exact ih hnodup.2 hmem _

theorem mem_chains {e : Endpoint} {c : Chain} {endpoints : List Endpoint} :
    (e, c) ∈ chains endpoints ↔ e ∈ endpoints ∧ e.handler = .chain c := by
  rw [chains, List.mem_filterMap]
  constructor
  · rintro ⟨e', he', h⟩
    cases hh : e'.handler with
    | chain c' =>
      rw [hh] at h
      simp only [Option.some.injEq, Prod.mk.injEq] at h
      obtain ⟨rfl, rfl⟩ := h
      exact ⟨he', hh⟩
    | _ => simp [hh] at h
  · rintro ⟨he, hh⟩
    exact ⟨e, he, by rw [hh]⟩

theorem chains_names_sublist (endpoints : List Endpoint) :
    ((chains endpoints).map (·.1.name)).Sublist (endpoints.map (·.name)) := by
  induction endpoints with
  | nil => simp [chains]
  | cons e rest ih =>
    rw [chains, List.filterMap_cons]
    cases e.handler with
    | chain c => simpa [chains] using ih
    | _ => exact ih.cons _

theorem length_callGraph_le (endpoints : List Endpoint) :
    (callGraph endpoints).length ≤ (chains endpoints).length := by
  have h := length_insertAll_le [] (chains endpoints)
  simpa [insertAll, callGraph] using h

/-- The targets of a chain are the endpoints of its steps. -/
theorem targets_callGraph {endpoints : List Endpoint} (hnames : (endpoints.map (·.name)).Nodup)
    {e : Endpoint} {c : Chain} (he : e ∈ endpoints) (hc : e.handler = .chain c) :
    (callGraph endpoints).targets e.name = some (distinct [] (c.steps.map (·.endpoint))) :=
  targets_insertAll (hnames.sublist (chains_names_sublist endpoints)) (mem_chains.mpr ⟨he, hc⟩) []

end Switchboard.Config
