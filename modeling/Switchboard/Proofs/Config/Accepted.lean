import Switchboard.Config.Server
import Switchboard.Proofs.Config.Verdict

/-!
What is known of settings that were accepted.

* `Server.unambiguous_of_read`, `Server.ambiguity_eq_none` — settings that were read break no rule, which
  is to say that no two endpoints share a name or a route;
* `of_checkCalls_eq_ok` — when the check of calls goes well, every step names an endpoint;
* `exists_rank` — then the endpoints have ranks that go down from each chain to the endpoints of its
  steps.

The rank of a chain is its height in the order that the search for circles leaves behind; endpoints
that are no chains have rank zero.
-/
namespace Switchboard.Config

/-! ### Names -/

/-- A further check gives a value only if there was one to check. -/
theorem Checked.andThen_eq_valid {α β : Type} {a : Checked α} {next : α → Checked β} {b : β} :
    a.andThen next = .valid b ↔ ∃ x, a = .valid x ∧ next x = .valid b := by
  cases a <;> simp [andThen]

/-- A rule that must not be broken. -/
theorem Checked.require_eq_valid {α : Type} {rule : Option Rule} {a b : α} :
    require rule a = .valid b ↔ rule = none ∧ a = b := by
  cases rule <;> simp [require, fault]

/-- Settings that were read are not ambiguous. -/
theorem Server.unambiguous_of_read {directory : Files.Path} {v : Value} {server : Server}
    (h : Server.read directory v = .valid server) :
    Server.ambiguity [] [] server.endpoints = none := by
  obtain ⟨s, -, hrule⟩ := Checked.andThen_eq_valid.mp h
  obtain ⟨hnone, rfl⟩ := Checked.require_eq_valid.mp hrule
  exact hnone

/-- No two of a list have the same key, and none has a key that was seen before. -/
def Apart {α β : Type} (key : α → β) (seen : List β) (as : List α) : Prop :=
  (as.map key).Nodup ∧ ∀ a ∈ as, key a ∉ seen

/-- The rest of a list is compared with the first key too. -/
theorem apart_cons {α β : Type} {key : α → β} {seen : List β} {a : α} {rest : List α} :
    Apart key seen (a :: rest) ↔ key a ∉ seen ∧ Apart key (key a :: seen) rest := by
  rw [Apart, Apart, List.map_cons, List.nodup_cons, List.forall_mem_cons]
  simp only [List.mem_cons, not_or, List.mem_map, not_exists, not_and]
  constructor
  · rintro ⟨⟨hnew, hnodup⟩, hseen, hrest⟩
    exact ⟨hseen, hnodup, fun other hother => ⟨hnew other hother, hrest other hother⟩⟩
  · rintro ⟨hseen, hnodup, hrest⟩
    exact ⟨⟨fun other hother => (hrest other hother).1, hnodup⟩, hseen,
      fun other hother => (hrest other hother).2⟩

/-- Endpoints are not ambiguous exactly when no two share a name and no two share a route. -/
theorem Server.ambiguity_eq_none {names : List String} {routes : List (Method × String)}
    {endpoints : List Endpoint} :
    Server.ambiguity names routes endpoints = none ↔
      Apart (·.name) names endpoints ∧ Apart (fun e => (e.method, e.path)) routes endpoints := by
  induction endpoints generalizing names routes with
  | nil => simp [ambiguity, Apart]
  | cons e rest ih =>
    rw [ambiguity, apart_cons, apart_cons]
    by_cases hname : e.name ∈ names
    · simp [hname]
    by_cases hroute : (e.method, e.path) ∈ routes
    · simp [hname, hroute]
    rw [if_neg hname, if_neg hroute, ih]
    simp [hname, hroute]

/-- No two endpoints of a server share a name. -/
theorem Server.names_nodup {endpoints : List Endpoint}
    (h : Server.ambiguity [] [] endpoints = none) : (endpoints.map (·.name)).Nodup :=
  (Server.ambiguity_eq_none.mp h).1.1

/-- No two endpoints of a server share a route. -/
theorem Server.routes_nodup {endpoints : List Endpoint}
    (h : Server.ambiguity [] [] endpoints = none) :
    (endpoints.map fun e => (e.method, e.path)).Nodup :=
  (Server.ambiguity_eq_none.mp h).2.1

/-! ### Ranks -/

/-- A rank of endpoints goes down from each chain to the endpoints of its steps, and is nowhere higher
than there are chains. -/
structure IsRank (endpoints : List Endpoint) (rank : String → Nat) : Prop where
  le : ∀ name, rank name ≤ (chains endpoints).length
  pos : ∀ e ∈ endpoints, ∀ c, e.handler = .chain c → 0 < rank e.name
  lt : ∀ e ∈ endpoints, ∀ c, e.handler = .chain c → ∀ step ∈ c.steps,
    rank step.endpoint < rank e.name

theorem of_checkCalls_eq_ok {endpoints : List Endpoint} {g : CallGraph}
    (h : checkCalls endpoints = .ok g) :
    AllKnown endpoints ∧ findCycle? (callGraph endpoints) = none := by
  rcases checkCalls_cases endpoints with
    ⟨_, _, _, herror, -⟩ | ⟨-, _, herror, -⟩ | ⟨hknown, -, hnone⟩
  · simp [herror] at h
  · simp [herror] at h
  · exact ⟨hknown, hnone⟩

/-- Endpoints whose calls were accepted have ranks. -/
theorem exists_rank {endpoints : List Endpoint} {g : CallGraph}
    (hnames : (endpoints.map (·.name)).Nodup) (h : checkCalls endpoints = .ok g) :
    ∃ rank, IsRank endpoints rank := by
  -- the rank of a chain is how far it stands from the end of the order that the search leaves
  obtain ⟨order, horder, hall⟩ := exists_order (of_checkCalls_eq_ok h).2
  have hin : ∀ e ∈ endpoints, ∀ c, e.handler = .chain c → e.name ∈ order := by
    intro e he c hc
    refine hall e.name ?_
    rw [CallGraph.Has, targets_callGraph hnames he hc]
    rfl
  refine ⟨height order, fun name => ?_, fun e he c hc => height_pos (hin e he c hc), ?_⟩
  · calc height order name ≤ order.length := height_le order name
      _ ≤ (callGraph endpoints).length := horder.length_le
      _ ≤ (chains endpoints).length := length_callGraph_le endpoints
  · intro e he c hc step hstep
    by_cases hmem : step.endpoint ∈ order
    · refine horder.height_lt (hin e he c hc) ⟨?_, horder.has _ hmem⟩
      rw [targets_callGraph hnames he hc, Option.getD_some, mem_distinct]
      exact ⟨List.mem_map_of_mem hstep, List.not_mem_nil⟩
    · -- a step that is not in the order names no chain
      rw [height_eq_zero hmem]
      exact height_pos (hin e he c hc)

end Switchboard.Config
