import Switchboard.Proofs.Chain.Step

/-!
How deep chains are nested.

`callWithin deeper leaves registry depth` calls handlers with chains nested at most `depth` deep and
leaves to `deeper` whatever lies below. A call whose answer is the same for every `deeper` does not
nest deeper than that.

* `callWithin_tooDeep` — with a refusal in place of `deeper` it is `callHandler`;
* `callWithin_eq` — where a rank goes down from each chain to the endpoints of its steps, the rank of
  an endpoint bounds how deep its handler nests: neither `deeper` nor a greater depth matters.

Design notes: the rank is asked for on names that the steps do not leave (`Closed`), since a registry
may hold other entries beside them.
-/
namespace Switchboard.Chain

variable {L σ : Type}

/-- Calls a handler with at most `depth` chains in each other; a chain below them is left to
`deeper`. -/
def callWithin (deeper : Caller L σ) (leaves : Leaves L σ) (registry : Registry (Handler L)) :
    (depth : Nat) → Caller L σ
  | _, .leaf handler, payload, request, s =>
    match leaves handler s.history payload request s.state with
    | (outcome, state) => (outcome, { s with state := state })
  | 0, .chain chain, payload, request, s => deeper (.chain chain) payload request s
  | depth + 1, .chain chain, payload, request, s =>
    match execute (callWithin deeper leaves registry depth) registry chain payload request .fresh s
      with
    | ((outcome, _), s) => (outcome, s)

/-- The caller that refuses everything as nested too deep. -/
def tooDeep : Caller L σ := fun _ _ _ s => (.error .tooDeep, s)

/-- Calls with a bound on the depth are those that refuse what lies below. -/
theorem callWithin_tooDeep (leaves : Leaves L σ) (registry : Registry (Handler L)) (depth : Nat) :
    callWithin tooDeep leaves registry depth = callHandler leaves registry depth := by
  induction depth with
  | zero =>
    funext handler payload request s
    cases handler with
    | leaf handler => rw [callWithin, callHandler]
    | chain chain => rw [callWithin, callHandler, tooDeep]
  | succ depth ih =>
    funext handler payload request s
    cases handler with
    | leaf handler => rw [callWithin, callHandler]
    | chain chain => rw [callWithin, callHandler, ih]

/-- A leaf is called the same way at any depth. -/
theorem callWithin_leaf (deeper deeper' : Caller L σ) (leaves : Leaves L σ)
    (registry : Registry (Handler L)) (depth depth' : Nat) (handler : L) :
    callWithin deeper leaves registry depth (.leaf handler)
      = callWithin deeper' leaves registry depth' (.leaf handler) := by
  funext payload request s
  rw [callWithin, callWithin]

/-- The rank of a chain with one of the `known` names is not zero, and its steps name endpoints of a
lower rank. -/
def Descends (registry : Registry (Handler L)) (known : List String) (rank : String → Nat) : Prop :=
  ∀ name ∈ known, ∀ entry, registry.lookup name = some entry → ∀ c, entry.handler = .chain c →
    0 < rank name ∧ ∀ step ∈ c.steps, rank step.endpoint < rank name

/-- Handlers nest no deeper than their rank: what would answer below does not matter, and neither does
how much deeper they might go. The induction is on the depth, from a chain to the endpoints of its
steps. -/
theorem callWithin_eq {registry : Registry (Handler L)} {known : List String}
    {rank : String → Nat} (hclosed : Closed registry known)
    (hdescends : Descends registry known rank) (leaves : Leaves L σ) (deeper deeper' : Caller L σ)
    {name : String} (hname : name ∈ known) {entry : Entry (Handler L)}
    (hentry : registry.lookup name = some entry) {depth depth' : Nat} (hdepth : rank name ≤ depth)
    (hdepth' : rank name ≤ depth') :
    callWithin deeper leaves registry depth entry.handler
      = callWithin deeper' leaves registry depth' entry.handler := by
  induction depth generalizing depth' name entry with
  | zero =>
    cases hhandler : entry.handler with
    | leaf handler => exact callWithin_leaf ..
    | chain c =>
      have hpos := (hdescends name hname entry hentry c hhandler).1
      omega
  | succ depth ih =>
    cases hhandler : entry.handler with
    | leaf handler => exact callWithin_leaf ..
    | chain c =>
      obtain ⟨hpos, hlower⟩ := hdescends name hname entry hentry c hhandler
      have hknown := hclosed.steps name hname entry hentry c hhandler
      obtain ⟨depth', rfl⟩ : ∃ d, depth' = d + 1 := ⟨depth' - 1, by omega⟩
      have hbelow : ∀ step ∈ c.steps, ∀ below, registry.lookup step.endpoint = some below →
          callWithin deeper leaves registry depth below.handler
            = callWithin deeper' leaves registry depth' below.handler := by
        intro step hstep below hbelow
        have hrank := hlower step hstep
        exact ih (hknown step hstep) hbelow (by omega) (by omega)
      funext payload request s
      rw [callWithin, callWithin, execute_congr hbelow]

/-- The same for calls with a bound on the depth. -/
theorem callHandler_eq {registry : Registry (Handler L)} {known : List String}
    {rank : String → Nat} (hclosed : Closed registry known)
    (hdescends : Descends registry known rank) (leaves : Leaves L σ) (deeper : Caller L σ)
    {name : String} (hname : name ∈ known) {entry : Entry (Handler L)}
    (hentry : registry.lookup name = some entry) {depth fuel : Nat} (hdepth : rank name ≤ depth)
    (hfuel : rank name ≤ fuel) :
    callWithin deeper leaves registry depth entry.handler
      = callHandler leaves registry fuel entry.handler := by
  rw [callWithin_eq hclosed hdescends leaves deeper tooDeep hname hentry hdepth hfuel,
    callWithin_tooDeep]

end Switchboard.Chain
