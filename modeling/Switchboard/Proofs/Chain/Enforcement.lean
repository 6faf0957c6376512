import Switchboard.Proofs.Chain.Step
import Switchboard.Proofs.Registry
import Mathlib.Logic.Relation

/-!
What endpoints take and give is enforced wherever chains call them.

* `Lawful` — one change of a session that keeps to a contract: a call with a payload that its endpoint
  takes, or a record of an output that its endpoint gives;
* `invoke_lawful` — from a call that an endpoint takes, everything that follows keeps to what the
  registry says, at any depth;
* `logsGrow_of_lawful` — what lawful changes leave behind in the logs of calls and of outputs.

A session changes in no other way: the state of the leaves only when a leaf is called, the contexts
only when a run is opened or an output recorded. So a chain of lawful changes accounts for all that a
request does.
-/
namespace Switchboard.Chain

open Relation

variable {L σ : Type} {leaves : Leaves L σ} {registry : Registry (Handler L)}

/-- What endpoints, by their names, take as payloads and give as outputs. -/
structure Contract where
  takes : String → Value → Prop
  gives : String → Value → Prop

/-- What the schemas of registered endpoints admit, if the endpoints have one of the `known` names. -/
def Contract.ofRegistry (registry : Registry (Handler L)) (known : List String) : Contract where
  takes name v := name ∈ known ∧ ∃ entry, registry.lookup name = some entry ∧ Admits entry.input v
  gives name v := name ∈ known ∧ ∃ entry, registry.lookup name = some entry ∧ Admits entry.output v

/-- A change of a session that keeps to a contract. A chain that is called opens a run, unless it is
nested too deep. -/
inductive Lawful (c : Contract) (leaves : Leaves L σ) (registry : Registry (Handler L)) :
    Session σ → Session σ → Prop where
  | leaf {name : String} {entry : Entry (Handler L)} {handler : L} (payload request : Value)
      (s : Session σ) (hentry : registry.lookup name = some entry)
      (hhandler : entry.handler = .leaf handler) (htakes : c.takes name (s.history.reveal payload)) :
      Lawful c leaves registry s
        { s.noted name payload request with
          state := (leaves handler s.history payload request s.state).2 }
  | chain {name : String} {entry : Entry (Handler L)} {chain : Config.Chain}
      (payload request : Value) (s : Session σ) (hentry : registry.lookup name = some entry)
      (hhandler : entry.handler = .chain chain) (htakes : c.takes name (s.history.reveal payload)) :
      Lawful c leaves registry s ((s.noted name payload request).openRun payload)
  | tooDeep {name : String} {entry : Entry (Handler L)} {chain : Config.Chain}
      (payload request : Value) (s : Session σ) (hentry : registry.lookup name = some entry)
      (hhandler : entry.handler = .chain chain) (htakes : c.takes name (s.history.reveal payload)) :
      Lawful c leaves registry s (s.noted name payload request)
  | record (run : Nat) (step : Config.Step) (output : Value) (s : Session σ)
      (hgives : c.gives step.endpoint (s.history.reveal output)) :
      Lawful c leaves registry s (s.record run step output)

/-- What keeps to a contract keeps to a weaker one. -/
theorem Lawful.weaken {c c' : Contract} (htakes : ∀ name v, c.takes name v → c'.takes name v)
    (hgives : ∀ name v, c.gives name v → c'.gives name v) {s t : Session σ}
    (h : Lawful c leaves registry s t) : Lawful c' leaves registry s t := by
  cases h with
  | leaf payload request s hentry hhandler h =>
    exact .leaf payload request s hentry hhandler (htakes _ _ h)
  | chain payload request s hentry hhandler h =>
    exact .chain payload request s hentry hhandler (htakes _ _ h)
  | tooDeep payload request s hentry hhandler h =>
    exact .tooDeep payload request s hentry hhandler (htakes _ _ h)
  | record run step output s h => exact .record run step output s (hgives _ _ h)

/-- What is new in the logs of a session keeps to a contract: the calls made were taken, and the outputs
recorded were given. -/
def LogsGrow (c : Contract) (s t : Session σ) : Prop :=
  ∃ made kept, t.calls = s.calls ++ made ∧ t.kept = s.kept ++ kept ∧
    (∀ call ∈ made, c.takes call.endpoint call.payload) ∧
      ∀ output ∈ kept, c.gives output.endpoint output.output

theorem LogsGrow.refl (c : Contract) (s : Session σ) : LogsGrow c s s :=
  ⟨[], [], by simp, by simp, by simp, by simp⟩

theorem LogsGrow.trans {c : Contract} {s t u : Session σ} (h : LogsGrow c s t)
    (h' : LogsGrow c t u) : LogsGrow c s u := by
  obtain ⟨made, kept, hcalls, hkept, htaken, hgiven⟩ := h
  obtain ⟨made', kept', hcalls', hkept', htaken', hgiven'⟩ := h'
  refine ⟨made ++ made', kept ++ kept', ?_, ?_, ?_, ?_⟩
  · rw [hcalls', hcalls, List.append_assoc]
  · rw [hkept', hkept, List.append_assoc]
  · exact List.forall_mem_append.mpr ⟨htaken, htaken'⟩
  · exact List.forall_mem_append.mpr ⟨hgiven, hgiven'⟩

theorem Lawful.logsGrow {c : Contract} {s t : Session σ} (h : Lawful c leaves registry s t) :
    LogsGrow c s t := by
  cases h with
  | leaf payload request s _ _ htakes | chain payload request s _ _ htakes
  | tooDeep payload request s _ _ htakes =>
    exact ⟨[⟨_, s.history.reveal payload, request⟩], [], rfl, (List.append_nil _).symm,
      List.forall_mem_singleton.mpr htakes, by simp⟩
  | record run step output s hgives =>
    exact ⟨[], [⟨step.endpoint, s.history.reveal output⟩], (List.append_nil _).symm, rfl, by simp,
      List.forall_mem_singleton.mpr hgives⟩

/-- The logs after any number of lawful changes. -/
theorem logsGrow_of_lawful {c : Contract} {s t : Session σ}
    (h : ReflTransGen (Lawful c leaves registry) s t) : LogsGrow c s t := by
  induction h with
  | refl => exact .refl c s
  | tail _ hlast ih => exact ih.trans hlast.logsGrow

/-! ### Calls at any depth -/

/-- A call of a leaf that its endpoint takes is one lawful change. -/
theorem invoke_leaf_lawful {c : Contract} (leaves : Leaves L σ) (fuel : Nat) {name : String}
    {entry : Entry (Handler L)} (hentry : registry.lookup name = some entry) {handler : L}
    (hhandler : entry.handler = .leaf handler) {payload : Value} {s : Session σ}
    (htakes : c.takes name (s.history.reveal payload)) (request : Value) :
    Lawful c leaves registry s
      (invoke (callHandler leaves registry fuel) entry payload request s).2 := by
  rw [invoke_eq, Registry.lookup_name hentry, hhandler, callHandler_leaf]
  exact .leaf payload request s hentry hhandler htakes

/-- Everything that follows from a call that its endpoint takes keeps to what the registry says. The
induction is on the depth; within one chain `execute_preserves` carries the changes along. -/
theorem invoke_lawful {known : List String} (hclosed : Closed registry known)
    (leaves : Leaves L σ) (fuel : Nat) {name : String} (hname : name ∈ known)
    {entry : Entry (Handler L)} (hentry : registry.lookup name = some entry) {payload : Value}
    {s : Session σ} (hadmits : Admits entry.input (s.history.reveal payload)) (request : Value) :
    ReflTransGen (Lawful (.ofRegistry registry known) leaves registry) s
      (invoke (callHandler leaves registry fuel) entry payload request s).2 := by
  induction fuel generalizing name entry payload request s with
  | zero =>
    have htakes : (Contract.ofRegistry registry known).takes name (s.history.reveal payload) :=
      ⟨hname, entry, hentry, hadmits⟩
    cases hhandler : entry.handler with
    | leaf handler => exact .single (invoke_leaf_lawful leaves 0 hentry hhandler htakes request)
    | chain chain =>
      rw [invoke_eq, Registry.lookup_name hentry, hhandler, callHandler]
      exact .single (.tooDeep payload request s hentry hhandler htakes)
  | succ fuel ih =>
    have htakes : (Contract.ofRegistry registry known).takes name (s.history.reveal payload) :=
      ⟨hname, entry, hentry, hadmits⟩
    cases hhandler : entry.handler with
    | leaf handler => exact .single (invoke_leaf_lawful leaves _ hentry hhandler htakes request)
    | chain chain =>
      have hopened : Lawful (.ofRegistry registry known) leaves registry s
          ((s.noted name payload request).openRun payload) :=
        .chain payload request s hentry hhandler htakes
      have hknown := hclosed.steps name hname entry hentry chain hhandler
      -- the changes since `s` are lawful: calls of the steps by induction, records by the check
      -- that a step makes of its output
      have hkeeps : Keeps (callHandler leaves registry fuel) registry
          (s.noted name payload request).history.length request chain.steps
          (ReflTransGen (Lawful (.ofRegistry registry known) leaves registry) s) := by
        refine ⟨fun step hstep below hbelow input t hadmits ht => ?_, ?_⟩
        · exact ht.trans (ih (hknown step hstep) hbelow hadmits request)
        · rintro step hstep t input output u ⟨below, hbelow, -, -, -, hgives⟩ hu
          exact hu.tail (.record _ step output u ⟨hknown step hstep, below, hbelow, hgives⟩)
      rw [invoke_eq, Registry.lookup_name hentry, hhandler, callHandler]
      exact execute_preserves hkeeps (.single hopened) .fresh

end Switchboard.Chain
