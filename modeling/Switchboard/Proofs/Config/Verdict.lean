import Switchboard.Proofs.Config.Search

/-!
The verdict of the check of calls, before a server starts.

* `unknownCall_reports` — the first step that names no endpoint is reported, in the order of the
  endpoints and then of the steps;
* `checkCalls_verdict` — the check refuses such a step, then a circle of chains, and nothing else; what
  it accepts is the graph of the calls.

Positions in the list of endpoints and in the list of steps are compared lexicographically, which is
what "first" means here.
-/
namespace Switchboard.Config

/-- Step `k` of the endpoint at position `i`, the chain `chain`, names an endpoint `target` that is not
known. -/
def UnknownAt (known : List String) (endpoints : List Endpoint) (i k : Nat)
    (chain target : String) : Prop :=
  ∃ e c step, endpoints[i]? = some e ∧ e.handler = .chain c ∧ c.steps[k]? = some step ∧
    e.name = chain ∧ step.endpoint = target ∧ target ∉ known

/-- Step `k` of the chain `chain` names an endpoint `target` that is not known, and no endpoint or step
before it does. -/
def FirstUnknown (known : List String) (endpoints : List Endpoint) (chain target : String)
    (k : Nat) : Prop :=
  ∃ i, UnknownAt known endpoints i k chain target ∧
    ∀ i' k' chain' target', UnknownAt known endpoints i' k' chain' target' →
      i < i' ∨ i = i' ∧ k ≤ k'

/-- Every step of every chain names an endpoint of the list. -/
def AllKnown (endpoints : List Endpoint) : Prop :=
  ∀ e ∈ endpoints, ∀ c, e.handler = .chain c → ∀ step ∈ c.steps,
    step.endpoint ∈ endpoints.map (·.name)

/-! ### The first unknown endpoint -/

theorem unknownAt_zero {known : List String} {e : Endpoint} {rest : List Endpoint} {k : Nat}
    {chain target : String} :
    UnknownAt known (e :: rest) 0 k chain target ↔
      ∃ c step, e.handler = .chain c ∧ c.steps[k]? = some step ∧ e.name = chain ∧
        step.endpoint = target ∧ target ∉ known := by
  simp [UnknownAt]

/-- There is one first place only. -/
theorem FirstUnknown.unique {known : List String} {endpoints : List Endpoint}
    {chain chain' target target' : String} {k k' : Nat}
    (h : FirstUnknown known endpoints chain target k)
    (h' : FirstUnknown known endpoints chain' target' k') :
    chain = chain' ∧ target = target' ∧ k = k' := by
  obtain ⟨i, hat, hfirst⟩ := h
  obtain ⟨i', hat', hfirst'⟩ := h'
  have hle := hfirst i' k' chain' target' hat'
  have hle' := hfirst' i k chain target hat
  -- each is not after the other, so they are one place, and a place holds one step
  obtain rfl : i = i' := by omega
  obtain rfl : k = k' := by omega
  obtain ⟨e, c, step, he, hc, hstep, rfl, rfl, -⟩ := hat
  obtain ⟨e', c', step', he', hc', hstep', rfl, rfl, -⟩ := hat'
  obtain rfl : e = e' := Option.some.inj (he.symm.trans he')
  obtain rfl : c = c' := Handler.chain.inj (hc.symm.trans hc')
  obtain rfl : step = step' := Option.some.inj (hstep.symm.trans hstep')
  exact ⟨rfl, rfl, rfl⟩

/-- What the look at the steps of one chain comes to. -/
theorem unknownStep_spec (known : List String) (index : Nat) (steps : List Step) :
    match unknownStep known index steps with
    | none => ∀ step ∈ steps, step.endpoint ∈ known
    | some (j, target) => ∃ k step, j = index + k ∧ steps[k]? = some step ∧
        step.endpoint = target ∧ target ∉ known ∧
        ∀ k' step', steps[k']? = some step' → step'.endpoint ∉ known → k ≤ k' := by
  induction steps generalizing index with
  | nil => simp [unknownStep]
  | cons step rest ih =>
    rw [unknownStep]
    by_cases hknown : step.endpoint ∈ known
    · rw [if_pos hknown]
      have hrest := ih (index + 1)
      cases hfound : unknownStep known (index + 1) rest with
      | none =>
        rw [hfound] at hrest
        exact List.forall_mem_cons.mpr ⟨hknown, hrest⟩
      | some found =>
        rw [hfound] at hrest
        obtain ⟨k, found, hj, hat, htarget, hnew, hfirst⟩ := hrest
        refine ⟨k + 1, found, by omega, hat, htarget, hnew, fun k' step' hat' hnew' => ?_⟩
        cases k' with
        | zero =>
          obtain rfl : step = step' := by simpa using hat'
          exact absurd hknown hnew'
        | succ k' => exact Nat.succ_le_succ (hfirst k' step' hat' hnew')
    · rw [if_neg hknown]
      exact ⟨0, step, rfl, rfl, rfl, hknown, fun k' _ _ _ => Nat.zero_le k'⟩

/-- What the look at all chains has to come to. -/
def Reports (known : List String) (endpoints : List Endpoint) : Option CallError → Prop
  | none => ∀ i k chain target, ¬ UnknownAt known endpoints i k chain target
  | some (.unknownEndpoint chain target k) => FirstUnknown known endpoints chain target k
  | some (.circular _) => False

/-- An endpoint without unknown steps in front changes nothing. -/
theorem Reports.cons {known : List String} {e : Endpoint} {rest : List Endpoint}
    {found : Option CallError} (h : Reports known rest found)
    (hhead : ∀ k chain target, ¬ UnknownAt known (e :: rest) 0 k chain target) :
    Reports known (e :: rest) found := by
  match found with
  | none =>
    intro i k chain target
    cases i with
    | zero => exact hhead k chain target
    | succ i => exact h i k chain target
  | some (.circular _) => exact h
  | some (.unknownEndpoint chain target k) =>
    obtain ⟨i, hat, hfirst⟩ := h
    refine ⟨i + 1, hat, fun i' k' chain' target' hat' => ?_⟩
    cases i' with
    | zero => exact absurd hat' (hhead k' chain' target')
    | succ i' =>
      have := hfirst i' k' chain' target' hat'
      omega

theorem unknownCall_reports (known : List String) (endpoints : List Endpoint) :
    Reports known endpoints (unknownCall known (chains endpoints)) := by
  induction endpoints with
  | nil => simp [chains, unknownCall, Reports, UnknownAt]
  | cons e rest ih =>
    cases hhandler : e.handler with
    | chain c =>
      have hchains : chains (e :: rest) = (e, c) :: chains rest := by
        simp [chains, hhandler]
      have hsteps := unknownStep_spec known 0 c.steps
      rw [hchains, unknownCall]
      cases hfound : unknownStep known 0 c.steps with
      | none =>
        rw [hfound] at hsteps
        refine ih.cons fun k chain target hat => ?_
        obtain ⟨c', step, hc', hstep, -, rfl, hnew⟩ := unknownAt_zero.mp hat
        obtain rfl : c = c' := Handler.chain.inj (hhandler.symm.trans hc')
        exact hnew (hsteps step (List.mem_of_getElem? hstep))
      | some found =>
        obtain ⟨j, target⟩ := found
        rw [hfound] at hsteps
        obtain ⟨k, step, hj, hstep, htarget, hnew, hfirst⟩ := hsteps
        obtain rfl : j = k := by omega
        refine ⟨0, unknownAt_zero.mpr ⟨c, step, hhandler, hstep, rfl, htarget, hnew⟩, ?_⟩
        intro i' k' chain' target' hat'
        cases i' with
        | succ i' => omega
        | zero =>
          obtain ⟨c', step', hc', hstep', -, rfl, hnew'⟩ := unknownAt_zero.mp hat'
          obtain rfl : c = c' := Handler.chain.inj (hhandler.symm.trans hc')
          exact .inr ⟨rfl, hfirst k' step' hstep' hnew'⟩
    | _ =>
      have hchains : chains (e :: rest) = chains rest := by
        simp [chains, hhandler]
      rw [hchains]
      refine ih.cons fun k chain target hat => ?_
      obtain ⟨c, -, hc, -⟩ := unknownAt_zero.mp hat
      simp [hhandler] at hc

/-- Nothing is unknown exactly when every step names an endpoint of the list. -/
theorem allKnown_iff {endpoints : List Endpoint} :
    AllKnown endpoints ↔
      ∀ i k chain target, ¬ UnknownAt (endpoints.map (·.name)) endpoints i k chain target := by
  constructor
  · rintro h i k chain target ⟨e, c, step, he, hc, hstep, -, rfl, hnew⟩
    exact hnew (h e (List.mem_of_getElem? he) c hc step (List.mem_of_getElem? hstep))
  · intro h e he c hc step hstep
    by_contra hnew
    obtain ⟨i, hi⟩ := List.mem_iff_getElem?.mp he
    obtain ⟨k, hk⟩ := List.mem_iff_getElem?.mp hstep
    exact h i k e.name step.endpoint ⟨e, c, step, hi, hc, hk, rfl, rfl, hnew⟩

/-! ### The check -/

/-- The check answers in one of three ways: it reports the first unknown endpoint, else a circle, else
it gives the graph. -/
theorem checkCalls_cases (endpoints : List Endpoint) :
    (∃ chain target k, checkCalls endpoints = .error (.unknownEndpoint chain target k) ∧
      FirstUnknown (endpoints.map (·.name)) endpoints chain target k) ∨
    (AllKnown endpoints ∧ ∃ cycle, checkCalls endpoints = .error (.circular cycle) ∧
      IsCircle (callGraph endpoints) cycle) ∨
    (AllKnown endpoints ∧ checkCalls endpoints = .ok (callGraph endpoints) ∧
      findCycle? (callGraph endpoints) = none) := by
  have hreports := unknownCall_reports (endpoints.map (·.name)) endpoints
  match hfound : unknownCall (endpoints.map (·.name)) (chains endpoints) with
  | some (.unknownEndpoint chain target k) =>
    rw [hfound] at hreports
    exact .inl ⟨chain, target, k, by rw [checkCalls, hfound], hreports⟩
  | some (.circular _) =>
    rw [hfound] at hreports
    exact hreports.elim
  | none =>
    rw [hfound] at hreports
    have hknown := allKnown_iff.mpr hreports
    cases hcycle : findCycle? (callGraph endpoints) with
    | some cycle =>
      exact .inr (.inl ⟨hknown, cycle, by rw [checkCalls, hfound, hcycle],
        findCycle?_isCircle hcycle⟩)
    | none => exact .inr (.inr ⟨hknown, by rw [checkCalls, hfound, hcycle], rfl⟩)

theorem FirstUnknown.not_allKnown {endpoints : List Endpoint} {chain target : String} {k : Nat}
    (h : FirstUnknown (endpoints.map (·.name)) endpoints chain target k) :
    ¬ AllKnown endpoints := by
  obtain ⟨i, hat, -⟩ := h
  exact fun hknown => allKnown_iff.mp hknown i k chain target hat

/-- **The verdict of the check of calls.** A step that names no endpoint of the list is refused, and it
is the first one that is named; else chains that can come back to themselves are refused; else the
check gives the graph of the calls. -/
theorem checkCalls_verdict (endpoints : List Endpoint) :
    ((∃ chain target k, checkCalls endpoints = .error (.unknownEndpoint chain target k)) ↔
      ¬ AllKnown endpoints) ∧
    (∀ chain target k, checkCalls endpoints = .error (.unknownEndpoint chain target k) ↔
      FirstUnknown (endpoints.map (·.name)) endpoints chain target k) ∧
    ((∃ cycle, checkCalls endpoints = .error (.circular cycle)) ↔
      AllKnown endpoints ∧ (callGraph endpoints).IsCircular) ∧
    (∀ g, checkCalls endpoints = .ok g ↔
      AllKnown endpoints ∧ ¬ (callGraph endpoints).IsCircular ∧ g = callGraph endpoints) := by
  rcases checkCalls_cases endpoints with
    ⟨chain, target, k, hcheck, hfirst⟩ | ⟨hknown, cycle, hcheck, hcircle⟩ |
      ⟨hknown, hcheck, hnone⟩
  · have hnot := hfirst.not_allKnown
    refine ⟨?_, fun chain' target' k' => ⟨fun h => ?_, fun h => ?_⟩, ?_, ?_⟩
    · exact ⟨fun _ => hnot, fun _ => ⟨chain, target, k, hcheck⟩⟩
    · rw [hcheck] at h
      simp only [Except.error.injEq, CallError.unknownEndpoint.injEq] at h
      obtain ⟨rfl, rfl, rfl⟩ := h
      exact hfirst
    · obtain ⟨rfl, rfl, rfl⟩ := hfirst.unique h
      exact hcheck
    · simp [hcheck, hnot]
    · simp [hcheck, hnot]
  · have hfirst : ∀ chain target k,
        ¬ FirstUnknown (endpoints.map (·.name)) endpoints chain target k :=
      fun _ _ _ h => h.not_allKnown hknown
    simp [hcheck, hknown, hfirst, hcircle.isCircular]
  · have hfirst : ∀ chain target k,
        ¬ FirstUnknown (endpoints.map (·.name)) endpoints chain target k :=
      fun _ _ _ h => h.not_allKnown hknown
    have hopen := findCycle?_eq_none_iff.mp hnone
    simp [hcheck, hknown, hfirst, hopen, eq_comm]

end Switchboard.Config
