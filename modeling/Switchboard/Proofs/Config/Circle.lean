import Switchboard.Proofs.Config.Verdict

/-!
The circle that the check of calls reports.

* `checkCalls_circle` — it is one: it closes, it names no chain twice, and each chain on it calls the
  next;
* `checkCalls_eq_plain` — it is the one that the plain search meets first, which remembers nothing but
  the path under way.

Design notes: the search marks the chains that it is done with and never enters them again, whereas
`plainSearch` enters a chain as often as it is called. The two agree because the chains that are done
stand in an order (`Order`) in which each calls only later ones: from such a chain the plain search
walks down that order, never comes to a name on the path, and goes on with the next target as if it had
passed the chain by (`plainSearch_of_order`).
-/
namespace Switchboard.Config

open CallGraph

variable {g : CallGraph}

/-! ### A genuine circle -/

theorem IsCircle.two_le_length {cycle : List String} (h : IsCircle g cycle) : 2 ≤ cycle.length := by
  obtain ⟨name, others, rfl, -, -⟩ := h
  simp

/-- A circle ends where it starts. -/
theorem IsCircle.head?_eq_getLast? {cycle : List String} (h : IsCircle g cycle) :
    cycle.head? = cycle.getLast? := by
  obtain ⟨name, others, rfl, -, -⟩ := h
  rw [List.getLast?_concat]
  rfl

theorem IsCircle.nodup_dropLast {cycle : List String} (h : IsCircle g cycle) :
    cycle.dropLast.Nodup := by
  obtain ⟨name, others, rfl, hnodup, -⟩ := h
  rwa [List.dropLast_concat]

/-- Each name on a circle calls the one behind it. -/
theorem IsCircle.calls {cycle : List String} (h : IsCircle g cycle) {i : Nat}
    (hi : i + 1 < cycle.length) : g.Calls cycle[i] cycle[i + 1] := by
  obtain ⟨-, -, -, -, hcalls⟩ := h
  exact List.isChain_iff_getElem.mp hcalls i hi

/-- Only chains are on a circle. -/
theorem IsCircle.has {cycle : List String} (h : IsCircle g cycle) :
    ∀ name ∈ cycle, g.Has name := by
  intro name hname
  obtain ⟨i, hi, rfl⟩ := List.getElem_of_mem hname
  cases i with
  | succ i => exact (h.calls hi).2
  | zero =>
    -- the first name calls another one
    have hlength := h.two_le_length
    exact (h.calls (i := 0) (by omega)).has_left

/-- Chains that cross: the one that is shared is done when it is called again, and the first can come
back to itself. -/
def crossing : List Endpoint :=
  let calling (targets : List String) : Handler :=
    .chain ⟨targets.map fun target => ⟨none, target, .null⟩, .null⟩
  [⟨"first", "", "/first", .post, none, none, calling ["shared", "second"]⟩,
    ⟨"second", "", "/second", .post, none, none, calling ["shared", "first"]⟩,
    ⟨"shared", "", "/shared", .post, none, none, calling ["tool"]⟩,
    ⟨"tool", "", "/tool", .post, none, none, .tool ⟨"look", "ask", [], 1.0⟩⟩]

theorem checkCalls_crossing :
    checkCalls crossing = .error (.circular ["first", "second", "first"]) := by
  simp [crossing, checkCalls, chains, unknownCall, unknownStep, callGraph, findCycle?, visitAll, visit,
    CallGraph.insert, CallGraph.targets, distinct, List.lookup_cons, closeCycle]

/-- **The circle is genuine.** Where the check of calls reports a circle, this has two names at least,
ends where it starts, and has no other name twice; all its names are names of chains, and each but the
last has the next one among its targets. -/
theorem checkCalls_circle {endpoints : List Endpoint} {cycle : List String}
    (h : checkCalls endpoints = .error (.circular cycle)) :
    2 ≤ cycle.length ∧ cycle.head? = cycle.getLast? ∧ cycle.dropLast.Nodup ∧
    (∀ name ∈ cycle, (callGraph endpoints).Has name) ∧
    ∀ i (hi : i + 1 < cycle.length),
      ∃ targets, (callGraph endpoints).targets cycle[i] = some targets ∧ cycle[i + 1] ∈ targets := by
  have hcircle : IsCircle (callGraph endpoints) cycle := by
    rcases checkCalls_cases endpoints with
      ⟨_, _, _, hother, -⟩ | ⟨-, found, hfound, hcircle⟩ | ⟨-, hok, -⟩
    · simp [hother] at h
    · obtain rfl : found = cycle := by simpa [hfound] using h
      exact hcircle
    · simp [hok] at h
  refine ⟨hcircle.two_le_length, hcircle.head?_eq_getLast?, hcircle.nodup_dropLast, hcircle.has,
    fun i hi => ?_⟩
  have hcall := hcircle.calls hi
  obtain ⟨targets, htargets⟩ := Option.isSome_iff_exists.mp hcall.has_left
  refine ⟨targets, htargets, ?_⟩
  simpa [htargets] using hcall.1

theorem crossing_circle :
    checkCalls crossing = .error (.circular ["first", "second", "first"]) ∧
      ["first", "second"].Nodup ∧
      (∀ name ∈ ["first", "second", "first"], (callGraph crossing).Has name) ∧
      ∃ targets, (callGraph crossing).targets "second" = some targets ∧ "first" ∈ targets := by
  obtain ⟨-, -, hnodup, hhas, hnext⟩ := checkCalls_circle checkCalls_crossing
  exact ⟨checkCalls_crossing, hnodup, hhas, hnext 1 (by decide)⟩

/-! ### The plain search -/

/-- A path that takes up another chain leaves fewer entries off it. -/
theorem length_off_lt {path : List String} {target : String} (hhas : g.Has target)
    (hnew : target ∉ path) :
    (g.filter (·.1 ∉ path ++ [target])).length < (g.filter (·.1 ∉ path)).length := by
  have hless : g.filter (·.1 ∉ path ++ [target]) = (g.filter (·.1 ∉ path)).filter (·.1 ≠ target) := by
    rw [List.filter_filter]
    refine List.filter_congr fun entry _ => ?_
    simp [and_comm]
  rw [hless, List.length_filter_lt_length_iff_exists]
  obtain ⟨entry, hentry, hname⟩ := List.mem_map.mp (has_iff_mem.mp hhas)
  exact ⟨entry, List.mem_filter.mpr ⟨hentry, by simpa [hname] using hnew⟩, by simpa using hname⟩

/-- The first circle that is met when targets are followed one after the other, each of them down to
its end before the next. `path` holds the names on the path under way, earliest first, and is all that
is remembered: a chain is entered whenever it is called. A target on the path closes a circle, which is
the path from there on with the target once more. -/
def plainSearch (g : CallGraph) (path : List String) : List String → Option (List String)
  | [] => none
  | target :: rest =>
    if g.Has target then
      if target ∈ path then some (path.drop (path.idxOf target) ++ [target])
      else
        match plainSearch g (path ++ [target]) ((g.targets target).getD []) with
        | some cycle => some cycle
        | none => plainSearch g path rest
    else plainSearch g path rest
termination_by targets => ((g.filter (·.1 ∉ path)).length, targets.length)
decreasing_by
  · exact Prod.Lex.left _ _ (length_off_lt ‹_› ‹_›)
  · exact Prod.Lex.right _ (Nat.lt_succ_self _)
  · exact Prod.Lex.right _ (Nat.lt_succ_self _)

/-- What the check of calls gives with the plain search, where every step names an endpoint. -/
def plainVerdict (endpoints : List Endpoint) : Except CallError CallGraph :=
  match plainSearch (callGraph endpoints) [] ((callGraph endpoints).map (·.1)) with
  | some cycle => .error (.circular cycle)
  | none => .ok (callGraph endpoints)

/-- What a chain in an order calls stands behind it. -/
theorem Order.exists_behind {order : List String} (h : Order g order) {name : String}
    (hname : name ∈ order) :
    ∃ behind, Order g behind ∧ behind ⊆ order ∧ name ∉ behind ∧
      ∀ b, g.Calls name b → b ∈ behind := by
  induction order with
  | nil => simp at hname
  | cons first rest ih =>
    obtain ⟨⟨-, hfirst, hcalls⟩, hrest⟩ := h
    rcases List.mem_cons.mp hname with rfl | hname
    · exact ⟨rest, hrest, List.subset_cons_self _ _, hfirst, hcalls⟩
    · obtain ⟨behind, hbehind, hsub, hnot, hall⟩ := ih hrest hname
      exact ⟨behind, hbehind, List.subset_cons_of_subset _ hsub, hnot, hall⟩

/-- From chains that stand in an order off the path the plain search meets no circle. -/
theorem plainSearch_of_order {order path targets : List String} (horder : Order g order)
    (hapart : ∀ name ∈ path, name ∉ order) (htargets : ∀ name ∈ targets, g.Has name → name ∈ order) :
    plainSearch g path targets = none := by
  induction path, targets using plainSearch.induct g generalizing order with
  | case1 path => rw [plainSearch]
  | case2 path target rest hhas hback =>
    exact absurd (htargets target List.mem_cons_self hhas) (hapart target hback)
  | case3 path target rest hhas hnew cycle hfound ih =>
    -- below `target` the search stays behind it in the order, where the path does not come
    obtain ⟨behind, hbehind, hsub, hnot, hcalls⟩ :=
      horder.exists_behind (htargets target List.mem_cons_self hhas)
    have hapart' : ∀ name ∈ path ++ [target], name ∉ behind := by
      intro name hname
      rcases List.mem_append.mp hname with hname | hname
      · exact fun hmem => hapart name hname (hsub hmem)
      · obtain rfl := List.mem_singleton.mp hname
        exact hnot
    rw [ih hbehind hapart' fun name hname hhas' => hcalls name ⟨hname, hhas'⟩] at hfound
    cases hfound
  | case4 path target rest hhas hnew hnone ih ihrest =>
    rw [plainSearch, if_pos hhas, if_neg hnew, hnone]
    exact ihrest horder hapart fun name hname => htargets name (List.mem_cons_of_mem _ hname)
  | case5 path target rest hhas ih =>
    rw [plainSearch, if_neg hhas]
    exact ih horder hapart fun name hname => htargets name (List.mem_cons_of_mem _ hname)

/-- A target in an order off the path is passed by. -/
theorem plainSearch_cons_of_order {order path : List String} (horder : Order g order)
    (hapart : ∀ name ∈ path, name ∉ order) {target : String} (hmem : target ∈ order)
    (rest : List String) : plainSearch g path (target :: rest) = plainSearch g path rest := by
  have hhas := horder.has target hmem
  have hnew : target ∉ path := fun hback => hapart target hback hmem
  have hone : plainSearch g path [target] = none :=
    plainSearch_of_order horder hapart (by simpa using fun _ => hmem)
  rw [plainSearch, if_pos hhas, if_neg hnew] at hone ⊢
  cases hbelow : plainSearch g (path ++ [target]) ((g.targets target).getD []) with
  | some cycle =>
    rw [hbelow] at hone
    cases hone
  | none => rfl

/-! ### The marked search and the plain one -/

/-- The part of a path that a target on it closes, once the path is read from its start. -/
theorem closeCycle_eq {path : List String} (hnodup : path.Nodup) {target : String}
    (hmem : target ∈ path) :
    closeCycle path target = path.reverse.drop (path.reverse.idxOf target) ++ [target] := by
  obtain ⟨later, earlier, rfl, hlater⟩ := List.eq_append_cons_of_mem hmem
  have hearlier : target ∉ earlier.reverse := by
    have := (List.nodup_append.mp hnodup).2.1
    simpa using (List.nodup_cons.mp this).1
  have htake : (later ++ target :: earlier).takeWhile (· != target) = later := by
    have hother : ∀ x ∈ later, (x != target) = true := by
      intro x hx
      rw [bne_iff_ne]
      rintro rfl
      exact hlater hx
    rw [List.takeWhile_append_of_pos hother]
    simp
  have hreverse : (later ++ target :: earlier).reverse = earlier.reverse ++ target :: later.reverse := by
    simp
  have hindex : (earlier.reverse ++ target :: later.reverse).idxOf target = earlier.reverse.length := by
    rw [List.idxOf_append_of_notMem hearlier, List.idxOf_cons_self, Nat.add_zero]
  rw [closeCycle, htake, hreverse, hindex, List.drop_left]
  simp

/-- The circle that a visit reports. -/
def found? : Except (List String) (List String) → Option (List String)
  | .ok _ => none
  | .error cycle => some cycle

/-- Visiting all targets of a chain meets the circle that the plain search meets, if single visits do. -/
theorem found?_visitAll {fuel : Nat} {path : List String}
    (hvisit : ∀ done name, Ready g fuel path done → g.Has name → name ∉ path → name ∉ done →
      (∀ caller ∈ path.head?, g.Calls caller name) →
        found? (visit g fuel path done name)
          = plainSearch g (path.reverse ++ [name]) ((g.targets name).getD []))
    (targets done : List String) (hready : Ready g fuel path done)
    (hcalls : ∀ name ∈ targets, g.Has name → ∀ caller ∈ path.head?, g.Calls caller name) :
    found? (visitAll g fuel path done targets) = plainSearch g path.reverse targets := by
  induction targets generalizing done with
  | nil =>
    rw [visitAll, plainSearch]
    rfl
  | cons target rest ih =>
    have hrest : ∀ name ∈ rest, g.Has name → ∀ caller ∈ path.head?, g.Calls caller name :=
      fun name hname => hcalls name (List.mem_cons_of_mem _ hname)
    by_cases hhas : g.Has target
    · have htargets : (g.targets target).isNone = false := by
        simpa [Has] using hhas
      by_cases hdone : target ∈ done
      · -- the marked search does not enter what is done, and the plain one comes back from there
        have hapart : ∀ name ∈ path.reverse, name ∉ done :=
          fun name hname => hready.apart name (List.mem_reverse.mp hname)
        rw [visitAll, if_pos (by simp [hdone]), plainSearch_cons_of_order hready.order hapart hdone]
        exact ih done hready hrest
      · have hcall := hcalls target List.mem_cons_self hhas
        rw [visitAll, if_neg (by simp [htargets, hdone]), plainSearch, if_pos hhas]
        by_cases hback : target ∈ path
        · rw [if_pos hback, if_pos (List.mem_reverse.mpr hback), found?,
            closeCycle_eq hready.trail.nodup hback]
        · rw [if_neg hback, if_neg (mt List.mem_reverse.mp hback),
            ← hvisit done target hready hhas hback hdone hcall]
          have hexplored := visit_explored hready hhas hback hdone hcall
          cases hone : visit g fuel path done target with
          | error cycle => rfl
          | ok between =>
            rw [hone] at hexplored
            obtain ⟨horder, -, hpath, -⟩ := hexplored
            exact ih between ⟨hready.trail, horder, hpath, hready.fuel_enough⟩ hrest
    · have htargets : (g.targets target).isNone = true := by
        simpa [Has] using hhas
      rw [visitAll, if_pos (by simp [htargets]), plainSearch, if_neg hhas]
      exact ih done hready hrest

/-- Visiting one chain meets the circle that the plain search meets below it. -/
theorem found?_visit {fuel : Nat} {path done : List String} {name : String}
    (hready : Ready g fuel path done) (hhas : g.Has name) (hnew : name ∉ path)
    (hdone : name ∉ done) (hcall : ∀ caller ∈ path.head?, g.Calls caller name) :
    found? (visit g fuel path done name)
      = plainSearch g (path.reverse ++ [name]) ((g.targets name).getD []) := by
  induction fuel generalizing path done name with
  | zero => exact absurd rfl (hready.fuel_ne_zero hhas hnew hcall)
  | succ fuel ih =>
    have hall := found?_visitAll (fun done next hr hh hp hd hc => ih hr hh hp hd hc)
      ((g.targets name).getD []) done (hready.enter hhas hnew hdone hcall) (by
        intro next hnext hhas' caller hcaller
        obtain rfl : name = caller := by simpa using hcaller
        exact ⟨hnext, hhas'⟩)
    rw [List.reverse_cons] at hall
    rw [visit, ← hall]
    cases visitAll g fuel (name :: path) done ((g.targets name).getD []) <;> rfl

/-- The search for circles finds what the plain search finds. -/
theorem findCycle?_eq_plainSearch (g : CallGraph) :
    findCycle? g = plainSearch g [] (g.map (·.1)) := by
  have hall : found? (visitAll g g.length [] [] (g.map (·.1))) = plainSearch g [] (g.map (·.1)) :=
    found?_visitAll (fun _ _ hr hh hp hd hc => found?_visit hr hh hp hd hc) _ _
      ⟨.nil, trivial, by simp, by simp⟩ (by simp)
  rw [findCycle?, ← hall]
  cases visitAll g g.length [] [] (g.map (·.1)) <;> rfl

/-- Where every step names an endpoint, none is reported. -/
theorem unknownCall_eq_none {endpoints : List Endpoint} (hknown : AllKnown endpoints) :
    unknownCall (endpoints.map (·.name)) (chains endpoints) = none := by
  have hreports := unknownCall_reports (endpoints.map (·.name)) endpoints
  match hfound : unknownCall (endpoints.map (·.name)) (chains endpoints) with
  | none => exact hfound
  | some (.circular _) =>
    rw [hfound] at hreports
    exact hreports.elim
  | some (.unknownEndpoint chain target k) =>
    rw [hfound] at hreports
    exact absurd hknown hreports.not_allKnown

/-- **The marked search and the plain one.** Where every step names an endpoint, the check of calls
gives what it would give with the plain search, down to the names on the circle. -/
theorem checkCalls_eq_plain {endpoints : List Endpoint} (hknown : AllKnown endpoints) :
    checkCalls endpoints = plainVerdict endpoints := by
  have hcalls := unknownCall_eq_none hknown
  have hsearch := findCycle?_eq_plainSearch (callGraph endpoints)
  cases hfound : findCycle? (callGraph endpoints) with
  | none => simp [checkCalls, plainVerdict, hcalls, ← hsearch, hfound]
  | some cycle => simp [checkCalls, plainVerdict, hcalls, ← hsearch, hfound]

theorem crossing_plain :
    AllKnown crossing ∧ checkCalls crossing = plainVerdict crossing ∧
      plainVerdict crossing = .error (.circular ["first", "second", "first"]) := by
  have hknown : AllKnown crossing := by
    simp [AllKnown, crossing]
  exact ⟨hknown, checkCalls_eq_plain hknown, (checkCalls_eq_plain hknown).symm.trans checkCalls_crossing⟩

end Switchboard.Config
