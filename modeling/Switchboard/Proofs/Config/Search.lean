import Switchboard.Proofs.Config.CallGraph
import Mathlib.Data.List.Chain
import Mathlib.Data.List.Nodup
import Mathlib.Data.List.Perm.Subperm

/-!
The search for chains that call each other in a circle finds one exactly when there is one.

* `findCycle?_isCircle` — what the search reports is a circle of calls;
* `findCycle?_eq_none_iff` — it reports nothing exactly when no chain can come back to itself;
* `exists_order` — when it reports nothing, the chains stand in an order in which each calls only later
  ones.

Design notes: `Order` is the invariant of the names that are done. They are put in front one by one,
each after all that it calls, so that a list of them is an order from callers to called, and what is
done can neither lie on a circle nor lead to one. `Trail` is the invariant of the names under way: each
was called by the next one in the list, so that a call back to one of them closes a circle. A visit
takes one unit of fuel and puts one name on the path, so the fuel and the length of the path together
never fall below the number of chains, and no visit runs out.
-/
namespace Switchboard.Config

open CallGraph

variable {g : CallGraph}

/-! ### Circles and orders -/

/-- A circle of calls: it starts and ends with the same name, no other name is on it twice, and each
calls the next. -/
def IsCircle (g : CallGraph) (cycle : List String) : Prop :=
  ∃ name others, cycle = name :: others ++ [name] ∧ (name :: others).Nodup ∧ cycle.IsChain g.Calls

/-- Chains in an order in which each calls only later ones. -/
def Order (g : CallGraph) : List String → Prop
  | [] => True
  | name :: rest => (g.Has name ∧ name ∉ rest ∧ ∀ b, g.Calls name b → b ∈ rest) ∧ Order g rest

/-- A path of calls, latest first: no name is on it twice, and each was called by the next. -/
structure Trail (g : CallGraph) (path : List String) : Prop where
  has : ∀ name ∈ path, g.Has name
  nodup : path.Nodup
  calls : path.IsChain fun later earlier => g.Calls earlier later

theorem IsCircle.isCircular {cycle : List String} (h : IsCircle g cycle) : g.IsCircular := by
  obtain ⟨name, others, rfl, -, hcalls⟩ := h
  refine ⟨name, ?_⟩
  -- a path of calls that is not empty leads from its first name to its last
  have hlead : ∀ (rest : List String) (first last : String),
      (first :: rest ++ [last]).IsChain g.Calls → Relation.TransGen g.Calls first last := by
    intro rest
    induction rest with
    | nil =>
      intro first last h
      exact .single (List.isChain_cons_cons.mp h).1
    | cons next rest ih =>
      intro first last h
      obtain ⟨hstep, htail⟩ := List.isChain_cons_cons.mp h
      exact .head hstep (ih next last htail)
  exact hlead others name name hcalls

/-- How far a name is from the end of an order; names outside it are at zero. -/
def height : (order : List String) → String → Nat
  | [], _ => 0
  | first :: rest, name => if name = first then rest.length + 1 else height rest name

theorem height_le (order : List String) (name : String) : height order name ≤ order.length := by
  induction order with
  | nil => simp [height]
  | cons first rest ih =>
    rw [height, List.length_cons]
    split <;> omega

theorem height_pos {order : List String} {name : String} (h : name ∈ order) :
    0 < height order name := by
  induction order with
  | nil => simp at h
  | cons first rest ih =>
    rw [height]
    split
    · omega
    · next hne => exact ih ((List.mem_cons.mp h).resolve_left hne)

theorem height_eq_zero {order : List String} {name : String} (h : name ∉ order) :
    height order name = 0 := by
  induction order with
  | nil => rfl
  | cons first rest ih =>
    simp only [List.mem_cons, not_or] at h
    rw [height, if_neg h.1, ih h.2]

theorem Order.closed {order : List String} (h : Order g order) {a b : String} (ha : a ∈ order)
    (hab : g.Calls a b) : b ∈ order := by
  induction order with
  | nil => simp at ha
  | cons first rest ih =>
    obtain ⟨⟨-, -, hcalls⟩, hrest⟩ := h
    rcases List.mem_cons.mp ha with rfl | ha
    · exact List.mem_cons_of_mem _ (hcalls b hab)
    · exact List.mem_cons_of_mem _ (ih hrest ha)

/-- Whatever a chain calls is nearer to the end. -/
theorem Order.height_lt {order : List String} (h : Order g order) {a b : String} (ha : a ∈ order)
    (hab : g.Calls a b) : height order b < height order a := by
  induction order with
  | nil => simp at ha
  | cons first rest ih =>
    obtain ⟨⟨-, hfirst, hcalls⟩, hrest⟩ := h
    have hb : b ∈ rest := by
      rcases List.mem_cons.mp ha with rfl | ha
      · exact hcalls b hab
      · exact hrest.closed ha hab
    have hne : b ≠ first := fun heq => hfirst (heq ▸ hb)
    rw [height, height, if_neg hne]
    split
    · have := height_le rest b
      omega
    · next hafirst => exact ih hrest ((List.mem_cons.mp ha).resolve_left hafirst)

theorem Order.nodup {order : List String} (h : Order g order) : order.Nodup := by
  induction order with
  | nil => exact List.nodup_nil
  | cons first rest ih => exact List.nodup_cons.mpr ⟨h.1.2.1, ih h.2⟩

theorem Order.has {order : List String} (h : Order g order) : ∀ name ∈ order, g.Has name := by
  induction order with
  | nil => simp
  | cons first rest ih => exact List.forall_mem_cons.mpr ⟨h.1.1, ih h.2⟩

/-- Where the chains stand in an order none of them can come back to itself. -/
theorem Order.not_isCircular {order : List String} (h : Order g order)
    (hall : ∀ name, g.Has name → name ∈ order) : ¬ g.IsCircular := by
  rintro ⟨name, hname⟩
  have hdown : ∀ b, Relation.TransGen g.Calls name b → height order b < height order name := by
    intro b hb
    induction hb with
    | single hab => exact h.height_lt (hall _ hab.has_left) hab
    | tail _ hbc ih => exact (h.height_lt (hall _ hbc.has_left) hbc).trans ih
  exact Nat.lt_irrefl _ (hdown name hname)

/-- No more names than there are chains. -/
private theorem length_le_of_has {names : List String} (hnodup : names.Nodup)
    (h : ∀ name ∈ names, g.Has name) : names.length ≤ g.length := by
  have hsub : names ⊆ g.map (·.1) := fun name hname => has_iff_mem.mp (h name hname)
  simpa using (hnodup.subperm hsub).length_le

theorem Order.length_le {order : List String} (h : Order g order) : order.length ≤ g.length :=
  length_le_of_has h.nodup h.has

/-! ### The path under way -/

theorem Trail.nil : Trail g [] := ⟨by simp, List.nodup_nil, .nil⟩

/-- A path is extended by a chain that is not on it and is called by the latest one. -/
theorem Trail.cons {path : List String} (h : Trail g path) {name : String} (hname : g.Has name)
    (hnew : name ∉ path) (hcall : ∀ caller ∈ path.head?, g.Calls caller name) :
    Trail g (name :: path) :=
  ⟨List.forall_mem_cons.mpr ⟨hname, h.has⟩, List.nodup_cons.mpr ⟨hnew, h.nodup⟩,
    h.calls.cons hcall⟩

/-- A call back to a name on the path closes a circle. -/
theorem Trail.isCircle_closeCycle {path : List String} (h : Trail g path) {target : String}
    (hmem : target ∈ path) (hcall : ∀ caller ∈ path.head?, g.Calls caller target) :
    IsCircle g (closeCycle path target) := by
  -- `later` holds the names that were called after `target`, latest first
  obtain ⟨later, earlier, hlater, hsplit⟩ : ∃ later earlier, target ∉ later ∧
      path = later ++ target :: earlier := by
    obtain ⟨later, earlier, hsplit, hlater⟩ := List.eq_append_cons_of_mem hmem
    exact ⟨later, earlier, hlater, hsplit⟩
  have htake : path.takeWhile (· != target) = later := by
    have hother : ∀ x ∈ later, (x != target) = true := by
      intro x hx
      rw [bne_iff_ne]
      rintro rfl
      exact hlater hx
    rw [hsplit, List.takeWhile_append_of_pos hother]
    simp
  have hpart : Trail g (later ++ [target]) := by
    have hinit : later ++ [target] <+: path := ⟨earlier, by simp [hsplit]⟩
    exact ⟨fun name hname => h.has name (hinit.subset hname), h.nodup.sublist hinit.sublist,
      h.calls.prefix hinit⟩
  have hclose : closeCycle path target = target :: later.reverse ++ [target] := by
    simp [closeCycle, htake]
  refine ⟨target, later.reverse, hclose, ?_, ?_⟩
  · have := List.nodup_reverse.mpr hpart.nodup
    simpa using this
  · -- read backwards, the circle is the path from `target` on with `target` called once more
    have hback : (target :: (later ++ [target])).IsChain fun l e => g.Calls e l := by
      refine hpart.calls.cons fun caller hcaller => hcall caller ?_
      cases later with
      | nil => simpa [hsplit] using hcaller
      | cons first rest => simpa [hsplit] using hcaller
    have := List.isChain_reverse.mpr hback
    rw [hclose]
    simpa using this

/-! ### The search -/

/-- What a visit of the names `wanted` has to come to, from the path under way and the names done
before: either an order that holds all of them, or a circle. -/
def Explored (g : CallGraph) (path done wanted : List String) :
    Except (List String) (List String) → Prop
  | .ok order =>
    Order g order ∧ done ⊆ order ∧ (∀ name ∈ path, name ∉ order) ∧
      ∀ name ∈ wanted, g.Has name → name ∈ order
  | .error cycle => IsCircle g cycle

/-- A visit that starts with more done and leaves less to be wanted does what was asked for. -/
theorem Explored.of_after {path before between wanted rest : List String}
    {result : Except (List String) (List String)} (h : Explored g path between rest result)
    (hsub : before ⊆ between)
    (hwanted : ∀ name ∈ wanted, g.Has name → name ∈ between ∨ name ∈ rest) :
    Explored g path before wanted result := by
  cases result with
  | error cycle => exact h
  | ok order =>
    obtain ⟨horder, hbetween, hpath, hrest⟩ := h
    refine ⟨horder, fun _ hname => hbetween (hsub hname), hpath, fun name hname hhas => ?_⟩
    rcases hwanted name hname hhas with hin | hin
    · exact hbetween hin
    · exact hrest name hin hhas

/-- What may be visited: the path is one of calls, what is done is an order, they have nothing in
common, and there is fuel for every chain that is not on the path. -/
structure Ready (g : CallGraph) (fuel : Nat) (path done : List String) : Prop where
  trail : Trail g path
  order : Order g done
  apart : ∀ name ∈ path, name ∉ done
  fuel_enough : g.length ≤ path.length + fuel

/-- A chain that is not on the path may be entered: there is fuel for it. -/
theorem Ready.fuel_ne_zero {fuel : Nat} {path done : List String} {name : String}
    (h : Ready g fuel path done) (hhas : g.Has name) (hnew : name ∉ path)
    (hcall : ∀ caller ∈ path.head?, g.Calls caller name) : fuel ≠ 0 := by
  have htrail := h.trail.cons hhas hnew hcall
  have hlength := length_le_of_has htrail.nodup htrail.has
  have hfuel := h.fuel_enough
  rw [List.length_cons] at hlength
  omega

/-- A chain that is neither on the path nor done is put on the path. -/
theorem Ready.enter {fuel : Nat} {path done : List String} {name : String}
    (h : Ready g (fuel + 1) path done) (hhas : g.Has name) (hnew : name ∉ path)
    (hdone : name ∉ done) (hcall : ∀ caller ∈ path.head?, g.Calls caller name) :
    Ready g fuel (name :: path) done := by
  refine ⟨h.trail.cons hhas hnew hcall, h.order, List.forall_mem_cons.mpr ⟨hdone, h.apart⟩, ?_⟩
  have := h.fuel_enough
  rw [List.length_cons]
  omega

/-- Visiting all targets of a chain, if single visits do what they should. -/
theorem visitAll_explored {fuel : Nat} {path : List String}
    (hvisit : ∀ done name, Ready g fuel path done → g.Has name → name ∉ path → name ∉ done →
      (∀ caller ∈ path.head?, g.Calls caller name) →
        Explored g path done [name] (visit g fuel path done name))
    (targets done : List String) (hready : Ready g fuel path done)
    (hcalls : ∀ name ∈ targets, g.Has name → ∀ caller ∈ path.head?, g.Calls caller name) :
    Explored g path done targets (visitAll g fuel path done targets) := by
  induction targets generalizing done with
  | nil =>
    rw [visitAll]
    exact ⟨hready.order, fun _ h => h, hready.apart, by simp⟩
  | cons target rest ih =>
    have hrest : ∀ name ∈ rest, g.Has name → ∀ caller ∈ path.head?, g.Calls caller name :=
      fun name hname => hcalls name (List.mem_cons_of_mem _ hname)
    rw [visitAll]
    split
    · next hskip =>
      -- nothing to visit: the target is no chain, or it is done
      have hdone : g.Has target → target ∈ done := by
        intro hhas
        rw [Has] at hhas
        simpa [Option.isNone_iff_eq_none, Option.isSome_iff_ne_none.mp hhas] using hskip
      refine (ih done hready hrest).of_after (fun _ h => h) fun name hname hhas => ?_
      rcases List.mem_cons.mp hname with rfl | hname
      · exact .inl (hdone hhas)
      · exact .inr hname
    · next hskip =>
      simp only [Bool.or_eq_true, Option.isNone_iff_eq_none, decide_eq_true_eq, not_or] at hskip
      have hhas : g.Has target := Option.isSome_iff_ne_none.mpr hskip.1
      have hcall := hcalls target List.mem_cons_self hhas
      split
      · next hback => exact hready.trail.isCircle_closeCycle hback hcall
      · next hnew =>
        have hone := hvisit done target hready hhas hnew hskip.2 hcall
        cases hfirst : visit g fuel path done target with
        | error cycle =>
          rw [hfirst] at hone
          exact hone
        | ok between =>
          rw [hfirst] at hone
          obtain ⟨horder, hsub, hpath, hin⟩ := hone
          have hready' : Ready g fuel path between :=
            ⟨hready.trail, horder, hpath, hready.fuel_enough⟩
          refine (ih between hready' hrest).of_after hsub fun name hname hhas => ?_
          rcases List.mem_cons.mp hname with rfl | hname
          · exact .inl (hin name List.mem_cons_self hhas)
          · exact .inr hname

/-- Visiting one chain. The induction is on the fuel, which never runs out. -/
theorem visit_explored {fuel : Nat} {path done : List String} {name : String}
    (hready : Ready g fuel path done) (hhas : g.Has name) (hnew : name ∉ path)
    (hdone : name ∉ done) (hcall : ∀ caller ∈ path.head?, g.Calls caller name) :
    Explored g path done [name] (visit g fuel path done name) := by
  induction fuel generalizing path done name with
  | zero => exact absurd rfl (hready.fuel_ne_zero hhas hnew hcall)
  | succ fuel ih =>
    have hexplored := visitAll_explored
      (fun done next hr hh hp hd hc => ih hr hh hp hd hc)
      ((g.targets name).getD []) done (hready.enter hhas hnew hdone hcall) (by
        intro next hnext hhas' caller hcaller
        obtain rfl : name = caller := by simpa using hcaller
        exact ⟨hnext, hhas'⟩)
    rw [visit]
    cases hresult : visitAll g fuel (name :: path) done ((g.targets name).getD []) with
    | error cycle =>
      rw [hresult] at hexplored
      exact hexplored
    | ok order =>
      rw [hresult] at hexplored
      obtain ⟨horder, hsub, hpath, hall⟩ := hexplored
      have hpath := List.forall_mem_cons.mp hpath
      refine ⟨⟨⟨hhas, hpath.1, fun next hnext => hall next hnext.1 hnext.2⟩, horder⟩,
        fun other hother => List.mem_cons_of_mem _ (hsub hother), ?_, by simp⟩
      intro other hother
      exact List.not_mem_cons_of_ne_of_not_mem (fun heq => hnew (heq ▸ hother)) (hpath.2 other hother)

/-- The whole search. -/
theorem search_explored (g : CallGraph) :
    Explored g [] [] (g.map (·.1)) (visitAll g g.length [] [] (g.map (·.1))) :=
  visitAll_explored (fun _ _ hr hh hp hd hc => visit_explored hr hh hp hd hc) _ _
    ⟨.nil, trivial, by simp, by simp⟩ (by simp)

/-- What the search reports is a circle of calls. -/
theorem findCycle?_isCircle {cycle : List String} (h : findCycle? g = some cycle) :
    IsCircle g cycle := by
  have hexplored := search_explored g
  rw [findCycle?] at h
  cases hresult : visitAll g g.length [] [] (g.map (·.1)) with
  | ok order => simp [hresult] at h
  | error found =>
    rw [hresult] at h hexplored
    obtain rfl : found = cycle := by simpa using h
    exact hexplored

/-- When the search reports nothing, the chains stand in an order in which each calls only later
ones. -/
theorem exists_order (h : findCycle? g = none) :
    ∃ order, Order g order ∧ ∀ name, g.Has name → name ∈ order := by
  have hexplored := search_explored g
  rw [findCycle?] at h
  cases hresult : visitAll g g.length [] [] (g.map (·.1)) with
  | error found => simp [hresult] at h
  | ok order =>
    rw [hresult] at hexplored
    obtain ⟨horder, -, -, hall⟩ := hexplored
    exact ⟨order, horder, fun name hname => hall name (has_iff_mem.mp hname) hname⟩

/-- The search reports nothing exactly when no chain can come back to itself. -/
theorem findCycle?_eq_none_iff : findCycle? g = none ↔ ¬ g.IsCircular := by
  constructor
  · intro h
    obtain ⟨order, horder, hall⟩ := exists_order h
    exact horder.not_isCircular hall
  · intro h
    cases hfound : findCycle? g with
    | none => rfl
    | some cycle => exact absurd (findCycle?_isCircle hfound).isCircular h

end Switchboard.Config
