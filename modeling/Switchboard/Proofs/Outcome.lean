import Mathlib.Data.List.Basic
import Mathlib.Data.List.Forall2

/-!
Computations that can fail: when they go well, step by step and over lists.

* `bind_eq_ok`, `bind_eq_error`, `map_eq_ok`, `map_eq_error` — a step after another, and an outcome put
  into another form;
* `mapError_eq_ok`, `mapError_eq_error` — a failure renamed;
* `exists_of_mem_left`, `exists_of_mem_right` — lists that correspond item by item;
* `mapM_congr`, `mapM_eq_ok`, `mapM_eq_error`, `mapM_append_cons_eq_ok`, `exists_mapM`, `mem_of_mapM`,
  `exists_of_mapM_error` — a computation for each item of a list;
* `forM_eq_ok`, `forM_eq_error` — a check of each item of a list, in order, which the first failure ends;
* `Fails`, `not_fails`, `fails_both`, `fails_bind`, `fails_mapM` — that there is a failure, whichever it is.
-/
namespace Switchboard

variable {ε α β : Type}

/-- What follows a step that can fail is reached only when the step does not fail. -/
theorem bind_eq_ok {x : Except ε α} {f : α → Except ε β} {b : β} :
    x >>= f = .ok b ↔ ∃ a, x = .ok a ∧ f a = .ok b := by
  cases x with
  | error e => simp [bind, Except.bind]
  | ok a => simp [bind, Except.bind]

/-- A step after another fails when one of the two does. -/
theorem bind_eq_error {x : Except ε α} {f : α → Except ε β} {e : ε} :
    x >>= f = .error e ↔ x = .error e ∨ ∃ a, x = .ok a ∧ f a = .error e := by
  cases x with
  | error e' => simp [bind, Except.bind]
  | ok a => simp [bind, Except.bind]

/-- What comes out in another form came out before. -/
theorem map_eq_ok {x : Except ε α} {f : α → β} {b : β} :
    x.map f = .ok b ↔ ∃ a, x = .ok a ∧ f a = b := by
  cases x <;> simp [Except.map]

/-- Another form of what comes out does not keep anything from failing. -/
theorem map_eq_error {x : Except ε α} {f : α → β} {e : ε} : x.map f = .error e ↔ x = .error e := by
  cases x <;> simp [Except.map]

/-- Another name for a failure changes nothing when there is none. -/
theorem mapError_eq_ok {ε' : Type} {x : Except ε α} {f : ε → ε'} {a : α} :
    x.mapError f = .ok a ↔ x = .ok a := by
  cases x <;> simp [Except.mapError]

theorem mapError_eq_error {ε' : Type} {x : Except ε α} {f : ε → ε'} {e : ε'} :
    x.mapError f = .error e ↔ ∃ e', x = .error e' ∧ f e' = e := by
  cases x <;> simp [Except.mapError]

/-- In lists that correspond, each item of the first has one of the second. -/
theorem exists_of_mem_left {R : α → β → Prop} {as : List α} {bs : List β} (h : List.Forall₂ R as bs) {a : α}
    (ha : a ∈ as) : ∃ b ∈ bs, R a b := by
  induction h with
  | nil => simp at ha
  | cons hfirst hrest ih =>
    rcases List.mem_cons.mp ha with rfl | ha
    · exact ⟨_, List.mem_cons_self, hfirst⟩
    · obtain ⟨b, hb, hR⟩ := ih ha
      exact ⟨b, List.mem_cons_of_mem _ hb, hR⟩

/-- In lists that correspond, each item of the second has one of the first. -/
theorem exists_of_mem_right {R : α → β → Prop} {as : List α} {bs : List β} (h : List.Forall₂ R as bs) {b : β}
    (hb : b ∈ bs) : ∃ a ∈ as, R a b :=
  exists_of_mem_left (R := flip R) h.flip hb

/-- A map that can fail goes well when it does so item by item. -/
theorem mapM_eq_ok {f : α → Except ε β} {as : List α} {bs : List β} :
    as.mapM f = .ok bs ↔ List.Forall₂ (fun a b => f a = .ok b) as bs := by
  induction as generalizing bs with
  | nil => simp [pure, Except.pure, eq_comm]
  | cons a rest ih =>
    rw [List.mapM_cons, bind_eq_ok]
    constructor
    · rintro ⟨b, hb, hrest⟩
      obtain ⟨others, hothers, hcons⟩ := bind_eq_ok.mp hrest
      obtain rfl := Except.ok.inj hcons
      exact .cons hb (ih.mp hothers)
    · rintro (_ | ⟨hb, hothers⟩)
      exact ⟨_, hb, bind_eq_ok.mpr ⟨_, ih.mpr hothers, rfl⟩⟩

/-- Maps that do the same to each of their inputs. -/
theorem mapM_congr {f g : α → Except ε β} {as : List α} (h : ∀ a ∈ as, f a = g a) : as.mapM f = as.mapM g := by
  induction as with
  | nil => rfl
  | cons a rest ih =>
    obtain ⟨ha, hrest⟩ := List.forall_mem_cons.mp h
    rw [List.mapM_cons, List.mapM_cons, ha, ih hrest]

/-- A map that can fail goes well if it does so on each of its inputs. -/
theorem exists_mapM {f : α → Except ε β} {as : List α} (h : ∀ a ∈ as, ∃ b, f a = .ok b) :
    ∃ bs, as.mapM f = .ok bs := by
  induction as with
  | nil => exact ⟨[], rfl⟩
  | cons a rest ih =>
    obtain ⟨⟨b, hb⟩, hrest⟩ := List.forall_mem_cons.mp h
    obtain ⟨bs, hbs⟩ := ih hrest
    exact ⟨b :: bs, by rw [List.mapM_cons, hb, hbs]; rfl⟩

/-- What comes out of a map that can fail comes from one of its inputs. -/
theorem mem_of_mapM {f : α → Except ε β} {as : List α} {bs : List β} (h : as.mapM f = .ok bs)
    {b : β} (hb : b ∈ bs) : ∃ a ∈ as, f a = .ok b :=
  exists_of_mem_right (mapM_eq_ok.mp h) hb

/-- A map that can fail goes well over a list with an item in its midst when it does so in front of the item, on
it and behind it. -/
theorem mapM_append_cons_eq_ok {f : α → Except ε β} {before after : List α} {a : α} {bs : List β} :
    (before ++ a :: after).mapM f = .ok bs ↔
      ∃ bs₁ b bs₂, bs = bs₁ ++ b :: bs₂ ∧ before.mapM f = .ok bs₁ ∧ f a = .ok b ∧ after.mapM f = .ok bs₂ := by
  rw [List.mapM_append, List.mapM_cons]
  constructor
  · intro h
    obtain ⟨bs₁, hbefore, h⟩ := bind_eq_ok.mp h
    obtain ⟨others, hothers, h⟩ := bind_eq_ok.mp h
    obtain ⟨b, ha, hothers⟩ := bind_eq_ok.mp hothers
    obtain ⟨bs₂, hafter, hothers⟩ := bind_eq_ok.mp hothers
    obtain rfl : b :: bs₂ = others := Except.ok.inj hothers
    exact ⟨bs₁, b, bs₂, (Except.ok.inj h).symm, hbefore, ha, hafter⟩
  · rintro ⟨bs₁, b, bs₂, rfl, hbefore, ha, hafter⟩
    rw [hbefore, ha, hafter]
    rfl

/-- Each input of a map that can fail has what comes out of it among the results. -/
theorem exists_mem_of_mapM {f : α → Except ε β} {as : List α} {bs : List β} (h : as.mapM f = .ok bs)
    {a : α} (ha : a ∈ as) : ∃ b ∈ bs, f a = .ok b :=
  exists_of_mem_left (mapM_eq_ok.mp h) ha

/-- A map that can fail fails with the failure of the first input on which it fails. -/
theorem mapM_eq_error {f : α → Except ε β} {as : List α} {e : ε} :
    as.mapM f = .error e ↔
      ∃ before a rest bs, as = before ++ a :: rest ∧ before.mapM f = .ok bs ∧ f a = .error e := by
  induction as with
  | nil => simp [pure, Except.pure]
  | cons first others ih =>
    have hpure : ∀ {b bs}, (pure (b :: bs) : Except ε (List β)) ≠ .error e := by
      intro b bs
      simp [pure, Except.pure]
    rw [List.mapM_cons, bind_eq_error]
    constructor
    · rintro (hfirst | ⟨b, hb, hrest⟩)
      · exact ⟨[], first, others, [], rfl, rfl, hfirst⟩
      · obtain ⟨before, a, rest, bs, rfl, hbefore, ha⟩ :=
          ih.mp ((bind_eq_error.mp hrest).resolve_right fun ⟨_, _, h⟩ => hpure h)
        refine ⟨first :: before, a, rest, b :: bs, rfl, ?_, ha⟩
        rw [List.mapM_cons, hb, hbefore]
        rfl
    · rintro ⟨before, a, rest, bs, hsplit, hbefore, ha⟩
      cases before with
      | nil =>
        obtain ⟨rfl, -⟩ := List.cons.inj hsplit
        exact .inl ha
      | cons b before =>
        obtain ⟨rfl, rfl⟩ := List.cons.inj hsplit
        rw [List.mapM_cons] at hbefore
        obtain ⟨c, hc, hbefore⟩ := bind_eq_ok.mp hbefore
        obtain ⟨cs, hcs, -⟩ := bind_eq_ok.mp hbefore
        exact .inr ⟨c, hc, bind_eq_error.mpr (.inl (ih.mpr ⟨before, a, rest, cs, rfl, hcs, ha⟩))⟩

/-- A map that can fail fails with the failure of one of its inputs. -/
theorem exists_of_mapM_error {f : α → Except ε β} {as : List α} {e : ε}
    (h : as.mapM f = .error e) : ∃ a ∈ as, f a = .error e := by
  obtain ⟨before, a, rest, -, rfl, -, ha⟩ := mapM_eq_error.mp h
  exact ⟨a, by simp, ha⟩

/-- A check of all items goes well exactly when it does so on each of them. -/
theorem forM_eq_ok {f : α → Except ε Unit} {as : List α} :
    forM as f = .ok () ↔ ∀ a ∈ as, f a = .ok () := by
  induction as with
  | nil => simp [pure, Except.pure]
  | cons a rest ih =>
    rw [List.forM_cons, bind_eq_ok, List.forall_mem_cons, ih]
    exact ⟨fun ⟨⟨⟩, ha, hrest⟩ => ⟨ha, hrest⟩, fun ⟨ha, hrest⟩ => ⟨(), ha, hrest⟩⟩

/-- A check of all items fails with the failure of the first item that fails. -/
theorem forM_eq_error {f : α → Except ε Unit} {as : List α} {e : ε} :
    forM as f = .error e ↔
      ∃ before a rest, as = before ++ a :: rest ∧ (∀ b ∈ before, f b = .ok ()) ∧ f a = .error e := by
  induction as with
  | nil => simp [pure, Except.pure]
  | cons first others ih =>
    rw [List.forM_cons, bind_eq_error, ih]
    constructor
    · rintro (hfirst | ⟨⟨⟩, hfirst, before, a, rest, rfl, hbefore, ha⟩)
      · exact ⟨[], first, others, rfl, by simp, hfirst⟩
      · exact ⟨first :: before, a, rest, rfl, List.forall_mem_cons.mpr ⟨hfirst, hbefore⟩, ha⟩
    · rintro ⟨before, a, rest, hsplit, hbefore, ha⟩
      cases before with
      | nil =>
        obtain ⟨rfl, -⟩ := List.cons.inj hsplit
        exact .inl ha
      | cons b before =>
        obtain ⟨rfl, rfl⟩ := List.cons.inj hsplit
        obtain ⟨hfirst, hbefore⟩ := List.forall_mem_cons.mp hbefore
        exact .inr ⟨(), hfirst, before, a, rest, rfl, hbefore, ha⟩

/-! ### Failing at all -/

/-- A computation that fails. -/
def Fails (x : Except ε α) : Prop := ∃ e, x = .error e

theorem fails_ok {a : α} : ¬ Fails (.ok a : Except ε α) := by
  rintro ⟨e, ⟨⟩⟩

theorem fails_error {e : ε} : Fails (.error e : Except ε α) := ⟨e, rfl⟩

theorem fails_map {x : Except ε α} {f : α → β} : Fails (x.map f) ↔ Fails x :=
  exists_congr fun _ => map_eq_error

/-- A computation that does not fail has a result. -/
theorem not_fails {x : Except ε α} : ¬ Fails x ↔ ∃ a, x = .ok a := by
  cases x with
  | error e => exact iff_of_false (not_not.mpr fails_error) nofun
  | ok a => exact iff_of_true fails_ok ⟨a, rfl⟩

/-- What is made of an outcome afterwards does not fail. -/
theorem fails_bind_pure {x : Except ε α} {f : α → β} : Fails (x >>= fun a => pure (f a)) ↔ Fails x := by
  cases x with
  | error e => exact iff_of_true ⟨e, rfl⟩ fails_error
  | ok a => exact iff_of_false fails_ok fails_ok

/-- Of two computations one after the other, neither of which depends on the other, one fails. -/
theorem fails_both {γ : Type} {x : Except ε α} {y : Except ε β} {f : α → β → γ} :
    Fails (x >>= fun a => y >>= fun b => pure (f a b)) ↔ Fails x ∨ Fails y := by
  cases x with
  | error e => exact iff_of_true ⟨e, rfl⟩ (.inl fails_error)
  | ok a =>
    have hright : Fails (Except.ok a >>= fun a => y >>= fun b => pure (f a b)) ↔ Fails y :=
      fails_bind_pure
    rw [hright]
    exact ⟨.inr, fun h => h.resolve_left fails_ok⟩

/-- Of two computations one after the other, of which the second fails under a condition that does not depend
on the first, one fails. -/
theorem fails_bind {x : Except ε α} {f : α → Except ε β} {P : Prop} (h : ∀ a, Fails (f a) ↔ P) :
    Fails (x >>= f) ↔ Fails x ∨ P := by
  cases x with
  | error e => exact iff_of_true ⟨e, rfl⟩ (.inl fails_error)
  | ok a => exact (h a).trans ⟨.inr, fun h => h.resolve_left fails_ok⟩

end Switchboard
