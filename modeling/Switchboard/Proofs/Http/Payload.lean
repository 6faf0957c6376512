import Switchboard.Http.Request
import Switchboard.Proofs.Members
import Switchboard.Proofs.Outcome
import Switchboard.Proofs.Template.Apart

/-!
Payloads are trees of their own: what is read from a request holds no collection of a chain run.

* `Json.readValue_isPlain`, `Json.readItems_isPlain`, `Json.readMembers_isPlain` — what the reader of
  JSON builds is plain, by recursion on its fuel;
* `Http.payload_isPlain` — so is the payload of a request.
-/
namespace Switchboard

/-! ### What is read -/

namespace Json

theorem readLiteral?_isPlain {cs rest : List Char} {v : Value}
    (h : readLiteral? cs = some (v, rest)) : v.IsPlain := by
  obtain ⟨⟨word, w⟩, hmem, hfound⟩ := List.exists_of_findSome?_eq_some h
  obtain ⟨r, -, hw⟩ := Option.map_eq_some_iff.mp hfound
  obtain ⟨rfl, -⟩ := Prod.mk.inj hw
  simp only [literals, List.mem_cons, Prod.mk.injEq, List.not_mem_nil, or_false] at hmem
  obtain ⟨-, rfl⟩ | ⟨-, rfl⟩ | ⟨-, rfl⟩ | ⟨-, rfl⟩ | ⟨-, rfl⟩ | ⟨-, rfl⟩ := hmem <;> exact fun _ => rfl

theorem Numeral.value_isPlain {n : Numeral} {v : Value} (h : n.value = .ok v) : v.IsPlain := by
  rw [Numeral.value] at h
  split at h
  · split at h
    · simp at h
    · obtain rfl := Except.ok.inj h
      exact fun _ => rfl
  · obtain rfl := Except.ok.inj h
    exact fun _ => rfl

theorem readScalar_isPlain {cs rest : List Char} {v : Value} (h : readScalar cs = .ok (v, rest)) :
    v.IsPlain := by
  rw [readScalar] at h
  split at h
  · next found hfound =>
    obtain rfl := Except.ok.inj h
    exact readLiteral?_isPlain hfound
  · split at h
    · obtain ⟨w, hw, hpair⟩ := map_eq_ok.mp h
      obtain ⟨rfl, -⟩ := Prod.mk.inj hpair
      exact Numeral.value_isPlain hw
    · simp at h

mutual

/-- What is read as a value is plain. -/
theorem readValue_isPlain : {fuel : Nat} → {cs rest : List Char} → {v : Value} →
    readValue fuel cs = .ok (v, rest) → v.IsPlain
  | 0, cs, rest, v, h => by simp [readValue] at h
  | fuel + 1, cs, rest, v, h => by
    rw [readValue.eq_def] at h
    dsimp only at h
    split at h
    · obtain ⟨⟨s, r⟩, -, hpair⟩ := map_eq_ok.mp h
      obtain ⟨rfl, -⟩ := Prod.mk.inj hpair
      exact fun _ => rfl
    · split at h
      · obtain ⟨rfl, -⟩ := Prod.mk.inj (Except.ok.inj h)
        exact Value.isPlain_list.mpr (by simp)
      · obtain ⟨⟨items, r⟩, hitems, hpair⟩ := map_eq_ok.mp h
        obtain ⟨rfl, -⟩ := Prod.mk.inj hpair
        exact Value.isPlain_list.mpr (readItems_isPlain hitems)
    · split at h
      · obtain ⟨rfl, -⟩ := Prod.mk.inj (Except.ok.inj h)
        exact Value.isPlain_object.mpr (by simp)
      · obtain ⟨⟨members, r⟩, hmembers, hpair⟩ := map_eq_ok.mp h
        obtain ⟨rfl, -⟩ := Prod.mk.inj hpair
        exact Value.isPlain_object.mpr (Members.forall_mem_ofList (readMembers_isPlain hmembers))
    · exact readScalar_isPlain h

/-- What is read as the items of a list is plain. -/
theorem readItems_isPlain : {fuel : Nat} → {cs rest : List Char} → {items : List Value} →
    readItems fuel cs = .ok (items, rest) → ∀ v ∈ items, v.IsPlain
  | 0, cs, rest, items, h => by simp [readItems] at h
  | fuel + 1, cs, rest, items, h => by
    rw [readItems.eq_def] at h
    dsimp only at h
    obtain ⟨⟨first, after⟩, hfirst, h⟩ := bind_eq_ok.mp h
    dsimp only at h
    split at h
    · obtain ⟨rfl, -⟩ := Prod.mk.inj (Except.ok.inj h)
      simpa using readValue_isPlain hfirst
    · obtain ⟨⟨others, r⟩, hothers, h⟩ := bind_eq_ok.mp h
      obtain ⟨rfl, -⟩ := Prod.mk.inj (Except.ok.inj h)
      exact List.forall_mem_cons.mpr ⟨readValue_isPlain hfirst, readItems_isPlain hothers⟩
    · simp at h

/-- What is read as the members of an object is plain. -/
theorem readMembers_isPlain : {fuel : Nat} → {cs rest : List Char} →
    {members : List (Key × Value)} → readMembers fuel cs = .ok (members, rest) →
      ∀ m ∈ members, m.2.IsPlain
  | 0, cs, rest, members, h => by simp [readMembers] at h
  | fuel + 1, cs, rest, members, h => by
    rw [readMembers.eq_def] at h
    dsimp only at h
    split at h
    · obtain ⟨⟨name, afterName⟩, -, h⟩ := bind_eq_ok.mp h
      dsimp only at h
      split at h
      · obtain ⟨⟨first, after⟩, hfirst, h⟩ := bind_eq_ok.mp h
        dsimp only at h
        split at h
        · obtain ⟨rfl, -⟩ := Prod.mk.inj (Except.ok.inj h)
          simpa using readValue_isPlain hfirst
        · obtain ⟨⟨others, r⟩, hothers, h⟩ := bind_eq_ok.mp h
          obtain ⟨rfl, -⟩ := Prod.mk.inj (Except.ok.inj h)
          exact List.forall_mem_cons.mpr ⟨readValue_isPlain hfirst, readMembers_isPlain hothers⟩
        · simp at h
      · simp at h
    · simp at h

end

theorem parse_isPlain {cs : List Char} {v : Value} (h : parse cs = .ok v) : v.IsPlain := by
  rw [parse.eq_def] at h
  split at h
  · simp at h
  · obtain ⟨⟨w, rest⟩, hw, h⟩ := bind_eq_ok.mp h
    dsimp only at h
    split at h
    · obtain rfl := Except.ok.inj h
      exact readValue_isPlain hw
    · simp at h

end Json

namespace Http

theorem parametersValue_isPlain (ps : List (String × String)) : (parametersValue ps).IsPlain := by
  refine Value.isPlain_object.mpr (Members.forall_mem_ofList fun m hm => ?_)
  obtain ⟨⟨name, v⟩, -, rfl⟩ := List.mem_map.mp hm
  exact fun _ => rfl

theorem bodyValue?_isPlain {body : List UInt8} {v : Value} (h : bodyValue? body = some v) :
    v.IsPlain := by
  rw [bodyValue?] at h
  split at h
  · obtain rfl := Option.some.inj h
    exact Value.isPlain_object.mpr (by simp)
  · obtain ⟨cs, -, hcs⟩ := Option.bind_eq_some_iff.mp h
    cases hparse : Json.parse cs with
    | error e => simp [hparse, Except.toOption] at hcs
    | ok w =>
      rw [hparse] at hcs
      obtain rfl := Option.some.inj hcs
      exact Json.parse_isPlain hparse

/-- The payload of a request is plain. -/
theorem payload_isPlain {method : Config.Method} {r : Request} {payload : Value}
    (h : payload? method r = some payload) : payload.IsPlain := by
  cases method with
  | get =>
    obtain rfl := Option.some.inj h
    exact parametersValue_isPlain _
  | _ => exact bodyValue?_isPlain h

end Http

end Switchboard
