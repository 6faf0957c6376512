import Switchboard.Failure

/-!
What failures tell of the places that they have passed.

* `Place.text_eq_inFull` — a place whose endpoint has a name is told in full, and
  `Failure.message_first`, so is that of a first step without a name;
* `Failure.nested` — a failure that was passed on at some places, `Failure.message_nested`, its message,
  and `Failure.behind?_nested`, what stands behind it.
-/
namespace Switchboard

/-- A place with its endpoint, and with its name where it has one that is not empty. -/
def Place.inFull (p : Place) : String :=
  let name := p.name.getD ""
  "Chain step " ++ toString p.step ++ (if name = "" then "" else " \"" ++ name ++ "\"")
    ++ (" (endpoint \"" ++ p.endpoint ++ "\")") ++ ": "

/-- A place is told in full where its endpoint has a name. -/
theorem Place.text_eq_inFull {p : Place} (h : p.endpoint ≠ "") : p.text = p.inFull := by
  obtain ⟨step, name, endpoint⟩ := p
  have hendpoint : endpoint.isEmpty = false := by simpa using h
  cases name with
  | none => simp [text, inFull, hendpoint]
  | some name => simp [text, inFull, hendpoint]

namespace Failure

/-- The message when the handler of a first step without a name failed. -/
theorem message_first {endpoint : String} (h : endpoint ≠ "") (cause : Failure) :
    (handler ⟨0, none, endpoint⟩ cause).message
      = "Chain step 0 (endpoint \"" ++ endpoint ++ "\"): handler failed: " ++ cause.message := by
  have hstart : "Chain step " ++ toString (0 : Int) ++ "" ++ " (endpoint \""
      = "Chain step 0 (endpoint \"" := by decide
  have hend : "\")" ++ ": " ++ "handler failed: " = "\"): handler failed: " := by decide
  calc (handler ⟨0, none, endpoint⟩ cause).message
      = (Place.mk 0 none endpoint).text ++ "handler failed: " ++ cause.message := rfl
    _ = (Place.mk 0 none endpoint).inFull ++ "handler failed: " ++ cause.message := by
        rw [Place.text_eq_inFull h]
    _ = "Chain step " ++ toString (0 : Int) ++ "" ++ " (endpoint \"" ++ endpoint
          ++ ("\")" ++ ": " ++ "handler failed: ") ++ cause.message := by
        simp only [Place.inFull, Option.getD_none, if_true, String.append_assoc]
    _ = _ := by rw [hstart, hend]

/-- A failure that handlers have passed on at some places, the outermost first. -/
def nested (places : List Place) (cause : Failure) : Failure := places.foldr .handler cause

/-- The failure behind a failure, some causes down. -/
def behind? (e : Failure) : (count : Nat) → Option Failure
  | 0 => some e
  | count + 1 => e.cause?.bind (·.behind? count)

/-- The message of a nested failure tells of all places, and then what happened behind them. -/
theorem message_nested (places : List Place) (cause : Failure) :
    (nested places cause).message
      = String.join (places.map fun p => p.text ++ "handler failed: ") ++ cause.message := by
  induction places with
  | nil => simp [nested]
  | cons place places ih =>
    have hhead : (nested (place :: places) cause).message
        = place.text ++ "handler failed: " ++ (nested places cause).message := rfl
    rw [hhead, ih, List.map_cons, String.join_cons]
    simp only [String.append_assoc]

/-- As many causes down as there are places stands what happened behind them. -/
theorem behind?_nested (places : List Place) (cause : Failure) :
    (nested places cause).behind? places.length = some cause := by
  induction places with
  | nil => rfl
  | cons place places ih => exact ih

end Failure

end Switchboard
