import Switchboard.Functions.Samples
import Switchboard.Functions.Signature

/-!
Arguments and the parameters that they are for.

* `Parameter.take`, `frame?` — what one parameter gets of the arguments of a call, and what each of them gets;
* `Fits` — the calls that have a frame: no parameter is left without a value, and no argument without a
  parameter;
* `Parameter.take_cases`, `Parameter.cases_of_take_eq_none` — all that a parameter can do with arguments;
* `values_frame` — a frame gives out all arguments, each of them once and in their order;
* `HasRoom` — the parameters that have places for a number of arguments;
* `hasRoom_of_fits`, `fits_concat` — a call that fits has room for its arguments, and fits with one more as
  long as there is room for that;
* `canTake_iff` — for parameters in the order of a signature, `canTake` counts what fits;
* `arguments_fit` — a function is called with arguments that fit it, if the payload does, alone or with the
  request.

Arguments are given out from the front, one parameter after the other. So the inductions are on the
parameters, for whatever arguments are left, and each of them rests on what a single parameter takes.
-/
namespace Switchboard.Functions

/-! ### What a parameter takes -/

/-- What a parameter gets in a call. -/
inductive Share where
  | argument (v : Value)
  | gathered (vs : List Value)
  | byDefault

/-- The arguments in a share. -/
def Share.values : Share → List Value
  | .argument v => [v]
  | .gathered vs => vs
  | .byDefault => []

namespace Parameter

/-- What a parameter gets of the arguments that are passed by position, and the arguments that are left for
those behind it. A parameter by name leaves them all: nothing is passed for it, so it needs a default. -/
def take (p : Parameter) (args : List Value) : Option (Share × List Value) :=
  match p.passing, args with
  | .positionOnly, v :: left | .position, v :: left => some (.argument v, left)
  | .rest, _ => some (.gathered args, [])
  | .namedRest, _ => some (.gathered [], args)
  | .positionOnly, [] | .position, [] | .named, _ =>
    if p.hasDefault then some (.byDefault, args) else none

variable {p : Parameter} {args left : List Value} {share : Share}

theorem passing_of_isPositional (hp : p.isPositional = true) :
    p.passing ≠ .rest ∧ p.passing ≠ .named := by
  constructor <;> (intro h; simp [isPositional, h] at hp)

theorem take_argument (hp : p.isPositional = true) (v : Value) (left : List Value) :
    p.take (v :: left) = some (.argument v, left) := by
  obtain ⟨name, passing, hasDefault⟩ := p
  cases passing <;> simp [isPositional] at hp <;> rfl

theorem take_nil (hp : p.isPositional = true) :
    p.take [] = if p.hasDefault then some (.byDefault, []) else none := by
  obtain ⟨name, passing, hasDefault⟩ := p
  cases passing <;> simp [isPositional] at hp <;> rfl

theorem take_rest (hp : p.passing = .rest) (args : List Value) :
    p.take args = some (.gathered args, []) := by
  simp [take, hp]

/-- A parameter by name leaves the arguments by position alone, and does not depend on them. -/
theorem take_byName (hp : p.isPositional = false) (hrest : p.passing ≠ .rest) :
    (p.passing = .named ∧ p.hasDefault = false ∧ ∀ args, p.take args = none)
      ∨ (p.passing = .named → p.hasDefault = true) ∧ ∃ share : Share, share.values = [] ∧
          ∀ args, p.take args = some (share, args) := by
  obtain ⟨name, passing, hasDefault⟩ := p
  cases passing with
  | positionOnly => simp [isPositional] at hp
  | position => simp [isPositional] at hp
  | rest => simp at hrest
  | named =>
    cases hasDefault with
    | false => exact .inl ⟨rfl, rfl, fun args => rfl⟩
    | true => exact .inr ⟨fun _ => rfl, .byDefault, rfl, fun args => rfl⟩
  | namedRest => exact .inr ⟨nofun, .gathered [], rfl, fun args => rfl⟩

/-- What a parameter can take: an argument, its default as there is none, all that are left, or none of
them. -/
theorem take_cases (h : p.take args = some (share, left)) :
    (p.isPositional = true ∧ ∃ v, args = v :: left ∧ share = .argument v)
      ∨ (p.isPositional = true ∧ p.hasDefault = true ∧ args = [] ∧ left = [] ∧ share = .byDefault)
      ∨ (p.passing = .rest ∧ left = [] ∧ share = .gathered args)
      ∨ (p.isPositional = false ∧ p.passing ≠ .rest ∧ (p.passing = .named → p.hasDefault = true)
          ∧ left = args ∧ share.values = []) := by
  by_cases hp : p.isPositional = true
  · cases args with
    | nil =>
      rw [take_nil hp] at h
      split at h
      · next hdefault =>
        cases h
        exact .inr (.inl ⟨hp, hdefault, rfl, rfl, rfl⟩)
      · cases h
    | cons v others =>
      rw [take_argument hp] at h
      cases h
      exact .inl ⟨hp, v, rfl, rfl⟩
  · rw [Bool.not_eq_true] at hp
    by_cases hrest : p.passing = .rest
    · rw [take_rest hrest] at h
      cases h
      exact .inr (.inr (.inl ⟨hrest, rfl, rfl⟩))
    · obtain ⟨-, -, hnone⟩ | ⟨hdefault, s, hs, htake⟩ := take_byName hp hrest
      · rw [hnone] at h
        cases h
      · rw [htake] at h
        cases h
        exact .inr (.inr (.inr ⟨hp, hrest, hdefault, rfl, hs⟩))

/-- A parameter is left without a value when it has no default, and there is no argument for it. -/
theorem cases_of_take_eq_none (h : p.take args = none) :
    p.hasDefault = false ∧ (p.isPositional = true ∧ args = [] ∨ p.passing = .named) := by
  by_cases hp : p.isPositional = true
  · cases args with
    | nil =>
      rw [take_nil hp] at h
      split at h
      · cases h
      · next hdefault => exact ⟨Bool.eq_false_iff.mpr hdefault, .inl ⟨hp, rfl⟩⟩
    | cons v others =>
      rw [take_argument hp] at h
      cases h
  · rw [Bool.not_eq_true] at hp
    by_cases hrest : p.passing = .rest
    · rw [take_rest hrest] at h
      cases h
    · obtain ⟨hnamed, hdefault, -⟩ | ⟨-, s, -, htake⟩ := take_byName hp hrest
      · exact ⟨hdefault, .inr hnamed⟩
      · rw [htake] at h
        cases h

/-- What a parameter takes and what it leaves are all arguments there were. -/
theorem values_take (h : p.take args = some (share, left)) : share.values ++ left = args := by
  obtain ⟨-, v, rfl, rfl⟩ | ⟨-, -, rfl, rfl, rfl⟩ | ⟨-, rfl, rfl⟩ | ⟨-, -, -, rfl, hs⟩ :=
    take_cases h
  · rfl
  · rfl
  · exact List.append_nil args
  · rw [hs, List.nil_append]

end Parameter

/-! ### Calls that fit -/

/-- What each parameter gets in a call with arguments by position. -/
def frame? : List Parameter → List Value → Option (List (Parameter × Share))
  | [], [] => some []
  | [], _ :: _ => none
  | p :: rest, args => do
    let (share, left) ← p.take args
    let shares ← frame? rest left
    return (p, share) :: shares

/-- Every parameter gets a value in a call, and every argument a parameter. -/
def Fits (parameters : List Parameter) (args : List Value) : Prop :=
  (frame? parameters args).isSome = true

instance (parameters : List Parameter) (args : List Value) : Decidable (Fits parameters args) :=
  inferInstanceAs (Decidable (_ = true))

variable {p : Parameter} {parameters : List Parameter} {args : List Value}

theorem frame?_cons_eq_some {frame : List (Parameter × Share)} :
    frame? (p :: parameters) args = some frame
      ↔ ∃ share left shares, p.take args = some (share, left)
          ∧ frame? parameters left = some shares ∧ (p, share) :: shares = frame := by
  simp [frame?, Option.bind_eq_some_iff]

/-- A frame has the parameters in their order, and gives out all arguments in theirs. -/
theorem values_frame {frame : List (Parameter × Share)} (h : frame? parameters args = some frame) :
    frame.map Prod.fst = parameters ∧ frame.flatMap (·.2.values) = args := by
  induction parameters generalizing args frame with
  | nil =>
    cases args with
    | nil =>
      cases h
      exact ⟨rfl, rfl⟩
    | cons v left => cases h
  | cons p rest ih =>
    obtain ⟨share, left, shares, htake, hshares, rfl⟩ := frame?_cons_eq_some.mp h
    obtain ⟨hnames, hvalues⟩ := ih hshares
    refine ⟨by rw [List.map_cons, hnames], ?_⟩
    rw [List.flatMap_cons, hvalues]
    exact Parameter.values_take htake

theorem fits_nil : Fits [] args ↔ args = [] := by
  cases args <;> simp [Fits, frame?]

theorem fits_of_take {share : Share} {left : List Value} (h : p.take args = some (share, left)) :
    Fits (p :: parameters) args ↔ Fits parameters left := by
  cases hshares : frame? parameters left <;> simp [Fits, frame?, h, hshares]

theorem not_fits_of_take (h : p.take args = none) : ¬ Fits (p :: parameters) args := by
  simp [Fits, frame?, h]

theorem fits_cons :
    Fits (p :: parameters) args
      ↔ ∃ share left, p.take args = some (share, left) ∧ Fits parameters left := by
  cases htake : p.take args with
  | none => simp [not_fits_of_take htake]
  | some taken =>
    obtain ⟨share, left⟩ := taken
    rw [fits_of_take htake]
    constructor
    · exact fun hleft => ⟨share, left, rfl, hleft⟩
    · rintro ⟨share', left', htaken, hleft⟩
      cases htaken
      exact hleft

/-! ### Room -/

/-- There are parameters for a number of arguments. -/
def HasRoom (parameters : List Parameter) (count : Nat) : Prop :=
  count ≤ (parameters.filter Parameter.isPositional).length ∨ ∃ p ∈ parameters, p.passing = .rest

theorem hasRoom_cons_positional (hp : p.isPositional = true) {count : Nat} :
    HasRoom (p :: parameters) (count + 1) ↔ HasRoom parameters count := by
  simp [HasRoom, hp, (Parameter.passing_of_isPositional hp).1]

theorem hasRoom_cons_byName (hp : p.isPositional = false) (hrest : p.passing ≠ .rest) {count : Nat} :
    HasRoom (p :: parameters) count ↔ HasRoom parameters count := by
  simp [HasRoom, hp, hrest]

/-- A call that fits has room for its arguments. -/
theorem hasRoom_of_fits (h : Fits parameters args) : HasRoom parameters args.length := by
  induction parameters generalizing args with
  | nil =>
    obtain rfl := fits_nil.mp h
    exact .inl (Nat.le_refl _)
  | cons p rest ih =>
    obtain ⟨share, left, htake, hleft⟩ := fits_cons.mp h
    have hroom := ih hleft
    obtain ⟨hp, v, rfl, -⟩ | ⟨-, -, rfl, -, -⟩ | ⟨hp, -, -⟩ | ⟨hp, hrest, -, rfl, -⟩ :=
      Parameter.take_cases htake
    · exact (hasRoom_cons_positional hp).mpr hroom
    · exact .inl (Nat.zero_le _)
    · exact .inr ⟨p, List.mem_cons_self, hp⟩
    · exact (hasRoom_cons_byName hp hrest).mpr hroom

/-- A call that fits still does with one argument more, as long as there is room for it. -/
theorem fits_concat (h : Fits parameters args) (hroom : HasRoom parameters (args.length + 1)) (v : Value) :
    Fits parameters (args ++ [v]) := by
  induction parameters generalizing args with
  | nil => simp [HasRoom] at hroom
  | cons p rest ih =>
    obtain ⟨share, left, htake, hleft⟩ := fits_cons.mp h
    rw [fits_cons]
    obtain ⟨hp, w, rfl, -⟩ | ⟨hp, -, rfl, rfl, -⟩ | ⟨hp, rfl, -⟩ | ⟨hp, hrest, -, rfl, -⟩ :=
      Parameter.take_cases htake
    · have hmore := ih hleft ((hasRoom_cons_positional hp).mp hroom)
      exact ⟨_, _, Parameter.take_argument hp w (left ++ [v]), hmore⟩
    · -- the new argument takes the place of a default
      exact ⟨_, _, Parameter.take_argument hp v [], hleft⟩
    · exact ⟨_, _, Parameter.take_rest hp (args ++ [v]), hleft⟩
    · have hmore := ih hleft ((hasRoom_cons_byName hp hrest).mp hroom)
      obtain ⟨-, -, hnone⟩ | ⟨-, s, -, hs⟩ := Parameter.take_byName hp hrest
      · rw [hnone] at htake
        cases htake
      · exact ⟨s, _, hs (left ++ [v]), hmore⟩

/-! ### Counting -/

/-- A number of arguments can be taken when there is room for them, and what is left without one has a
default. -/
theorem canTake_eq_true {count : Nat} :
    canTake parameters count = true
      ↔ HasRoom parameters count
        ∧ (∀ p ∈ (parameters.filter Parameter.isPositional).drop count, p.hasDefault = true)
        ∧ ∀ p ∈ parameters, p.passing = .named → p.hasDefault = true := by
  simp [canTake, HasRoom, and_assoc, Decidable.imp_iff_not_or]

theorem canTake_of_take {share : Share} {left : List Value}
    (hbehind : p.passing = .rest → parameters.filter Parameter.isPositional = [])
    (h : p.take args = some (share, left)) :
    canTake (p :: parameters) args.length = true ↔ canTake parameters left.length = true := by
  rw [canTake_eq_true, canTake_eq_true]
  obtain ⟨hp, v, rfl, -⟩ | ⟨hp, hdefault, rfl, rfl, -⟩ | ⟨hp, rfl, -⟩ | ⟨hp, hrest, hdefault, rfl, -⟩ :=
    Parameter.take_cases h
  · rw [List.length_cons, hasRoom_cons_positional hp]
    simp [hp, (Parameter.passing_of_isPositional hp).2]
  · simp [HasRoom, hp, hdefault]
  · simp [HasRoom, Parameter.isPositional, hp, hbehind hp]
  · rw [hasRoom_cons_byName hp hrest, List.forall_mem_cons, and_iff_right hdefault]
    simp [hp]

theorem not_canTake_of_take (h : p.take args = none) :
    ¬ canTake (p :: parameters) args.length = true := by
  rw [canTake_eq_true]
  rintro ⟨-, hunfilled, hnamed⟩
  obtain ⟨hdefault, ⟨hp, rfl⟩ | hp⟩ := Parameter.cases_of_take_eq_none h
  · simp [hp, hdefault] at hunfilled
  · simp [hp, hdefault] at hnamed

/-- When the parameters by position stand in front of the one for the rest, as they do in a signature, the
calls that fit can be told by the number of arguments. -/
theorem canTake_iff (horder : parameters.Pairwise fun p q => p.passing = .rest → q.isPositional = false) :
    canTake parameters args.length = true ↔ Fits parameters args := by
  induction parameters generalizing args with
  | nil => simp [canTake, fits_nil]
  | cons p rest ih =>
    rw [List.pairwise_cons] at horder
    obtain ⟨hbehind, horder⟩ := horder
    cases htake : p.take args with
    | none => exact iff_of_false (not_canTake_of_take htake) (not_fits_of_take htake)
    | some taken =>
      obtain ⟨share, left⟩ := taken
      have hnone (hp : p.passing = .rest) : rest.filter Parameter.isPositional = [] :=
        List.filter_eq_nil_iff.mpr fun q hq => by simp [hbehind q hq hp]
      rw [canTake_of_take hnone htake, fits_of_take htake]
      exact ih horder

/-! ### Payload and request -/

/-- The request is passed where there is room for it behind the payload. -/
theorem takesRequest_iff : takesRequest parameters = true ↔ HasRoom parameters 2 := by
  simp [takesRequest, HasRoom, or_comm]

/-- A function whose parameters are known is called with arguments that fit them, whenever the payload alone
does or the payload and the request do. -/
theorem arguments_fit {f : Function} {parameters : List Parameter}
    (hknown : f.parameters = some parameters) {payload request : Value}
    (h : Fits parameters [payload] ∨ Fits parameters [payload, request]) :
    Fits parameters (f.arguments payload request) := by
  rw [Function.arguments, hknown]
  by_cases htakes : takesRequest parameters = true
  · simp only [if_pos htakes]
    obtain halone | hboth := h
    · exact fits_concat halone (takesRequest_iff.mp htakes) request
    · exact hboth
  · simp only [if_neg htakes]
    obtain halone | hboth := h
    · exact halone
    · exact absurd (takesRequest_iff.mpr (hasRoom_of_fits hboth)) htakes

open Samples in
/-- A function that needs the request is called with it, and one that takes it by name only is not; each of
them could be called in no other way. -/
theorem arguments_fit_samples :
    (Fits [payloadParameter, ⟨"request", .position, false⟩] [.null, .bool true]
      ∧ ¬ Fits [payloadParameter, ⟨"request", .position, false⟩] [.null]
      ∧ Fits [payloadParameter, ⟨"request", .position, false⟩]
          ((withRequest false).arguments .null (.bool true)))
    ∧ Fits [payloadParameter, ⟨"request", .named, true⟩] [.null]
      ∧ ¬ Fits [payloadParameter, ⟨"request", .named, true⟩] [.null, .bool true]
      ∧ Fits [payloadParameter, ⟨"request", .named, true⟩]
          (withNamedRequest.arguments .null (.bool true)) :=
  ⟨⟨by decide, by decide, arguments_fit rfl (.inr (by decide))⟩,
    by decide, by decide, arguments_fit rfl (.inl (by decide))⟩

end Switchboard.Functions
