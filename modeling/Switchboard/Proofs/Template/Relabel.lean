import Switchboard.Proofs.Template.Step

/-!
Data is never read as a template.

* `Value.mapText` on values, `Context.mapText` and `History.mapText` on what templates refer to — every
  text of the data replaced by its image;
* `step_mapText`, `walk_mapText`, `evaluate_mapText` — a path leads to the same place, whatever the texts;
* `History.Holds`, `evaluate_holds` — what it leads to is passed on as it stands;
* `compile_keeps_data` — a template has the same value but for the images of the texts, at the places of
  its expressions and nowhere else.

The texts of the data are looked at nowhere on the way: a step needs the kind of a value, the keys of a
mapping and the length of a list, and images leave all of these alone (`Value.kindName_mapText`,
`Members.get?_map`).
-/
namespace Switchboard

variable {f : String → String}

/-! ### Images of values -/

namespace Value

theorem mapTextItems_eq_map (items : List Value) :
    mapTextItems f items = items.map (mapText f) := by
  induction items with
  | nil => rfl
  | cons v rest ih => rw [mapTextItems, List.map_cons, ih]

theorem mapTextMembers_eq_map (members : List (Key × Value)) :
    mapTextMembers f members = members.map (Prod.map id (mapText f)) := by
  induction members with
  | nil => rfl
  | cons m rest ih =>
    obtain ⟨k, v⟩ := m
    rw [mapTextMembers, List.map_cons, ih, Prod.map_apply, id_eq]

@[simp] theorem mapText_list (items : List Value) :
    mapText f (.list items) = .list (items.map (mapText f)) := by
  rw [mapText, mapTextItems_eq_map]

@[simp] theorem mapText_tuple (items : List Value) :
    mapText f (.tuple items) = .tuple (items.map (mapText f)) := by
  rw [mapText, mapTextItems_eq_map]

@[simp] theorem mapText_object (members : List (Key × Value)) :
    mapText f (.object members) = .object (members.map (Prod.map id (mapText f))) := by
  rw [mapText, mapTextMembers_eq_map]

@[simp] theorem mapText_shared (run : Nat) (ledger : Ledger) :
    mapText f (.shared run ledger) = .shared run ledger := rfl

/-- The image of a value is of its kind. -/
@[simp] theorem kindName_mapText (v : Value) : (v.mapText f).kindName = v.kindName := by
  cases v <;> rfl

end Value

/-! ### Images of histories -/

/-- Replaces every text in a context by its image; the names of steps stay. -/
def Context.mapText (f : String → String) (c : Context) : Context :=
  ⟨c.input.mapText f, c.outputs.map (.mapText f), c.named.map (Prod.map id (.mapText f))⟩

/-- Replaces every text in the contexts of a history by its image. -/
def History.mapText (f : String → String) (h : History) : History := h.map (.mapText f)

namespace Context

theorem setNamed_mapText (name : String) (output : Value) (named : List (String × Value)) :
    (setNamed name output named).map (Prod.map id (.mapText f))
      = setNamed name (output.mapText f) (named.map (Prod.map id (.mapText f))) := by
  induction named with
  | nil => rfl
  | cons m rest ih =>
    obtain ⟨n, v⟩ := m
    rw [List.map_cons, Prod.map_apply, id_eq, setNamed, setNamed]
    split
    · rfl
    · rw [List.map_cons, ih, Prod.map_apply, id_eq]

/-- The image of a context is what the images of its outputs would have been recorded in. -/
theorem record_mapText (c : Context) (output : Value) (name : Option String) :
    (c.record output name).mapText f = (c.mapText f).record (output.mapText f) name := by
  cases name with
  | none => simp [record, mapText]
  | some name =>
    by_cases hname : name.isEmpty
    · simp [record, mapText, hname]
    · simp [record, mapText, hname, setNamed_mapText]

theorem previous?_mapText (c : Context) :
    (c.mapText f).previous? = c.previous?.map (.mapText f) := List.getLast?_map

theorem ledger_mapText (c : Context) (ledger : Ledger) :
    (c.mapText f).ledger ledger = (c.ledger ledger).mapText f := by
  cases ledger with
  | outputs => simp [Context.ledger, mapText]
  | named => simp [Context.ledger, mapText, Value.ofFields]

end Context

namespace History

variable (h : History)

@[simp] theorem length_mapText : (h.mapText f).length = h.length := List.length_map _

@[simp] theorem context_mapText (run : Nat) :
    (h.mapText f).context run = (h.context run).mapText f := by
  rw [context, context, mapText, List.getD_eq_getElem?_getD, List.getD_eq_getElem?_getD,
    List.getElem?_map]
  cases h[run]? <;> rfl

theorem peek_mapText (v : Value) : (h.mapText f).peek (v.mapText f) = (h.peek v).mapText f := by
  cases v with
  | shared run ledger =>
    simp only [Value.mapText_shared, peek, context_mapText, Context.ledger_mapText]
  | _ => rfl

end History

/-! ### Shared collections written out -/

namespace Value

variable {g g' : Nat → Ledger → Value}

mutual

/-- Images go well with what shared collections are replaced by. -/
theorem replaceShared_mapText (hg : ∀ run ledger, g' run ledger = (g run ledger).mapText f) :
    (v : Value) → (v.mapText f).replaceShared g' = (v.replaceShared g).mapText f
  | .list items => by
    rw [mapText, replaceShared, replaceShared, mapText, replaceSharedItems_mapText hg items]
  | .tuple items => by
    rw [mapText, replaceShared, replaceShared, mapText, replaceSharedItems_mapText hg items]
  | .object members => by
    rw [mapText, replaceShared, replaceShared, mapText, replaceSharedMembers_mapText hg members]
  | .shared run ledger => hg run ledger
  | .null | .bool _ | .int _ | .float _ | .str _ | .set _ | .moment _ | .bytes _ | .foreign _
  | .enclosing _ => rfl

/-- `replaceShared_mapText` on the items of a list. -/
theorem replaceSharedItems_mapText (hg : ∀ run ledger, g' run ledger = (g run ledger).mapText f) :
    (items : List Value) → replaceSharedItems g' (mapTextItems f items)
      = mapTextItems f (replaceSharedItems g items)
  | [] => rfl
  | v :: rest => by
    rw [mapTextItems, replaceSharedItems, replaceSharedItems, mapTextItems,
      replaceShared_mapText hg v, replaceSharedItems_mapText hg rest]

/-- `replaceShared_mapText` on the members of a mapping. -/
theorem replaceSharedMembers_mapText (hg : ∀ run ledger, g' run ledger = (g run ledger).mapText f) :
    (members : List (Key × Value)) → replaceSharedMembers g' (mapTextMembers f members)
      = mapTextMembers f (replaceSharedMembers g members)
  | [] => rfl
  | (k, v) :: rest => by
    rw [mapTextMembers, replaceSharedMembers, replaceSharedMembers, mapTextMembers,
      replaceShared_mapText hg v, replaceSharedMembers_mapText hg rest]

end

end Value

namespace History

theorem revealWithin_mapText (h : History) (budget : Nat) (seen : List (Nat × Ledger)) (v : Value) :
    (h.mapText f).revealWithin budget seen (v.mapText f)
      = (h.revealWithin budget seen v).mapText f := by
  induction budget generalizing seen v with
  | zero => rfl
  | succ budget ih =>
    rw [revealWithin, revealWithin]
    refine Value.replaceShared_mapText (fun run ledger => ?_) v
    -- which collections are being written does not depend on what they hold
    by_cases hseen : (run, ledger) ∈ seen
    · rw [if_pos hseen, if_pos hseen, Value.mapText_shared]
    · rw [if_neg hseen, if_neg hseen, context_mapText, Context.ledger_mapText, ih]

/-- The image of a value, written out, is the image of what is written out. -/
theorem reveal_mapText (h : History) (v : Value) :
    (h.mapText f).reveal (v.mapText f) = (h.reveal v).mapText f := by
  rw [reveal, reveal, length_mapText, revealWithin_mapText]

/-- The values that a run has for templates: its input, its two collections, and whatever lies in one
of these. -/
inductive Holds (h : History) (run : Nat) : Value → Prop where
  | input : Holds h run (h.context run).input
  | shared (ledger : Ledger) : Holds h run (.shared run ledger)
  | item {v item : Value} {items : List Value} (hv : Holds h run v)
      (hitems : h.peek v = .list items ∨ h.peek v = .tuple items) (hitem : item ∈ items) :
      Holds h run item
  | member {v w : Value} {k : Key} {members : List (Key × Value)} (hv : Holds h run v)
      (hmembers : h.peek v = .object members) (hmember : (k, w) ∈ members) : Holds h run w

end History

/-! ### Expressions -/

namespace Template

variable (h : History) (run : Nat)

theorem rootValue_mapText (path : Path) :
    rootValue (h.mapText f) run path = (rootValue h run path).map (.mapText f) := by
  rw [rootValue, rootValue, History.context_mapText, Context.previous?_mapText]
  cases path.root with
  | previousStep => cases (h.context run).previous? <;> rfl
  | _ => rfl

theorem step_mapText_of_items {path here : String} {current : Value} {segment : Segment}
    {items : List Value} (hpeek : h.peek current = .list items ∨ h.peek current = .tuple items) :
    step (h.mapText f) path here (current.mapText f) segment
      = (step h path here current segment).map (.mapText f) := by
  have himage : (h.mapText f).peek (current.mapText f) = .list (items.map (.mapText f))
      ∨ (h.mapText f).peek (current.mapText f) = .tuple (items.map (.mapText f)) :=
    hpeek.imp (fun hlist => by rw [History.peek_mapText, hlist, Value.mapText_list])
      (fun htuple => by rw [History.peek_mapText, htuple, Value.mapText_tuple])
  rw [step_of_items hpeek, step_of_items himage]
  cases position? segment with
  | error e => rfl
  | ok position =>
    have hitem : position.bind ((items.map (Value.mapText f))[·]?)
        = (position.bind (items[·]?)).map (.mapText f) := by
      cases position <;> simp
    simp only [Except.bind, hitem, List.length_map]
    cases position.bind (items[·]?) <;> rfl

/-- A step leads to the same place in the image of a value, and fails for the same reason. -/
theorem step_mapText (path here : String) (current : Value) (segment : Segment) :
    step (h.mapText f) path here (current.mapText f) segment
      = (step h path here current segment).map (.mapText f) := by
  cases hpeek : h.peek current with
  | object members =>
    rw [step, step, History.peek_mapText, hpeek]
    simp only [Value.mapText_object, Members.get?_map]
    cases Members.get? (.text segment.text) members with
    | some v => rfl
    | none =>
      -- the message lists the keys, which have stayed
      simp [Except.map, Function.comp_def]
  | list items => exact step_mapText_of_items h (.inl hpeek)
  | tuple items => exact step_mapText_of_items h (.inr hpeek)
  | _ =>
    rw [step, step, History.peek_mapText, hpeek]
    rfl

/-- A path leads to the same place in the image of a value, and fails for the same reason. -/
theorem walk_mapText (path : Path) (walked : List Segment) (current : Value)
    (segments : List Segment) :
    walk (h.mapText f) path walked (current.mapText f) segments
      = (walk h path walked current segments).map (.mapText f) := by
  induction segments generalizing walked current with
  | nil => rfl
  | cons segment rest ih =>
    rw [walk, walk, step_mapText]
    cases step h path.text (place (if path.explicitRoot then some path.root else none) walked)
      current segment with
    | error e => rfl
    | ok next => exact ih _ next

/-- An expression has the image of its value in the image of a history. -/
theorem evaluate_mapText (expression : String) :
    evaluate (h.mapText f) run expression = (evaluate h run expression).map (.mapText f) := by
  rw [evaluate, evaluate]
  -- the path is read from the expression alone
  cases Path.parse expression with
  | error e => rfl
  | ok path =>
    simp only [bind, Except.bind, rootValue_mapText]
    cases rootValue h run path with
    | error e => rfl
    | ok start => exact walk_mapText h path [] start path.segments

/-! ### Values passed on -/

variable {h run}

theorem rootValue_holds {path : Path} {v : Value} (hv : rootValue h run path = .ok v) :
    h.Holds run v := by
  have hstarts := rootValue_eq_ok.mp hv
  generalize path.root = root at hstarts
  cases hstarts with
  | input => exact .input
  | steps => exact .shared .outputs
  | stepsByName => exact .shared .named
  | previousStep hlast => exact .item (.shared .outputs) (.inl rfl) (List.mem_of_getLast? hlast)

theorem step_holds {path here : String} {current v : Value} {segment : Segment}
    (hcurrent : h.Holds run current) (hv : step h path here current segment = .ok v) :
    h.Holds run v := by
  cases enters_of_step hv with
  | member hmembers hget =>
    obtain ⟨k, hmember⟩ := Members.mem_of_get? hget
    exact .member hcurrent hmembers hmember
  | item hitems _ hget => exact .item hcurrent hitems (List.mem_of_getElem? hget)

theorem walk_holds {path : Path} {walked segments : List Segment} {current v : Value}
    (hcurrent : h.Holds run current) (hv : walk h path walked current segments = .ok v) :
    h.Holds run v := by
  induction segments generalizing walked current with
  | nil =>
    obtain rfl := Except.ok.inj hv
    exact hcurrent
  | cons segment rest ih =>
    obtain ⟨next, hnext, hv⟩ := bind_eq_ok.mp hv
    exact ih (step_holds hcurrent hnext) hv

/-- What an expression comes to is passed on as the run has it. -/
theorem evaluate_holds {expression : String} {v : Value}
    (hv : evaluate h run expression = .ok v) : h.Holds run v := by
  obtain ⟨path, -, hv⟩ := bind_eq_ok.mp hv
  obtain ⟨start, hstart, hv⟩ := bind_eq_ok.mp hv
  exact walk_holds (rootValue_holds hstart) hv

/-! ### Templates -/

mutual

/-- Applies a function to what a template has come to, at the places of its expressions. -/
def atExpressions (g : Value → Value) : (template result : Value) → Value
  | .str s, v => if isWhole s.toList then g v else v
  | .list items, .list results | .tuple items, .list results =>
    .list (atExpressionsItems g items results)
  | .object members, .object results => .object (atExpressionsMembers g members results)
  | _, v => v

/-- `atExpressions` on the items of a list. -/
def atExpressionsItems (g : Value → Value) : (items results : List Value) → List Value
  | item :: items, v :: results => atExpressions g item v :: atExpressionsItems g items results
  | _, results => results

/-- `atExpressions` on the members of a mapping. -/
def atExpressionsMembers (g : Value → Value) :
    (members results : List (Key × Value)) → List (Key × Value)
  | (_, template) :: members, (k, v) :: results =>
    (k, atExpressions g template v) :: atExpressionsMembers g members results
  | _, results => results

end

variable (h run)

theorem compileText_mapText (s : String) :
    compileText (h.mapText f) run s
      = (compileText h run s).map fun v => if isWhole s.toList then v.mapText f else v := by
  rw [compileText, compileText]
  -- the text is the template's own, so it is looked at in the same way
  by_cases hwhole : isWhole s.toList
  · simp only [hwhole, if_true, evaluate_mapText]
  · simp only [if_neg hwhole]
    split <;> rfl

mutual

/-- A template has the same value in the image of a history, with images at the places of its
expressions. -/
theorem compile_mapText : (template : Value) →
    compile (h.mapText f) run template
      = (compile h run template).map (atExpressions (.mapText f) template)
  | .str s => by
    rw [compile, compile, compileText_mapText]
    simp only [atExpressions]
  | .list items => by
    rw [compile, compile, compileItems_mapText items]
    cases compileItems h run items <;> rfl
  | .tuple items => by
    rw [compile, compile, compileItems_mapText items]
    cases compileItems h run items <;> rfl
  | .object members => by
    rw [compile, compile, compileMembers_mapText members]
    cases compileMembers h run members <;> rfl
  | .null | .bool _ | .int _ | .float _ | .set _ | .moment _ | .bytes _ | .foreign _ | .shared _ _
  | .enclosing _ => rfl

/-- `compile_mapText` on the items of a list. -/
theorem compileItems_mapText : (items : List Value) →
    compileItems (h.mapText f) run items
      = (compileItems h run items).map (atExpressionsItems (.mapText f) items)
  | [] => rfl
  | template :: rest => by
    rw [compileItems, compileItems, compile_mapText template, compileItems_mapText rest]
    cases compile h run template with
    | error e => rfl
    | ok v => cases compileItems h run rest <;> rfl

/-- `compile_mapText` on the members of a mapping. -/
theorem compileMembers_mapText : (members : List (Key × Value)) →
    compileMembers (h.mapText f) run members
      = (compileMembers h run members).map (atExpressionsMembers (.mapText f) members)
  | [] => rfl
  | (k, template) :: rest => by
    rw [compileMembers, compileMembers, compile_mapText template, compileMembers_mapText rest]
    cases compile h run template with
    | error e => rfl
    | ok v => cases compileMembers h run rest <;> rfl

end

/-- **Data is never read as a template.** Replace every text of the data in a history by its image,
the names of steps and the keys of mappings left as they are. An expression then has the image of its
value, or fails with the same error; so does a template, with images at the places of its expressions
and nowhere else. What shared collections show are images as well. Whatever an expression comes to is a
value that the run has, passed on as it stands. -/
theorem compile_keeps_data (f : String → String) (h : History) (run : Nat) :
    (∀ expression, evaluate (h.mapText f) run expression
      = (evaluate h run expression).map (.mapText f)) ∧
    (∀ template, compile (h.mapText f) run template
      = (compile h run template).map (atExpressions (.mapText f) template)) ∧
    (∀ v, (h.mapText f).reveal (v.mapText f) = (h.reveal v).mapText f) ∧
    ∀ expression v, evaluate h run expression = .ok v → h.Holds run v :=
  ⟨evaluate_mapText h run, compile_mapText h run, h.reveal_mapText, fun _ _ => evaluate_holds⟩

/-- A note in the input that looks like an expression is passed on as it stands. -/
theorem compile_passes_braces :
    compile [.start (.ofFields [("note", .str "\x7b\x7bsteps\x7d\x7d")])] 0
        (.list [.str "\x7b\x7binput.note\x7d\x7d", .str "plain"])
      = .ok (.list [.str "\x7b\x7bsteps\x7d\x7d", .str "plain"]) := by
  -- what another note gives says what this one gives
  have hplain : compile [.start (.ofFields [("note", .str "")])] 0
      (.list [.str "\x7b\x7binput.note\x7d\x7d", .str "plain"])
        = .ok (.list [.str "", .str "plain"]) := by rfl
  have hnatural := (compile_keeps_data (fun _ => "\x7b\x7bsteps\x7d\x7d")
    [.start (.ofFields [("note", .str "")])] 0).2.1
      (.list [.str "\x7b\x7binput.note\x7d\x7d", .str "plain"])
  rw [hplain] at hnatural
  exact hnatural

end Template

end Switchboard
