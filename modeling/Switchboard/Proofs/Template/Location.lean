import Switchboard.Proofs.Template.Grammar
import Switchboard.Proofs.Template.Names

/-!
The places that messages name.

* `Cause.place?` — the place that a cause is about, which its message quotes (`Cause.message_of_place?`);
* `walk_eq_unresolved` — a walk that fails has come to a value, and names the part of the path that it has walked;
* `Path.upTo` — the path up to some of its segments, and `Path.body_upTo`, that a place is what it is written as;
* `IsTight`, `Path.parse_upTo` — where no blank stands in front of a bracket, this path comes back;
* `place_leads_back` — the place that a message names leads to the value at which the path has stopped.

A blank between a name and its index belongs to the name, and is lost where the place ends with the name. So an
expression must not have one.
-/
namespace Switchboard.Template

/-! ### Messages -/

/-- The place that a cause is about. -/
def Cause.place? : Cause → Option String
  | .isNull place | .noProperty _ place _ | .notContainer place _ => some place
  | _ => none

/-- A message quotes the place that it is about. -/
theorem Cause.message_of_place? {cause : Cause} {here : String} (hplace : cause.place? = some here) :
    ∃ before after, cause.message = before ++ ("\"" ++ here ++ "\"") ++ after := by
  cases cause with
  | isNull place =>
    obtain rfl := Option.some.inj hplace
    refine ⟨"", " is null", String.ext ?_⟩
    change ("\"" ++ place ++ "\" is null").toList = _
    simp
  | noProperty key place available =>
    obtain rfl := Option.some.inj hplace
    refine ⟨"property \"" ++ key ++ "\" does not exist in ", ". Available properties: "
      ++ Text.join ", " available, String.ext ?_⟩
    change ("property \"" ++ key ++ "\" does not exist in \"" ++ place ++ "\". Available properties: "
      ++ Text.join ", " available).toList = _
    simp
  | notContainer place kind =>
    obtain rfl := Option.some.inj hplace
    refine ⟨"", " is not an object (got " ++ kind ++ ")", String.ext ?_⟩
    change ("\"" ++ place ++ "\" is not an object (got " ++ kind ++ ")").toList = _
    simp
  | _ => simp [place?] at hplace

variable {h : History} {run : Nat}

/-! ### Where a walk fails -/

/-- A step that fails names the place that it starts from. -/
theorem place?_of_step {path here : String} {v : Value} {segment : Segment} {text : String} {cause : Cause}
    (hstep : step h path here v segment = .error (.unresolved text cause)) : cause.place? = some here := by
  have hitems : ∀ items, h.peek v = .list items ∨ h.peek v = .tuple items → cause.place? = some here := by
    intro items hv
    rw [step_of_items hv] at hstep
    cases hposition : position? segment with
    | error e =>
      rcases position?_cases segment with hok | ⟨digits, hdigits⟩
      · simp [hok] at hposition
      · rw [hdigits] at hstep
        cases hstep
    | ok position =>
      simp only [hposition, Except.bind] at hstep
      split at hstep
      · cases hstep
      · cases hstep
        rfl
  cases hv : h.peek v with
  | list items => exact hitems items (.inl hv)
  | tuple items => exact hitems items (.inr hv)
  | object members =>
    rw [step, hv] at hstep
    simp only at hstep
    split at hstep
    · cases hstep
    · cases hstep
      rfl
  | _ =>
    rw [step, hv] at hstep
    cases hstep
    rfl

/-- A walk that fails has come to a value from which the next segment leads nowhere. What it reports is the
part of the path that it has walked, and the reason that the value gives. -/
theorem walk_eq_unresolved {path : Path} {walked segments : List Segment} {v : Value} {text : String}
    {cause : Cause} (hwalk : walk h path walked v segments = .error (.unresolved text cause)) :
    ∃ before rest u, segments = before ++ rest ∧ walk h path walked v before = .ok u ∧ Stops h v segments u ∧
      cause.place? = some (place (if path.explicitRoot then some path.root else none) (walked ++ before)) ∧
      cause.reason = hindrance (h.peek u) := by
  -- by induction on the segments that are left, for whatever has been walked before them
  induction segments generalizing walked v with
  | nil => simp [walk] at hwalk
  | cons segment rest ih =>
    rcases bind_eq_error.mp hwalk with hstep | ⟨w, hstep, hrest⟩
    · have hplace := place?_of_step hstep
      rcases step_cases h path.text (place (if path.explicitRoot then some path.root else none) walked) v
        segment with ⟨_, hok, -⟩ | ⟨cause', hfails, hreason, hnone⟩ | ⟨_, hfails, -⟩
      · simp [hok] at hstep
      · -- the walk has stopped here, with nothing walked since
        obtain ⟨-, rfl⟩ := Error.unresolved.inj (Except.error.inj (hfails.symm.trans hstep))
        rw [← List.append_nil walked] at hplace
        exact ⟨[], segment :: rest, v, rfl, rfl, .here hnone, hplace, hreason⟩
      · simp [hfails] at hstep
    · obtain ⟨before, after, u, rfl, hu, hstops, hplace, hreason⟩ := ih hrest
      rw [List.append_assoc] at hplace
      refine ⟨segment :: before, after, u, rfl, ?_, .onward (enters_of_step hstep) hstops, hplace, hreason⟩
      rw [walk, hstep]
      exact hu

/-! ### The path up to a place -/

namespace Path

/-- The path up to some segments of it. One that has no word for its root and no segments either is written as
the word for the outputs by name, from which it starts. -/
def upTo (p : Path) (walked : List Segment) : Path :=
  { p with segments := walked, explicitRoot := p.explicitRoot || walked.isEmpty }

variable {p : Path} {walked : List Segment}

/-- A path that begins as it should does so up to any of its segments. -/
theorem Begins.upTo (hbegins : p.Begins) (hwalked : walked <+: p.segments) : (p.upTo walked).Begins := by
  rcases hbegins with hroot | ⟨hroot, hstart, key, rest, hsegments, hword⟩
  · exact .inl (by simp [Path.upTo, hroot])
  · cases walked with
    | nil => exact .inl (by simp [Path.upTo])
    | cons segment others =>
      rw [hsegments] at hwalked
      obtain rfl : segment = .name key := (List.cons_prefix_cons.mp hwalked).1
      exact .inr ⟨by simp [Path.upTo, hroot], hstart, key, others, rfl, hword⟩

/-- A place is what the path up to it is written as. -/
theorem body_upTo (hbegins : p.Begins) (hwalked : walked <+: p.segments) :
    (p.upTo walked).body = place (if p.explicitRoot then some p.root else none) walked := by
  rcases hbegins with hroot | ⟨hroot, hstart, key, rest, hsegments, -⟩
  · simp [body, inFull, Path.upTo, hroot, place, Segment.text]
  · cases walked with
    | nil => simp [body, inFull, Path.upTo, hroot, hstart, place, Segment.text]
    | cons segment others =>
      rw [hsegments] at hwalked
      obtain rfl : segment = .name key := (List.cons_prefix_cons.mp hwalked).1
      simp [body, inFull, Path.upTo, hroot, place, Segment.text]

end Path

/-- Settled segments whose names all end plainly are settled up to any of them. -/
theorem Settled.of_append {before after : List Segment} (hsettled : Settled (before ++ after))
    (hends : ∀ key, .name key ∈ before → EndsPlainly key) : Settled before := by
  induction before with
  | nil => trivial
  | cons segment rest ih =>
    have hrest : ∀ key, .name key ∈ rest → EndsPlainly key := fun key hkey =>
      hends key (List.mem_cons_of_mem _ hkey)
    cases segment with
    | index n => exact ⟨hsettled.1, ih hsettled.2 hrest⟩
    | name key => exact ⟨hsettled.1, .inl (hends key List.mem_cons_self), ih hsettled.2.2 hrest⟩

/-! ### Tight expressions -/

/-- In an expression, no blank stands between a name and the bracket behind it. -/
def IsTight (expression : String) : Prop :=
  ∀ body pieces, Inside expression.toList body → Spells body pieces →
    ∀ piece ∈ pieces, piece.groups ≠ [] → EndsPlainly (String.ofList piece.name)

/-- An expression is tight if no blank in it stands in front of a bracket. -/
theorem isTight_of_forall {expression : String}
    (h : ∀ c, [c, '['] <:+: expression.toList → Text.isBlank c = false) : IsTight expression := by
  rintro body pieces hinside hspells piece hpiece hgroups c hc
  have hraws := hspells.splitOn_eq
  obtain rfl := unwrap_iff.mpr hinside
  obtain ⟨raw, hraw, htext⟩ := exists_of_mem_right hraws hpiece
  rw [String.toList_ofList] at hc
  obtain ⟨before, hname⟩ := List.getLast?_eq_some_iff.mp hc
  obtain ⟨g, rest, hcons⟩ := List.exists_cons_of_ne_nil hgroups
  have hpart : [c, '['] <:+: piece.text :=
    ⟨before, g ++ ']' :: rest.flatMap bracketed, by simp [Piece.text, hname, hcons, bracketed]⟩
  exact h c (hpart.trans (htext.isInfix hraw))

/-- The names in a path that was read from a tight expression end plainly. -/
theorem IsTight.endsPlainly {expression : String} (htight : IsTight expression) {p : Path}
    (hparse : Path.parse expression = .ok p) : ∀ key, .name key ∈ p.inFull → EndsPlainly key := by
  obtain ⟨body, pieces, hinside, hspells, -, -, hfull, -⟩ := Path.parse_eq_ok.mp hparse
  intro key hkey
  rw [hfull] at hkey
  obtain ⟨piece, hpiece, hkey⟩ := List.mem_flatMap.mp hkey
  obtain rfl := piece.eq_name_of_mem hkey
  by_cases hgroups : piece.groups = []
  · have hraws := hspells.splitOn_eq
    obtain ⟨raw, -, htext⟩ := exists_of_mem_right hraws hpiece
    exact piece.endsPlainly_of_strip htext hgroups
  · exact htight body pieces hinside hspells piece hpiece hgroups

/-- A tight path comes back up to any of its segments when it is written and read. -/
theorem Path.parse_upTo {expression : String} (htight : IsTight expression) {p : Path}
    (hparse : parse expression = .ok p) {walked : List Segment} (hwalked : walked <+: p.segments) :
    parse (p.upTo walked).written = .ok { p.upTo walked with text := (p.upTo walked).body } := by
  obtain ⟨hbegins, hsettled⟩ := settled_of_parse hparse
  have hends := htight.endsPlainly hparse
  refine parse_written_of_settled (hbegins.upTo hwalked) ?_
  obtain ⟨rest, hsegments⟩ := hwalked
  cases hroot : p.explicitRoot with
  | true =>
    have hfull : p.inFull = .name p.root.word :: (walked ++ rest) := by simp [inFull, hroot, hsegments]
    have hto : (p.upTo walked).inFull = .name p.root.word :: walked := by simp [inFull, Path.upTo, hroot]
    rw [hfull] at hsettled hends
    rw [hto]
    refine settled_word _ (Settled.of_append hsettled.2.2 fun key hkey => hends key ?_)
    exact List.mem_cons_of_mem _ (List.mem_append_left _ hkey)
  | false =>
    have hfull : p.inFull = walked ++ rest := by simp [inFull, hroot, hsegments]
    rw [hfull] at hsettled hends
    cases walked with
    | nil =>
      -- nothing has been walked, and the place is the word for the outputs by name
      have hto : (p.upTo []).inFull = [.name p.root.word] := by simp [inFull, Path.upTo]
      rw [hto]
      exact settled_word _ trivial
    | cons segment others =>
      have hto : (p.upTo (segment :: others)).inFull = segment :: others := by
        simp [inFull, Path.upTo, hroot]
      rw [hto]
      exact hsettled.of_append fun key hkey => hends key (List.mem_append_left _ hkey)

/-- **Places lead back.** Take a tight expression that is read as a path but has no value, for a fault of the
path. If this is not that there is no last output, then the path starts from a value and stops at one. The
message quotes a place, the reason is the one that the value gives at which the path stops, and the place in
double braces is an expression with this value. -/
theorem place_leads_back {expression : String} (htight : IsTight expression) {p : Path}
    (hparse : Path.parse expression = .ok p) {text : String} {cause : Cause}
    (hfails : evaluate h run expression = .error (.unresolved text cause)) :
    (cause = .noPreviousStep ∧ p.root = .previousStep ∧ (h.context run).outputs = []) ∨
    ∃ here start u, cause.place? = some here ∧
      (∃ before after, cause.message = before ++ ("\"" ++ here ++ "\"") ++ after) ∧
      Starts h run p.root start ∧ Stops h start p.segments u ∧ cause.reason = hindrance (h.peek u) ∧
      evaluate h run (braced here) = .ok u := by
  rw [evaluate_of_parse hparse] at hfails
  rcases bind_eq_error.mp hfails with hroot | ⟨start, hroot, hwalk⟩
  · obtain ⟨⟨hprevious, hnone⟩, hcause⟩ := rootValue_eq_error.mp hroot
    obtain ⟨-, rfl⟩ := Error.unresolved.inj hcause
    exact .inl ⟨rfl, hprevious, hnone⟩
  · have hstart : Starts h run p.root start := rootValue_eq_ok.mp hroot
    obtain ⟨walked, rest, u, hsegments, hu, hstops, hplace, hreason⟩ := walk_eq_unresolved hwalk
    have hwalked : walked <+: p.segments := ⟨rest, hsegments.symm⟩
    obtain ⟨hbegins, -⟩ := Path.settled_of_parse hparse
    rw [List.nil_append, ← Path.body_upTo hbegins hwalked] at hplace
    refine .inr ⟨_, start, u, hplace, Cause.message_of_place? hplace, hstart, hstops, hreason, ?_⟩
    -- the place is read as the path that has been walked, which comes to the same value once more
    have hback := Path.parse_upTo htight hparse hwalked
    rw [Path.written_eq] at hback
    have hstart' : rootValue h run { p.upTo walked with text := (p.upTo walked).body } = .ok start :=
      rootValue_eq_ok.mpr hstart
    rw [braced, evaluate_of_parse hback, hstart']
    exact (walk_agree h _ p [] [] start walked).eq_ok hu

/-- Where an item of a list is null, the message names the place of this item, and what is found there has the
reason that it is null. -/
theorem shelf_place_leads_back :
    IsTight "\x7b\x7binput.rows[0].x\x7d\x7d" ∧
      evaluate shelf 0 "\x7b\x7binput.rows[0].x\x7d\x7d"
        = .error (.unresolved "input.rows[0].x" (.isNull "input.rows[0]")) ∧
      ∃ u, hindrance (shelf.peek u) = .null ∧ evaluate shelf 0 (braced "input.rows[0]") = .ok u := by
  have htight : IsTight "\x7b\x7binput.rows[0].x\x7d\x7d" := by
    have hplain : "\x7b\x7binput.rows[0].x\x7d\x7d".toList.all (!Text.isBlank ·) = true := by decide
    refine isTight_of_forall fun c hc => ?_
    simpa using List.all_eq_true.mp hplain c (hc.subset List.mem_cons_self)
  have hparse : Path.parse "\x7b\x7binput.rows[0].x\x7d\x7d"
      = .ok ⟨"input.rows[0].x", .input, [.name "rows", .index 0, .name "x"], true⟩ := by decide
  have hfails : evaluate shelf 0 "\x7b\x7binput.rows[0].x\x7d\x7d"
      = .error (.unresolved "input.rows[0].x" (.isNull "input.rows[0]")) := rfl
  obtain ⟨hcause, -⟩ | ⟨here, start, u, hplace, -, -, -, hreason, hback⟩ := place_leads_back htight hparse hfails
  · cases hcause
  · obtain rfl := Option.some.inj hplace
    exact ⟨htight, hfails, u, hreason.symm, hback⟩

/-- A name with a blank in front of its index is not found again without the index. -/
example :
    evaluate [.start (.ofFields [("a ", .list [])])] 0 "\x7b\x7binput.a [0]\x7d\x7d"
        = .error (.unresolved "input.a [0]" (.noProperty "0" "input.a " [])) ∧
      evaluate [.start (.ofFields [("a ", .list [])])] 0 (braced "input.a ")
        = .error (.unresolved "input.a" (.noProperty "a" "input" ["a "])) :=
  ⟨rfl, rfl⟩

end Switchboard.Template
