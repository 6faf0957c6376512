import Switchboard.Proofs.Template.Apart
import Switchboard.Proofs.Template.History
import Switchboard.Proofs.Template.Walk
import Switchboard.Proofs.Template.Written

/-!
The ways to name the output of a step.

* `valueAt` — the value at the end of segments, and `evaluate_onward`, that an expression has it which begins
  with written segments and goes on from there;
* `valueAt_steps`, `valueAt_stepsByName`, `valueAt_name`, `valueAt_previousStep` — the four ways come to the
  same output, from which they go on alike;
* `evaluate_input_of_apart` — what the input stands for does not depend on what was recorded;
* `names_agree` — all of this for the records of a run.
-/
namespace Switchboard.Template

/-- An expression between double braces. -/
def braced (body : String) : String := "\x7b\x7b" ++ body ++ "\x7d\x7d"

/-- The value at the end of segments, the first of which may be the word for a root. -/
def valueAt (h : History) (run : Nat) (segments : List Segment) : Except Error Value := do
  let path ← Path.ofSegments "" segments
  let start ← rootValue h run path
  walk h path [] start path.segments

variable {h h' : History} {run : Nat}

/-! ### Expressions that go on -/

/-- How segments are written makes no difference to the value at their end. -/
theorem valueAt_agree (h : History) (run : Nat) (text : String) (segments : List Segment) :
    Agree (Path.ofSegments text segments >>= fun path =>
      rootValue h run path >>= fun start => walk h path [] start path.segments)
      (valueAt h run segments) := by
  have hpath : ∀ path path' : Path, path'.root = path.root → path'.segments = path.segments →
      Agree (rootValue h run path >>= fun start => walk h path [] start path.segments)
        (rootValue h run path' >>= fun start => walk h path' [] start path'.segments) :=
    fun path path' hroot hsegments => path_agree h run hroot (by rw [hsegments])
  rw [valueAt, Path.ofSegments.eq_def, Path.ofSegments.eq_def]
  split
  · next key rest =>
    cases Root.ofWord? key with
    | some root => exact hpath ⟨text, root, rest, true⟩ ⟨"", root, rest, true⟩ rfl rfl
    | none =>
      exact hpath ⟨text, .stepsByName, .name key :: rest, false⟩
        ⟨"", .stepsByName, .name key :: rest, false⟩ rfl rfl
  · rfl

/-- The characters of an expression in double braces. -/
theorem toList_braced {body q : String} {cs : List Char} (hbody : body.toList = cs) :
    (braced (body ++ q)).toList = opening ++ (cs ++ q.toList) ++ closing := by
  have hbraces : "\x7b\x7b".toList = opening ∧ "\x7d\x7d".toList = closing := ⟨rfl, rfl⟩
  rw [braced, String.toList_append, String.toList_append, String.toList_append, hbody, hbraces.1,
    hbraces.2]

/-- An expression that begins with written segments has the value at the end of these and of those with
which it goes on. -/
theorem evaluate_onward {key : String} {rest : List Segment} (hsettled : Settled (.name key :: rest))
    {body q : String} (hbody : body.toList = bodyText key rest) (hq : GoesOn q.toList) (h : History)
    (run : Nat) :
    byReason (evaluate h run (braced (body ++ q)))
      = onwardSegments (Text.stripEnd q.toList) >>= fun more =>
          byReason (valueAt h run (.name key :: (rest ++ more))) := by
  have hparse := parse_of_settled hsettled hq (toList_braced hbody)
  rw [evaluate, byReason_bind, hparse]
  cases onwardSegments (Text.stripEnd q.toList) with
  | error e => rfl
  | ok more =>
    have hvalue := valueAt_agree h run
      (String.ofList (bodyText key rest ++ Text.stripEnd q.toList)) (.name key :: (rest ++ more))
    rw [Agree, byReason_bind] at hvalue
    exact hvalue

/-- Expressions agree if their beginnings do, whatever they go on with. -/
theorem evaluate_agree {key key' : String} {rest rest' : List Segment}
    (hsettled : Settled (.name key :: rest)) (hsettled' : Settled (.name key' :: rest'))
    (hagree : ∀ more, Agree (valueAt h run (.name key :: (rest ++ more)))
      (valueAt h run (.name key' :: (rest' ++ more))))
    {body body' q : String} (hbody : body.toList = bodyText key rest)
    (hbody' : body'.toList = bodyText key' rest') (hq : GoesOn q.toList) :
    Agree (evaluate h run (braced (body ++ q))) (evaluate h run (braced (body' ++ q))) := by
  rw [Agree, evaluate_onward hsettled hbody hq, evaluate_onward hsettled' hbody' hq]
  exact congrArg _ (funext fun more => hagree more)

theorem bodyText_nil (key : String) : key.toList = bodyText key [] := (List.append_nil _).symm

theorem bodyText_singleton (key : String) (segment : Segment) :
    (key ++ segment.written).toList = bodyText key [segment] := by
  simp [bodyText, writtenText]

/-- The word for a root can stand in front of settled segments. -/
theorem settled_word (root : Root) {rest : List Segment} (hrest : Settled rest) :
    Settled (.name root.word :: rest) :=
  ⟨(Path.isName_word root).1, .inl (Path.isName_word root).2, hrest⟩

/-! ### Four ways to an output -/

/-- Behind the word for a root, segments lead on from what the root stands for. -/
theorem valueAt_of_starts {root : Root} {start : Value} (hstart : Starts h run root start)
    (more : List Segment) :
    valueAt h run (.name root.word :: more) = walk h ⟨"", root, more, true⟩ [] start more := by
  have hroot : rootValue h run ⟨"", root, more, true⟩ = .ok start := rootValue_eq_ok.mpr hstart
  simp only [valueAt, Path.ofSegments, Root.ofWord?_word, bind, Except.bind, hroot]

/-- Behind a name that is reserved for no root, segments lead on from the outputs by name. -/
theorem valueAt_of_ofWord?_eq_none {name : String} (hword : Root.ofWord? name = none)
    (more : List Segment) :
    valueAt h run (.name name :: more)
      = walk h ⟨"", .stepsByName, .name name :: more, false⟩ [] (.shared run .named)
          (.name name :: more) := by
  simp only [valueAt, Path.ofSegments, hword, bind, Except.bind, rootValue]

/-- Once a step has been taken, it makes no difference where from. -/
theorem walk_cons_agree {v w : Value} {segment : Segment}
    (hstep : ∀ path here, step h path here v segment = .ok w) (path path' : Path)
    (walked : List Segment) (more : List Segment) :
    Agree (walk h path walked v (segment :: more)) (walk h path' [] w more) := by
  rw [walk, hstep]
  exact walk_agree h path path' (walked ++ [segment]) [] w more

variable {output : Value}

/-- An output is found at its position. -/
theorem valueAt_steps {i : Nat} (houtput : (h.context run).outputs[i]? = some output) (path : Path)
    (more : List Segment) :
    Agree (valueAt h run (.name "steps" :: .index i :: more)) (walk h path [] output more) := by
  have hstep : ∀ path here, step h path here (.shared run .outputs) (.index i) = .ok output := by
    intro path here
    have hitems : h.peek (.shared run .outputs) = .list (h.context run).outputs := rfl
    rw [step_of_items (.inl hitems)]
    simp [position?, Except.bind, houtput]
  have hword := valueAt_of_starts (Starts.steps : Starts h run .steps _) (.index i :: more)
  exact hword ▸ walk_cons_agree hstep _ path [] more

/-- What the outputs by name have under a name is found there. -/
theorem step_named {name : String} (hname : (h.context run).named.lookup name = some output)
    (path here : String) : step h path here (.shared run .named) (.name name) = .ok output := by
  obtain ⟨members, hmembers, hget⟩ := h.peek_named run
  simp only [step, hmembers, Segment.text, hget, hname]

/-- A named output is found under its name. -/
theorem valueAt_stepsByName {name : String}
    (hname : (h.context run).named.lookup name = some output) (path : Path) (more : List Segment) :
    Agree (valueAt h run (.name "stepsByName" :: .name name :: more)) (walk h path [] output more) := by
  have hword := valueAt_of_starts (Starts.stepsByName : Starts h run .stepsByName _)
    (.name name :: more)
  exact hword ▸ walk_cons_agree (step_named hname) _ path [] more

/-- A name that is reserved for no root does not need the word in front. -/
theorem valueAt_name {name : String} (hname : (h.context run).named.lookup name = some output)
    (hword : Root.ofWord? name = none) (path : Path) (more : List Segment) :
    Agree (valueAt h run (.name name :: more)) (walk h path [] output more) := by
  rw [valueAt_of_ofWord?_eq_none hword]
  exact walk_cons_agree (step_named hname) _ path [] more

/-- The last output has a word of its own. -/
theorem valueAt_previousStep (hlast : (h.context run).outputs.getLast? = some output) (path : Path)
    (more : List Segment) :
    Agree (valueAt h run (.name "previousStep" :: more)) (walk h path [] output more) := by
  have hword := valueAt_of_starts (.previousStep hlast) more
  exact hword ▸ walk_agree h _ path [] [] output more

/-- Where an expression comes to an output, it agrees with the position of that output, whatever it goes on
with. -/
theorem agree_with_steps {i : Nat} (hi : i < 10 ^ Json.maxDigits)
    (houtput : (h.context run).outputs[i]? = some output) {key : String} {rest : List Segment}
    (hsettled : Settled (.name key :: rest))
    (hvalue : ∀ path more,
      Agree (valueAt h run (.name key :: (rest ++ more))) (walk h path [] output more))
    {body q : String} (hbody : body.toList = bodyText key rest) (hq : GoesOn q.toList) :
    Agree (evaluate h run (braced (body ++ q)))
      (evaluate h run (braced ("steps[" ++ toString i ++ "]" ++ q))) := by
  have htext : "steps[" ++ toString i ++ "]" = "steps" ++ (Segment.index i).written := by
    simp [Segment.written, ← String.append_assoc]
  have hsteps : Settled [.name "steps", .index i] := settled_word .steps ⟨hi, trivial⟩
  have hbody' : ("steps[" ++ toString i ++ "]").toList = bodyText "steps" [.index i] := by
    rw [htext, bodyText_singleton]
  refine evaluate_agree hsettled hsteps (fun more => ?_) hbody hbody' hq
  exact (hvalue ⟨"", .steps, [], true⟩ more).trans (valueAt_steps houtput _ more).symm

/-! ### The input -/

/-- A path leads on from a value apart from a run as before, where nothing but this run has changed. -/
theorem walk_of_apart (hothers : ∀ run', run' ≠ run → h'.context run' = h.context run') {path : Path}
    {walked segments : List Segment} {v : Value} (hv : h.Apart run v) :
    walk h' path walked v segments = walk h path walked v segments := by
  induction segments generalizing walked v with
  | nil => rfl
  | cons segment rest ih =>
    rw [walk, walk]
    have hstep : ∀ here, step h' path.text here v segment = step h path.text here v segment := by
      intro here
      rw [step, step, History.peek_of_apart hothers hv]
    simp only [hstep]
    cases hnext : step h path.text (place (if path.explicitRoot then some path.root else none) walked) v
      segment with
    | error e => rfl
    | ok next =>
      have hapart : h.Apart run next := by
        cases enters_of_step hnext with
        | member hmembers hget =>
          obtain ⟨k, hmem⟩ := Members.mem_of_get? hget
          exact hv.member hmembers hmem
        | item hitems _ hget => exact hv.item hitems (List.mem_of_getElem? hget)
      exact ih hapart

/-- What is asked of the input depends on the input only. -/
theorem evaluate_input_of_apart (hothers : ∀ run', run' ≠ run → h'.context run' = h.context run')
    (hinput : (h'.context run).input = (h.context run).input)
    (hapart : h.Apart run (h.context run).input) {q : String} (hq : GoesOn q.toList) :
    evaluate h' run (braced ("input" ++ q)) = evaluate h run (braced ("input" ++ q)) := by
  have hsettled : Settled [.name "input"] := settled_word .input trivial
  have hread := parse_of_settled hsettled hq (toList_braced (bodyText_nil "input"))
  rw [evaluate, evaluate]
  cases hparse : Path.parse (braced ("input" ++ q)) with
  | error e => rfl
  | ok path =>
    rw [hparse, byReason_ok] at hread
    obtain ⟨more, -, hpath⟩ := bind_eq_ok.mp hread.symm
    obtain rfl : (⟨_, .input, more, true⟩ : Path) = path := Except.ok.inj (byReason_eq_ok.mp hpath)
    simp only [bind, Except.bind, rootValue, hinput]
    exact walk_of_apart hothers hapart

/-! ### Records -/

/-- A name that can stand in a path: not empty, without dots and brackets, and without blanks at its
ends. -/
structure IsPlainName (name : String) : Prop where
  ne_empty : name ≠ ""
  plain : ∀ c ∈ name.toList, c ≠ '.' ∧ c ≠ '[' ∧ c ≠ ']'
  stripped : Text.stripped name = name

/-- **Names agree.** Take a run with any records, whose positions are not too long to be read, and anything
that a path can go on with: nothing, or text that begins with a dot or with the bracket of an index. A plain
name and the position at which it was recorded last then have the same value, or fail for the same reason.
So do the name as a shorthand, unless it is the word for a root, and the word for the last output with the
last position. What is asked of the input depends on the payload only, which was there before the
collections of the run: it is the same in any history that differs in the records of this run. -/
theorem names_agree {payload : Value} {records : List (Value × Option String)}
    (hcontext : h.context run = (Context.start payload).recordAll records)
    (hcount : records.length ≤ 10 ^ Json.maxDigits) {q : String} (hq : GoesOn q.toList) :
    (∀ name i, IsPlainName name → Context.LastUnder records name i →
      Agree (evaluate h run (braced ("stepsByName." ++ name ++ q)))
        (evaluate h run (braced ("steps[" ++ toString i ++ "]" ++ q))) ∧
      (Root.ofWord? name = none →
        Agree (evaluate h run (braced (name ++ q)))
          (evaluate h run (braced ("steps[" ++ toString i ++ "]" ++ q))))) ∧
    (records ≠ [] →
      Agree (evaluate h run (braced ("previousStep" ++ q)))
        (evaluate h run (braced ("steps[" ++ toString (records.length - 1) ++ "]" ++ q)))) ∧
    (h.Apart run payload → ∀ h' : History, (h'.context run).input = payload →
      (∀ run', run' ≠ run → h'.context run' = h.context run') →
        evaluate h' run (braced ("input" ++ q)) = evaluate h run (braced ("input" ++ q))) := by
  have houtputs : (h.context run).outputs = records.map Prod.fst := by
    rw [hcontext, Context.outputs_recordAll]
    rfl
  have hinput : (h.context run).input = payload := by
    rw [hcontext, Context.input_recordAll]
    rfl
  have hposition : ∀ {i output}, (h.context run).outputs[i]? = some output →
      i < 10 ^ Json.maxDigits := by
    intro i output houtput
    obtain ⟨hi, -⟩ := List.getElem?_eq_some_iff.mp houtput
    rw [houtputs, List.length_map] at hi
    exact Nat.lt_of_lt_of_le hi hcount
  refine ⟨fun name i hplain hlast => ?_, fun hne => ?_, fun hapart h' hinput' hothers => ?_⟩
  · obtain ⟨output, hname, houtput⟩ :=
      Context.lookup_recordAll (Context.start payload) hlast hplain.ne_empty
    rw [← hcontext] at hname
    rw [← houtputs] at houtput
    obtain ⟨hkey, hend⟩ := Path.isName_of_plain hplain.ne_empty hplain.plain hplain.stripped
    have hsettled : Settled [.name name] := ⟨hkey, .inl hend, trivial⟩
    have htext : "stepsByName." ++ name = "stepsByName" ++ (Segment.name name).written := by
      simp [Segment.written, ← String.append_assoc]
    have hbody : ("stepsByName." ++ name).toList = bodyText "stepsByName" [.name name] := by
      rw [htext, bodyText_singleton]
    have hi := hposition houtput
    exact ⟨agree_with_steps hi houtput (settled_word .stepsByName hsettled) (valueAt_stepsByName hname)
        hbody hq,
      fun hword => agree_with_steps hi houtput hsettled (valueAt_name hname hword) (bodyText_nil name) hq⟩
  · have hlength : (h.context run).outputs.length = records.length := by
      rw [houtputs, List.length_map]
    obtain ⟨output, hlast⟩ : ∃ output, (h.context run).outputs.getLast? = some output := by
      refine Option.ne_none_iff_exists'.mp fun hnone => hne ?_
      rw [List.getLast?_eq_none_iff, houtputs, List.map_eq_nil_iff] at hnone
      exact hnone
    have houtput : (h.context run).outputs[records.length - 1]? = some output := by
      rw [← hlength, ← List.getLast?_eq_getElem?, hlast]
    have hsettled : Settled [.name "previousStep"] := settled_word .previousStep trivial
    exact agree_with_steps (hposition houtput) houtput hsettled (valueAt_previousStep hlast)
      (bodyText_nil "previousStep") hq
  · exact evaluate_input_of_apart hothers (hinput'.trans hinput.symm) (hinput ▸ hapart) hq

/-- Four outputs, the first and third under the same name, the others under none. -/
def repeats : List (Value × Option String) :=
  [(.int 1, some "first"), (.int 2, some ""), (.ofFields [("x", .int 3)], some "first"), (.int 4, none)]

/-- A name recorded twice stands for its second output, and fails with it; the last output has no name. -/
theorem repeats_agree :
    repeats.length ≤ 10 ^ Json.maxDigits ∧ GoesOn ".x".toList ∧ IsPlainName "first" ∧
      Context.LastUnder repeats "first" 2 ∧ Root.ofWord? "first" = none ∧
      evaluate [(Context.start (.int 7)).recordAll repeats] 0 (braced "stepsByName.first.x")
        = .ok (.int 3) ∧
      evaluate [(Context.start (.int 7)).recordAll repeats] 0 (braced "first.x") = .ok (.int 3) ∧
      Agree (evaluate [(Context.start (.int 7)).recordAll repeats] 0 (braced "previousStep.x"))
        (evaluate [(Context.start (.int 7)).recordAll repeats] 0 (braced "steps[3].x")) ∧
      evaluate [Context.start (.int 7)] 0 (braced "input.x")
        = evaluate [(Context.start (.int 7)).recordAll repeats] 0 (braced "input.x") := by
  have hcount : repeats.length ≤ 10 ^ Json.maxDigits :=
    calc repeats.length ≤ 10 ^ 1 := by decide
      _ ≤ 10 ^ Json.maxDigits := Nat.pow_le_pow_right (by decide) (by decide)
  have hq : GoesOn ".x".toList := by
    intro c hc
    obtain rfl : '.' = c := by simpa using hc
    exact .inl rfl
  have hplain : IsPlainName "first" := ⟨by decide, Path.plain_of_all (by decide), by decide⟩
  have hlast : Context.LastUnder repeats "first" 2 := ⟨rfl, by simp [repeats]⟩
  have hword : Root.ofWord? "first" = none := by decide
  obtain ⟨hnames, hprevious, hinput⟩ := names_agree
    (rfl : History.context [(Context.start (.int 7)).recordAll repeats] 0 = _) hcount hq
  obtain ⟨hname, hshort⟩ := hnames "first" 2 hplain hlast
  have hvalue : evaluate [(Context.start (.int 7)).recordAll repeats] 0 (braced "steps[2].x")
      = .ok (.int 3) := rfl
  have hothers : ∀ run', run' ≠ 0 → History.context [Context.start (.int 7)] run'
      = History.context [(Context.start (.int 7)).recordAll repeats] run' := by
    intro run' hne
    obtain ⟨n, rfl⟩ := Nat.exists_eq_succ_of_ne_zero hne
    rfl
  refine ⟨hcount, hq, hplain, hlast, hword, hname.eq_ok hvalue, (hshort hword).eq_ok hvalue,
    hprevious (by decide), ?_⟩
  exact hinput (History.apart_of_isPlain (fun _ => rfl) _ 0) _ rfl hothers

/-- A name that is the word for a root needs the other word in front. -/
example : evaluate [(Context.start (.int 7)).record (.int 1) (some "input")] 0 (braced "input")
      = .ok (.int 7) ∧
    evaluate [(Context.start (.int 7)).record (.int 1) (some "input")] 0 (braced "stepsByName.input")
      = .ok (.int 1) := ⟨rfl, rfl⟩

end Switchboard.Template
