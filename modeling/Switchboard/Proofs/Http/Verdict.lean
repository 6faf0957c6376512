import Switchboard.Proofs.Chain.PassThrough
import Switchboard.Proofs.Http.Answer
import Switchboard.Proofs.Http.Payload
import Switchboard.Proofs.Json.Writer

/-!
What an endpoint makes of a payload, and how it tells of it.

* `handlerAnswer`, `verdictOn` — what the handler of an endpoint answers to a payload, and what becomes of
  the payload;
* `answer_of_payload` — the response and the log are those for the verdict;
* `session_of_admits`, `session_of_not_admits` — the session afterwards is that which one call of the
  handler leaves, or the one before where the handler is not called;
* `isPrefix_errorBody`, `details_of_json_eq` — what can be told from the body of an error;
* `Response.Tells`, `Response.Tells.eq` — a response tells of one error only.
-/
namespace Switchboard.Http

variable {L σ : Type}

/-! ### Responses to verdicts -/

/-- The response to what became of a payload. -/
def verdictResponse : Chain.Verdict → Except Escape Response
  | .refused reports =>
    Response.json 400 (errorBody "Invalid request" [("details", detailsValue reports)])
  | .failed e => Response.json 500 (failureBody e)
  | .unfit reports =>
    Response.json 500
      (errorBody "Handler output failed validation" [("details", detailsValue reports)])
  | .unchecked why => .error (.checking why)
  | .given data => Response.json 200 data

/-- What the log says of a verdict: only the failure of a handler leaves a line. -/
def verdictLog (endpoint : String) : Chain.Verdict → List LogLine
  | .failed e => [failureLine endpoint e]
  | _ => []

section Verdict

variable (call : Chain.Caller L σ) (entry : Entry (Chain.Handler L)) (payload : Value)
  (s : Chain.Session σ)

/-- What the handler of an endpoint answers to a payload: the data that its output shows, or its
failure. -/
def handlerAnswer : Except Failure Value :=
  let called := Chain.invoke call entry payload requestValue s
  called.1.map called.2.history.reveal

/-- What becomes of a payload at an endpoint in a session. -/
def verdictOn : Chain.Verdict := Chain.verdict entry payload (handlerAnswer call entry payload s)

variable {call entry payload s} {method : Config.Method} {r : Request}

/-- A request whose payload can be read is answered as the verdict on the payload asks. -/
theorem answer_of_payload (hpayload : payload? method r = some payload) :
    (answer call method entry r s).1
      = (verdictResponse (verdictOn call entry payload s),
          verdictLog entry.name (verdictOn call entry payload s)) := by
  -- a payload shares nothing with the runs of the session, so it is checked as it was read
  have hplain := History.reveal_of_isPlain (payload_isPlain hpayload) s.history
  rw [answer, hpayload, verdictOn, Chain.verdict]
  dsimp only
  rw [Chain.rejections_eq, hplain]
  cases Chain.reportsOn entry.input payload with
  | error why => rfl
  | ok reports =>
    cases reports with
    | cons report rest => rfl
    | nil =>
      dsimp only
      rw [answerCall, handlerAnswer]
      rcases Chain.invoke call entry payload requestValue s with ⟨e | output, t⟩
      · rfl
      · dsimp only [Except.map, Chain.Verdict.ofAnswer]
        rw [outputResponse, Chain.rejections_eq]
        cases Chain.reportsOn entry.output (t.history.reveal output) with
        | error why => rfl
        | ok reports => cases reports <;> rfl

end Verdict

/-! ### Bodies of errors -/

theorem isWritable_details (reports : List Report) : Json.IsWritable (detailsValue reports) := by
  refine Json.isWritable_list fun v hv => ?_
  obtain ⟨report, -, rfl⟩ := List.mem_map.mp hv
  refine Json.isWritable_ofFields ?_
  simp [Json.isWritable_str]

/-- What is writable can be answered. -/
theorem exists_json (status : Nat) {v : Value} (h : Json.IsWritable v) :
    ∃ response, Response.json status v = .ok response := by
  obtain ⟨text, htext⟩ := h 0
  exact ⟨_, by rw [Response.json, Json.compactText, htext]⟩

/-- Responses that are alike have one status. -/
theorem status_of_json_eq {status status' : Nat} {v w : Value} (hw : Json.IsWritable w)
    (h : Response.json status v = Response.json status' w) : status = status' := by
  obtain ⟨response, hresponse⟩ := exists_json status' hw
  rw [hresponse] at h
  rw [← (Response.json_eq_ok h).1, ← (Response.json_eq_ok hresponse).1]

/-- The member of the body of an error that names it. -/
def errorText (error : String) : String :=
  Json.stringText false "error" ++ ":" ++ Json.stringText false error

/-- The body of an error begins with the word for it. -/
theorem isPrefix_errorBody {error text : String} {more : List (String × Value)}
    (h : Json.compactText (errorBody error more) = .ok text) :
    ("\x7b" ++ errorText error).toList <+: text.toList := by
  rw [Json.compactText, errorBody, Json.write_ofFields] at h
  obtain ⟨texts, htexts, rfl⟩ := map_eq_ok.mp h
  rw [List.mapM_cons, Json.fieldText_str] at htexts
  obtain ⟨first, hfirst, htexts⟩ := bind_eq_ok.mp htexts
  obtain rfl : errorText error = first := Except.ok.inj hfirst
  obtain ⟨others, -, hcons⟩ := bind_eq_ok.mp htexts
  obtain rfl : errorText error :: others = texts := Except.ok.inj hcons
  cases others with
  | nil => simp [Text.join, String.toList_append]
  | cons other rest => simp [Text.join, String.toList_append]

theorem compactText_details {error text : String} {details : Value}
    (h : Json.fieldText 0 ("details", details) = .ok text) :
    Json.compactText (errorBody error [("details", details)])
      = .ok ("\x7b" ++ (errorText error ++ "," ++ text) ++ "\x7d") := by
  rw [Json.compactText, errorBody, Json.write_ofFields, List.mapM_cons, Json.fieldText_str,
    List.mapM_cons, h]
  rfl

/-- Two bodies of one error are alike only if their details are. -/
theorem details_of_json_eq {status : Nat} {error : String} {reports reports' : List Report}
    (h : Response.json status (errorBody error [("details", detailsValue reports)])
      = Response.json status (errorBody error [("details", detailsValue reports')])) :
    Json.fieldText 0 ("details", detailsValue reports)
      = Json.fieldText 0 ("details", detailsValue reports') := by
  have hfield (reports : List Report) :
      ∃ text, Json.fieldText 0 ("details", detailsValue reports) = .ok text := by
    obtain ⟨text, htext⟩ := isWritable_details reports 1
    exact ⟨_, map_eq_ok.mpr ⟨text, htext, rfl⟩⟩
  obtain ⟨text, htext⟩ := hfield reports
  obtain ⟨text', htext'⟩ := hfield reports'
  rw [Response.json, Response.json, compactText_details htext, compactText_details htext'] at h
  have hbody := congrArg Response.body (Except.ok.inj h)
  rw [htext, htext']
  simpa using hbody

theorem isWritable_detailsBody (error : String) (reports : List Report) :
    Json.IsWritable (errorBody error [("details", detailsValue reports)]) := by
  refine Json.isWritable_ofFields ?_
  simp [Json.isWritable_str, isWritable_details]

/-! ### What responses tell -/

/-- A response tells of an error: its status is `status`, and its body is one of that error. -/
def Response.Tells (response : Response) (status : Nat) (error : String) : Prop :=
  ∃ more, Response.json status (errorBody error more) = .ok response

/-- The words for the errors of an endpoint. -/
def errors : List String :=
  ["Invalid JSON body", "Invalid request", "Chain execution failed", "Handler error",
    "Handler output failed validation"]

/-- No body of an error begins like the body of another. -/
theorem errors_apart :
    ∀ error ∈ errors, ∀ error' ∈ errors,
      ("\x7b" ++ errorText error).toList <+: ("\x7b" ++ errorText error').toList → error = error' := by
  decide

/-- A response tells of one error only. -/
theorem Response.Tells.eq {response : Response} {status status' : Nat} {error error' : String}
    (h : response.Tells status error) (h' : response.Tells status' error') (herror : error ∈ errors)
    (herror' : error' ∈ errors) : error = error' := by
  obtain ⟨more, h⟩ := h
  obtain ⟨more', h'⟩ := h'
  have hbegins := isPrefix_errorBody (Response.json_eq_ok h).2
  have hbegins' := isPrefix_errorBody (Response.json_eq_ok h').2
  rcases List.prefix_or_prefix_of_prefix hbegins hbegins' with hpre | hpre
  · exact errors_apart _ herror _ herror' hpre
  · exact (errors_apart _ herror' _ herror hpre).symm

/-- A failure of a handler is told of as that of a chain, or as that of a handler. -/
theorem tells_of_failureBody {e : Failure} {response : Response}
    (h : Response.json 500 (failureBody e) = .ok response) :
    response.Tells 500 (if e.isOfChain then "Chain execution failed" else "Handler error") := by
  rw [failureBody] at h
  split at h
  · next hchain => exact ⟨_, by rw [if_pos hchain]; exact h⟩
  · next hchain => exact ⟨_, by rw [if_neg hchain]; exact h⟩

end Switchboard.Http
