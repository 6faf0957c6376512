import Switchboard.Proofs.Failure
import Switchboard.Proofs.Http.Verdict

/-!
An endpoint, and a chain that passes its payload through to it, asked by requests with the same payload.

* `answer_eq` — the response of an endpoint is that to its verdict, wherever its answer comes from;
* `refused_of_response`, `unfit_of_response` — the verdict that an error shows;
* `passThrough_agrees` — the chain gives what the endpoint gives, and tells of what it refuses.
-/
namespace Switchboard.Http

variable {L σ : Type}

/-! ### Verdicts from responses -/

/-- An endpoint responds to its verdict, wherever the answer of its handler comes from. -/
theorem answer_eq {call : Chain.Caller L σ} {method : Config.Method} {entry : Entry (Chain.Handler L)}
    {r : Request} {payload : Value} {s : Chain.Session σ} {answer : Except Failure Value}
    (hpayload : payload? method r = some payload)
    (hanswer : Chain.Answers call entry.handler payload requestValue
      (s.noted entry.name payload requestValue) answer) :
    (Http.answer call method entry r s).1.1 = verdictResponse (Chain.verdict entry payload answer) := by
  have heq : handlerAnswer call entry payload s = answer := by
    rw [handlerAnswer, Chain.invoke_eq]
    cases hanswer with
    | fails hcall => rw [hcall]; rfl
    | @gives output data t hcall hshows =>
      rw [hcall]
      exact congrArg Except.ok (hshows t.history rfl fun _ _ => rfl)
  rw [answer_of_payload hpayload, verdictOn, heq]

/-- An endpoint tells of an invalid request only if it does not take the payload. -/
theorem refused_of_response {v : Chain.Verdict} {reports : List Report}
    (h : verdictResponse v
      = Response.json 400 (errorBody "Invalid request" [("details", detailsValue reports)])) :
    ∃ found, v = .refused found ∧ Json.fieldText 0 ("details", detailsValue found)
      = Json.fieldText 0 ("details", detailsValue reports) := by
  have hbody := isWritable_detailsBody "Invalid request" reports
  cases v with
  | refused found => exact ⟨found, rfl, details_of_json_eq h⟩
  | failed e | unfit found | given data => exact absurd (status_of_json_eq hbody h) (by decide)
  | unchecked why =>
    obtain ⟨response, hresponse⟩ := exists_json 400 hbody
    simp [verdictResponse, hresponse] at h

/-- A failure of a handler is not told of as an output that may not be given. -/
theorem json_failureBody_ne (e : Failure) (reports : List Report) :
    Response.json 500 (failureBody e) ≠ Response.json 500
      (errorBody "Handler output failed validation" [("details", detailsValue reports)]) := by
  intro h
  obtain ⟨response, hresponse⟩ :=
    exists_json 500 (isWritable_detailsBody "Handler output failed validation" reports)
  have hfailed := tells_of_failureBody (h.trans hresponse)
  have hunfit : response.Tells 500 "Handler output failed validation" := ⟨_, hresponse⟩
  cases hchain : e.isOfChain with
  | true =>
    rw [if_pos hchain] at hfailed
    exact absurd (hfailed.eq hunfit (by simp [errors]) (by simp [errors])) (by decide)
  | false =>
    rw [if_neg (by simp [hchain])] at hfailed
    exact absurd (hfailed.eq hunfit (by simp [errors]) (by simp [errors])) (by decide)

/-- An endpoint tells of an output that it may not give only if there is one. -/
theorem unfit_of_response {v : Chain.Verdict} {reports : List Report}
    (h : verdictResponse v = Response.json 500
      (errorBody "Handler output failed validation" [("details", detailsValue reports)])) :
    ∃ found, v = .unfit found ∧ Json.fieldText 0 ("details", detailsValue found)
      = Json.fieldText 0 ("details", detailsValue reports) := by
  have hbody := isWritable_detailsBody "Handler output failed validation" reports
  cases v with
  | unfit found => exact ⟨found, rfl, details_of_json_eq h⟩
  | refused found | given data => exact absurd (status_of_json_eq hbody h) (by decide)
  | failed e => exact absurd h (json_failureBody_ne e reports)
  | unchecked why =>
    obtain ⟨response, hresponse⟩ := exists_json 500 hbody
    simp [verdictResponse, hresponse] at h

/-! ### Passing through -/

/-- The body that tells that the first step of a chain, which calls `endpoint`, failed. -/
def firstStepBody (endpoint detail : String) (reports : List Report) : Value :=
  errorBody "Chain execution failed"
    [("detail", .str detail), ("step", .int 0), ("endpoint", .str endpoint),
      ("details", detailsValue reports)]

/-- What the body of a failed first step tells depends on the reports by their text only. -/
theorem json_firstStepBody_congr {endpoint detail : String} {reports reports' : List Report}
    (h : Json.fieldText 0 ("details", detailsValue reports)
      = Json.fieldText 0 ("details", detailsValue reports')) :
    Response.json 500 (firstStepBody endpoint detail reports)
      = Response.json 500 (firstStepBody endpoint detail reports') := by
  have htext : Json.compactText (firstStepBody endpoint detail reports)
      = Json.compactText (firstStepBody endpoint detail reports') := by
    simp only [Json.compactText, firstStepBody, errorBody, Json.write_ofFields, List.mapM_cons, h]
  rw [Response.json, Response.json, htext]

theorem isWritable_firstStepBody (endpoint detail : String) (reports : List Report) :
    Json.IsWritable (firstStepBody endpoint detail reports) := by
  refine Json.isWritable_ofFields ?_
  simp [Json.isWritable_str, isWritable_details, Json.isWritable_zero]

/-- What a chain without schemas makes of the verdict of the endpoint that it passes its payload to. -/
def relayedResponse (endpoint : String) (v : Chain.Verdict) : Except Escape Response :=
  match v.told ⟨0, none, endpoint⟩ with
  | .error e => Response.json 500 (failureBody e)
  | .ok data => Response.json 200 data

theorem relayedResponse_of_error {endpoint : String} {v : Chain.Verdict} {e : Failure}
    (h : v.told ⟨0, none, endpoint⟩ = .error e) :
    relayedResponse endpoint v = Response.json 500 (failureBody e) := by
  rw [relayedResponse, h]

/-- The chain responds to what its step makes of the verdict. -/
theorem relayed_eq {leaves : Chain.Leaves L σ} {registry : Registry (Chain.Handler L)}
    {entry relay : Entry (Chain.Handler L)} {payload : Value} {outcome : Except Failure Value}
    (hentry : registry.lookup entry.name = some entry)
    (hrelay : relay.handler = .chain (Chain.passThrough entry.name))
    (hinput : relay.input = none) (houtput : relay.output = none)
    (hanswers : ∀ s, Chain.Answers (Chain.callHandler leaves registry registry.size) entry.handler
      payload requestValue s outcome)
    {method : Config.Method} {r : Request} (hpayload : payload? method r = some payload)
    (s : Chain.Session σ) :
    (answer (Chain.call leaves registry) method relay r s).1.1
      = relayedResponse entry.name (Chain.verdict entry payload outcome) := by
  have hplain := History.reveal_of_isPlain (payload_isPlain hpayload)
  have hanswer := Chain.passThrough_answers hentry hplain hanswers
    (s.noted relay.name payload requestValue)
  rw [← hrelay] at hanswer
  -- nothing is checked in front of the chain or behind it
  have hverdict (answer : Except Failure Value) :
      verdictResponse (Chain.verdict relay payload answer)
        = match answer with
          | .error e => Response.json 500 (failureBody e)
          | .ok data => Response.json 200 data := by
    rw [Chain.verdict, hinput, houtput]
    cases answer <;> rfl
  rw [relayedResponse, ← hverdict]
  exact answer_eq hpayload hanswer

/-- A response with status 200 is passed through, and no other becomes one. -/
theorem verdictResponse_eq_relayed {response : Response} (hstatus : response.status = 200)
    (endpoint : String) (v : Chain.Verdict) :
    verdictResponse v = .ok response ↔ relayedResponse endpoint v = .ok response := by
  have hne {status : Nat} {body : Value} (hother : status ≠ 200) :
      Response.json status body ≠ .ok response :=
    fun h => hother ((Response.json_eq_ok h).1 ▸ hstatus)
  cases v with
  | given data => rfl
  | refused reports | failed e | unfit reports =>
    rw [verdictResponse, relayedResponse_of_error rfl]
    exact iff_of_false (hne (by decide)) (hne (by decide))
  | unchecked why =>
    rw [relayedResponse_of_error rfl]
    exact iff_of_false (by simp [verdictResponse]) (hne (by decide))

/-- When the step fails as a chain does, the response tells of it. -/
theorem relayedResponse_tells {endpoint : String} {v : Chain.Verdict} {e : Failure}
    {reports : List Report} (h : v.told ⟨0, none, endpoint⟩ = .error e) (hchain : e.isOfChain = true)
    (hplace : e.place? = some ⟨0, none, endpoint⟩)
    (hdetails : Json.fieldText 0 ("details", detailsValue e.details)
      = Json.fieldText 0 ("details", detailsValue reports)) :
    ∃ response, Response.json 500 (firstStepBody endpoint e.message reports) = .ok response ∧
      relayedResponse endpoint v = .ok response := by
  obtain ⟨response, hresponse⟩ :=
    exists_json 500 (isWritable_firstStepBody endpoint e.message reports)
  have hbody : failureBody e = firstStepBody endpoint e.message e.details := by
    rw [failureBody, if_pos hchain, hplace]
    rfl
  refine ⟨response, hresponse, ?_⟩
  rw [relayedResponse_of_error h, hbody, json_firstStepBody_congr hdetails, hresponse]

/-- **Passing through.** Take an endpoint with a name and a handler that answers a payload alike in all
sessions, and a chain without schemas that passes its payload through to it, and ask both by requests
with that payload. Whatever response with status 200 the endpoint has, the chain has, and the other way
round. When the endpoint does not take the payload, or may not give what its handler answers, the chain
tells with status 500 that its step 0, which calls the endpoint, failed, with the same reports. When the
handler fails, the chain tells so of the step, with the message of the failure behind the place.
Endpoints that were read have names (`Config.Endpoint.name_ne_empty_of_read`). -/
theorem passThrough_agrees {leaves : Chain.Leaves L σ} {registry : Registry (Chain.Handler L)}
    {entry relay : Entry (Chain.Handler L)} (hentry : registry.lookup entry.name = some entry)
    (hname : entry.name ≠ "") (hrelay : relay.handler = .chain (Chain.passThrough entry.name))
    (hinput : relay.input = none) (houtput : relay.output = none) {payload : Value}
    (hdeterministic : Chain.Deterministic leaves registry entry.handler payload requestValue)
    {method method' : Config.Method} {r r' : Request} (hpayload : payload? method r = some payload)
    (hpayload' : payload? method' r' = some payload) (s s' : Chain.Session σ) :
    let direct := (answer (Chain.call leaves registry) method entry r s).1.1
    let relayed := (answer (Chain.call leaves registry) method' relay r' s').1.1
    (∀ response, response.status = 200 → (direct = .ok response ↔ relayed = .ok response)) ∧
    (∀ reports,
      direct = Response.json 400 (errorBody "Invalid request" [("details", detailsValue reports)]) ∨
      direct = Response.json 500
        (errorBody "Handler output failed validation" [("details", detailsValue reports)]) →
      ∃ detail response, Response.json 500 (firstStepBody entry.name detail reports) = .ok response ∧
        relayed = .ok response) ∧
    ∀ e, Chain.Admits entry.input payload →
      (Chain.invoke (Chain.call leaves registry) entry payload requestValue s).1 = .error e →
      ∃ response, Response.json 500 (firstStepBody entry.name
          ("Chain step 0 (endpoint \"" ++ entry.name ++ "\"): handler failed: " ++ e.message) [])
        = .ok response ∧ relayed = .ok response := by
  obtain ⟨outcome, hanswers⟩ := hdeterministic
  intro direct relayed
  have hcall := hanswers (registry.size + 1) (Nat.le_succ _)
    (s.noted entry.name payload requestValue)
  have hdirect : direct = verdictResponse (Chain.verdict entry payload outcome) :=
    answer_eq hpayload hcall
  have hrelayed : relayed = relayedResponse entry.name (Chain.verdict entry payload outcome) :=
    relayed_eq hentry hrelay hinput houtput (hanswers registry.size (Nat.le_refl _)) hpayload' s'
  refine ⟨fun response hstatus => ?_, fun reports h => ?_, fun e hadmits hfails => ?_⟩
  · rw [hdirect, hrelayed]
    exact verdictResponse_eq_relayed hstatus entry.name _
  · rw [hdirect] at h
    rw [hrelayed]
    rcases h with h | h
    · obtain ⟨found, hverdict, hdetails⟩ := refused_of_response h
      rw [hverdict]
      exact ⟨_, relayedResponse_tells rfl rfl rfl hdetails⟩
    · obtain ⟨found, hverdict, hdetails⟩ := unfit_of_response h
      rw [hverdict]
      exact ⟨_, relayedResponse_tells rfl rfl rfl hdetails⟩
  · -- the handler has the outcome that it has in every session
    obtain rfl : outcome = .error e := by
      rw [Chain.invoke_eq, Chain.call, Chain.depth] at hfails
      cases hcall with
      | gives hcall => rw [hcall] at hfails; simp at hfails
      | fails hcall => rw [hcall] at hfails; exact hfails
    have hverdict : Chain.verdict entry payload (.error e) = .failed e := by
      rw [Chain.verdict, Chain.reportsOn_eq_nil.mpr hadmits]
      rfl
    rw [← Failure.message_first hname, hrelayed, hverdict]
    exact relayedResponse_tells rfl rfl rfl rfl

/-- A request with null for its payload. -/
def nullRequest : Request := ⟨"localhost", "POST", "/", "", [0x6E, 0x75, 0x6C, 0x6C]⟩

/-- The endpoint that answers, or the one that does not. -/
def leafEntry (answers : Bool) : Entry (Chain.Handler Bool) :=
  ⟨if answers then "echo" else "refuse", .leaf answers, none, none⟩

/-- A chain that passes its payload through to an endpoint. -/
def relayTo (endpoint : String) : Entry (Chain.Handler Bool) :=
  ⟨"relay", .chain (Chain.passThrough endpoint), none, none⟩

theorem passThrough_null :
    payload? .post nullRequest = some .null ∧
    (∀ answers, Chain.refusingRegistry.lookup (leafEntry answers).name = some (leafEntry answers) ∧
      Chain.Deterministic Chain.echoOrRefuse Chain.refusingRegistry (leafEntry answers).handler .null
        requestValue) ∧
    (∀ response, response.status = 200 →
      ((answer (Chain.call Chain.echoOrRefuse Chain.refusingRegistry) .post (leafEntry true)
          nullRequest (.start ())).1.1 = .ok response ↔
        (answer (Chain.call Chain.echoOrRefuse Chain.refusingRegistry) .post (relayTo "echo")
          nullRequest (.start ())).1.1 = .ok response)) ∧
    ∃ response, Response.json 500 (firstStepBody "refuse"
        ("Chain step 0 (endpoint \"" ++ "refuse" ++ "\"): handler failed: " ++ "no") [])
          = .ok response ∧
      (answer (Chain.call Chain.echoOrRefuse Chain.refusingRegistry) .post (relayTo "refuse")
        nullRequest (.start ())).1.1 = .ok response := by
  have hpayload : payload? .post nullRequest = some .null := rfl
  have hentry : ∀ answers,
      Chain.refusingRegistry.lookup (leafEntry answers).name = some (leafEntry answers) := by
    intro answers
    cases answers <;> rfl
  have hdeterministic : ∀ answers, Chain.Deterministic Chain.echoOrRefuse Chain.refusingRegistry
      (leafEntry answers).handler .null requestValue := by
    intro answers
    refine Chain.deterministic_leaf _ (fun _ _ => rfl) fun data hdata h => ?_
    cases answers with
    | true =>
      obtain rfl : .null = data := Except.ok.inj hdata
      rfl
    | false => exact absurd hdata (by rintro ⟨⟩)
  have hgives := passThrough_agrees (hentry true) (by decide) (show (relayTo "echo").handler = _ from rfl)
    rfl rfl (hdeterministic true) hpayload hpayload (.start ()) (.start ())
  have hrefuses := passThrough_agrees (hentry false) (by decide)
    (show (relayTo "refuse").handler = _ from rfl) rfl rfl (hdeterministic false) hpayload hpayload
    (.start ()) (.start ())
  exact ⟨hpayload, fun answers => ⟨hentry answers, hdeterministic answers⟩, hgives.1,
    hrefuses.2.2 (.raised .state "no") (Chain.admits_none _) rfl⟩

end Switchboard.Http
