import Switchboard.Http.Route
import Switchboard.Proofs.Chain.Step
import Switchboard.Proofs.Handlers.Build

/-!
The answer of an endpoint to a request.

* `answer_cases` — the handler is called with a payload that the endpoint takes, or nothing happens and
  the answer is an error;
* `answerCall_ok` — an answer with status 200 is the JSON text of an output that the endpoint may give.
-/
namespace Switchboard.Http

variable {L σ : Type} {call : Chain.Caller L σ} {entry : Entry (Chain.Handler L)}

/-- A response in JSON has the status that it is given and the text of its value. -/
theorem Response.json_eq_ok {status : Nat} {v : Value} {response : Response}
    (h : Response.json status v = .ok response) :
    response.status = status ∧ Json.compactText v = .ok response.body := by
  rw [Response.json] at h
  cases htext : Json.compactText v with
  | error e => simp [htext] at h
  | ok body =>
    rw [htext] at h
    obtain rfl := Except.ok.inj h
    exact ⟨rfl, rfl⟩

/-- An output is answered with status 200 only if the endpoint may give it. -/
theorem outputResponse_ok {schema : Option Schema} {h : History} {output : Value}
    {response : Response} (hresponse : outputResponse schema h output = .ok response)
    (hstatus : response.status = 200) :
    Chain.Admits schema (h.reveal output) ∧
      Json.compactText (h.reveal output) = .ok response.body := by
  obtain ⟨reports, hreports, hresponse⟩ := bind_eq_ok.mp hresponse
  have hrejections := mapError_eq_ok.mp hreports
  cases reports with
  | nil => exact ⟨Chain.rejections_eq_nil.mp hrejections, (Response.json_eq_ok hresponse).2⟩
  | cons report rest =>
    have := (Response.json_eq_ok hresponse).1
    omega

/-- What an endpoint does once it takes a payload is up to its handler. -/
theorem answerCall_session (payload : Value) (s : Chain.Session σ) :
    (answerCall call entry payload s).2 = (Chain.invoke call entry payload requestValue s).2 := by
  rw [answerCall]
  rcases Chain.invoke call entry payload requestValue s with ⟨e | output, t⟩
  · rfl
  · rfl

/-- A handler's output is answered with status 200 only if the endpoint may give it. -/
theorem answerCall_ok {payload : Value} {s : Chain.Session σ} {response : Response}
    (h : (answerCall call entry payload s).1.1 = .ok response) (hstatus : response.status = 200) :
    ∃ output t, Chain.invoke call entry payload requestValue s = (.ok output, t) ∧
      Chain.Admits entry.output (t.history.reveal output) ∧
        Json.compactText (t.history.reveal output) = .ok response.body := by
  rw [answerCall] at h
  rcases hcall : Chain.invoke call entry payload requestValue s with ⟨e | output, t⟩
  · rw [hcall] at h
    have := (Response.json_eq_ok h).1
    omega
  · rw [hcall] at h
    exact ⟨output, t, rfl, outputResponse_ok h hstatus⟩

/-- A request is refused without a call, or its payload is one that the endpoint takes. -/
theorem answer_cases (call : Chain.Caller L σ) (method : Config.Method)
    (entry : Entry (Chain.Handler L)) (r : Request) (s : Chain.Session σ) :
    ((answer call method entry r s).2 = s ∧
      ∀ response, (answer call method entry r s).1.1 = .ok response → response.status = 400) ∨
    ∃ payload, payload? method r = some payload ∧
      Chain.Admits entry.input (s.history.reveal payload) ∧
        answer call method entry r s = answerCall call entry payload s := by
  rw [answer]
  cases payload? method r with
  | none =>
    dsimp only
    exact .inl ⟨rfl, fun _ h => (Response.json_eq_ok h).1⟩
  | some payload =>
    dsimp only
    cases hrejections : Chain.rejections entry.input s.history payload with
    | error why => exact .inl ⟨rfl, by simp⟩
    | ok reports =>
      cases reports with
      | nil => exact .inr ⟨payload, rfl, Chain.rejections_eq_nil.mp hrejections, rfl⟩
      | cons report rest =>
        dsimp only
        exact .inl ⟨rfl, fun _ h => (Response.json_eq_ok h).1⟩

end Switchboard.Http
