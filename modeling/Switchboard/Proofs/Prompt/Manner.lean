import Switchboard.Proofs.Handlers.Build
import Switchboard.Proofs.Prompt.Override

/-!
How models are told to answer in JSON, and where they are asked.

* `objectBody`, `formatBody` — the two ways to tell a model, of which each place knows one;
* `CountsAsUsual`, `get?_mannerFor` — which of them is taken for an address;
* `IsBlank`, `addressFor_cases` — the address of a choice is one to ask at, or there is none, or it is blank;
* `Agent.ofChoice_eq_ok` — where an agent asks, and in which manner;
* `handlerFor_json` — each place is told in the way that it knows, but for a blank address;
* `handlerFor_blank` — with a blank address the usual place is told what the others know.

A blank address counts as none when the place is chosen. When the way is chosen it counts as an address, and
as one that is not the usual one.
-/
namespace Switchboard

namespace Prompt

/-! ### The two ways -/

/-- What the usual place is told. -/
def objectBody : Value := .ofFields [("response_format", .ofFields [("type", .str "json_object")])]

/-- What all other places are told. -/
def formatBody : Value := .ofFields [("format", .str "json")]

theorem objectBody_ne_formatBody : objectBody ≠ formatBody := by
  simp [objectBody, formatBody, Value.ofFields]

/-- Whether an address counts as the usual one when the way is chosen. -/
def CountsAsUsual (address : Value) : Prop := address = .null ∨ address = .str usualAddress

/-- What is found under a key that none of the members in front has. -/
theorem get?_behind {key : Key} {front : List (Key × Value)}
    (h : ∀ m ∈ front, m.1.canonical ≠ key.canonical) (rest : List (Key × Value)) :
    Members.get? key (front ++ rest) = Members.get? key rest := by
  induction front with
  | nil => rfl
  | cons m others ih =>
    obtain ⟨hm, hothers⟩ := List.forall_mem_cons.mp h
    rw [List.cons_append, Members.get?, if_neg hm, ih hothers]

/-- The way that is taken for an address, where JSON is wanted of a model that can be told so. -/
theorem get?_mannerFor {c : Choice} (hprovider : c.provider = .str jsonProvider) (address : Value) :
    (CountsAsUsual address →
      Members.get? (.text "extra_body") (mannerFor c address true) = some objectBody) ∧
    (¬ CountsAsUsual address →
      Members.get? (.text "extra_body") (mannerFor c address true) = some formatBody) := by
  have hother : ∀ name : String, name ≠ "extra_body" →
      (Key.text name).canonical ≠ (Key.text "extra_body").canonical :=
    fun name hne h => hne (Key.text.inj h)
  unfold mannerFor
  rw [get?_behind, hprovider]
  · constructor
    · rintro (rfl | rfl) <;> rfl
    · intro hnot
      obtain ⟨hnull, husual⟩ := not_or.mp hnot
      cases address with
      | null => exact absurd rfl hnull
      | str s =>
        have hs : (s == usualAddress) = false := beq_eq_false_iff_ne.mpr fun h => husual (h ▸ rfl)
        simp [hs, Members.get?, formatBody]
      | _ => rfl
  · intro m hm
    rcases List.mem_append.mp hm with hm | hm
    all_goals
      dsimp only at hm
      split at hm
      · simp at hm
      · obtain rfl := List.mem_singleton.mp hm
        exact hother _ (by decide)

/-! ### The place -/

/-- No address is chosen, and that of the server is the empty text. -/
def IsBlank (server : Config.Server) (c : Choice) : Prop :=
  c.address.isSet = false ∧ server.defaultBaseUrl = some ""

/-- There is an address to ask at, or there is none, or it is blank. -/
theorem addressFor_cases (server : Config.Server) (c : Choice) :
    ((addressFor server c).isSet = true ∧ ¬ IsBlank server c) ∨
      (addressFor server c = .null ∧ ¬ IsBlank server c) ∨
      (addressFor server c = .str "" ∧ IsBlank server c) := by
  rw [addressFor, firstSet]
  cases hset : c.address.isSet with
  | true => exact .inl ⟨hset, fun h => Bool.false_ne_true (h.1.symm.trans hset)⟩
  | false =>
    cases hdefault : server.defaultBaseUrl with
    | none => exact .inr (.inl ⟨rfl, fun h => Option.some_ne_none _ (h.2.symm.trans hdefault)⟩)
    | some s =>
      by_cases hs : s = ""
      · subst hs
        exact .inr (.inr ⟨rfl, hset, hdefault⟩)
      · exact .inl ⟨by simpa [Config.optionalText, firstSet, Value.isSet] using hs,
          fun h => hs (Option.some.inj (hdefault.symm.trans h.2))⟩

/-- Where an agent asks, and in which manner. -/
theorem Agent.ofChoice_eq_ok {environment : Environment} {server : Config.Server} {p : Config.Prompt}
    {wantsJson : Bool} {c : Choice} {text : String} {agent : Agent}
    (h : Agent.ofChoice environment server p wantsJson c text = .ok agent) :
    agent.address = firstSet (addressFor server c) [.str usualAddress] ∧
      agent.manner = mannerFor c (addressFor server c) wantsJson := by
  obtain ⟨key, -, h⟩ := bind_eq_ok.mp h
  dsimp only at h
  split at h
  · cases h
  · obtain rfl := Except.ok.inj h
    exact ⟨rfl, rfl⟩

/-- An agent that wants JSON tells its place in the way that the place knows, unless its address is blank;
then it asks at the usual place in the way of the others. -/
theorem Agent.ofChoice_json {environment : Environment} {server : Config.Server} {p : Config.Prompt}
    {c : Choice} {text : String} {agent : Agent} (hprovider : c.provider = .str jsonProvider)
    (h : Agent.ofChoice environment server p true c text = .ok agent) :
    (¬ IsBlank server c →
      (agent.address = .str usualAddress →
        Members.get? (.text "extra_body") agent.manner = some objectBody) ∧
      (agent.address ≠ .str usualAddress →
        Members.get? (.text "extra_body") agent.manner = some formatBody)) ∧
    (IsBlank server c → agent.address = .str usualAddress ∧
      Members.get? (.text "extra_body") agent.manner = some formatBody) := by
  obtain ⟨haddress, hmanner⟩ := Agent.ofChoice_eq_ok h
  obtain ⟨husual, hother⟩ := get?_mannerFor hprovider (addressFor server c)
  rw [haddress, hmanner, firstSet]
  rcases addressFor_cases server c with ⟨hset, hblank⟩ | ⟨hnull, hblank⟩ | ⟨hempty, hblank⟩
  · -- the address is the place
    rw [if_pos hset]
    refine ⟨fun _ => ⟨fun heq => husual (.inr heq), fun hne => hother ?_⟩, fun h => absurd h hblank⟩
    rintro (hnull | heq)
    · simp [hnull, Value.isSet] at hset
    · exact hne heq
  · -- without an address both are the usual ones
    rw [hnull] at husual ⊢
    exact ⟨fun _ => ⟨fun _ => husual (.inl rfl), fun hne => absurd rfl hne⟩, fun h => absurd h hblank⟩
  · rw [hempty] at hother ⊢
    refine ⟨fun h => absurd hblank h, fun _ => ⟨rfl, hother ?_⟩⟩
    rintro (hnull | heq)
    · cases hnull
    · exact absurd (Value.str.inj heq) (by decide)

end Prompt

/-! ### Endpoints -/

namespace Site

open Prompt

variable {site : Site} {server : Config.Server}

/-- The handler of a prompt asks as the agent for its choice does. -/
theorem handlerFor_prompt {e : Config.Endpoint} {p : Config.Prompt} {c : Choice} {text : String}
    {agent : Prompt.Agent} {schema : Option Value} (hprompt : e.handler = .prompt p)
    (hresolve : resolve site.disk (site.boundary server.directory) p = .ok (c, text))
    (h : site.handlerFor server e = .ok (.leaf (.prompt agent schema))) :
    Agent.ofChoice site.environment server p e.outputSchema.isSome c text = .ok agent := by
  rw [handlerFor, hprompt] at h
  obtain ⟨made, hmade, h⟩ := bind_eq_ok.mp h
  obtain ⟨rfl, -⟩ := Leaf.prompt.inj (Chain.Handler.leaf.inj (Except.ok.inj h))
  rw [mapError_eq_ok, Prompt.Agent.make, hresolve] at hmade
  exact hmade

/-- **The way to answer in JSON fits the place that is asked, but for a blank address.** Take a prompt with an
output schema whose provider can be told to answer in JSON, after the settings in front of its text were put
in. Whenever there is a handler for it, a model at the usual address is told what this place knows and a model
at any other address what the others know, unless no address is chosen and that of the server is the empty
text. In this case the model is asked at the usual address, and told what the others know. -/
theorem handlerFor_json {e : Config.Endpoint} {p : Config.Prompt} {c : Choice} {text : String}
    {agent : Prompt.Agent} {schema : Option Value} (hprompt : e.handler = .prompt p)
    (hschema : e.outputSchema ≠ none)
    (hresolve : resolve site.disk (site.boundary server.directory) p = .ok (c, text))
    (hprovider : c.provider = .str jsonProvider)
    (h : site.handlerFor server e = .ok (.leaf (.prompt agent schema))) :
    (¬ IsBlank server c →
      (agent.address = .str usualAddress →
        Members.get? (.text "extra_body") agent.manner = some objectBody) ∧
      (agent.address ≠ .str usualAddress →
        Members.get? (.text "extra_body") agent.manner = some formatBody)) ∧
    (IsBlank server c → agent.address = .str usualAddress ∧
      Members.get? (.text "extra_body") agent.manner = some formatBody) := by
  have hmake := handlerFor_prompt hprompt hresolve h
  rw [Option.isSome_iff_ne_none.mpr hschema] at hmake
  exact Agent.ofChoice_json hprovider hmake

/-- A prompt with the usual model. -/
def plainPrompt : Config.Prompt := ⟨some "Answer.", none, "", Config.Model.default⟩

/-- An endpoint with this prompt and an output schema. -/
def asking : Config.Endpoint := ⟨"ask", "", "/ask", .post, none, some (.object []), .prompt plainPrompt⟩

/-- A server with a key, and with an address of its own. -/
def addressed (address : String) : Config.Server :=
  { Relay.server none with
    defaultBaseUrl := some address
    defaultApiKey := some "k"
    endpoints := [asking] }

theorem resolve_plainPrompt (server : Config.Server) :
    resolve Relay.site.disk (Relay.site.boundary server.directory) plainPrompt
      = .ok (Choice.ofModel Config.Model.default, "Answer.") := rfl

theorem handlerFor_json_elsewhere :
    ∃ agent schema, Relay.site.handlerFor (addressed "http://localhost:11434/v1") asking
        = .ok (.leaf (.prompt agent schema)) ∧ agent.address ≠ .str usualAddress ∧
      Members.get? (.text "extra_body") agent.manner = some formatBody := by
  obtain ⟨agent, schema, h, haddress⟩ : ∃ agent schema,
      Relay.site.handlerFor (addressed "http://localhost:11434/v1") asking
        = .ok (.leaf (.prompt agent schema)) ∧ agent.address = .str "http://localhost:11434/v1" :=
    ⟨_, _, rfl, rfl⟩
  have hblank : ¬ IsBlank (addressed "http://localhost:11434/v1") (Choice.ofModel Config.Model.default) :=
    fun hblank => absurd (Option.some.inj hblank.2) (by decide)
  have helsewhere : agent.address ≠ .str usualAddress := by
    rw [haddress]
    exact fun heq => absurd (Value.str.inj heq) (by decide)
  obtain ⟨hfits, -⟩ := handlerFor_json rfl (by simp [asking]) (resolve_plainPrompt _) rfl h
  exact ⟨agent, schema, h, helsewhere, (hfits hblank).2 helsewhere⟩

/-- With a blank address the usual place is not told what it knows. -/
theorem handlerFor_blank :
    asking.handler = .prompt plainPrompt ∧ asking.outputSchema ≠ none ∧
      (Choice.ofModel Config.Model.default).provider = .str jsonProvider ∧
      ∃ agent schema,
        Relay.site.handlerFor (addressed "") asking = .ok (.leaf (.prompt agent schema)) ∧
        agent.address = .str usualAddress ∧
        Members.get? (.text "extra_body") agent.manner ≠ some objectBody := by
  refine ⟨rfl, by simp [asking], rfl, _, _, rfl, rfl, fun h => ?_⟩
  exact objectBody_ne_formatBody (Option.some.inj h).symm

end Site

end Switchboard
