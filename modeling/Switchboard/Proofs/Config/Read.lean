import Switchboard.Config.Server
import Switchboard.Proofs.Config.Accepted

/-!
What is known of single settings that were read.

* `Checked.map_eq_valid`, `Checked.seq_eq_valid`, `Checked.mem_of_items`, `Checked.mem_of_each`,
  `mem_of_readList` — values that are put together come from values that were checked;
* `readRecord_valid`, `Fields.required_valid` — the record and the field that a value comes from;
* `Chain.exists_fields`, `Endpoint.isReadFrom`, `Server.exists_fields` — the fields behind a chain, an
  endpoint and a server;
* `Chain.steps_ne_nil_of_read` — a chain has a step;
* `Endpoint.name_ne_empty_of_read`, `Server.named_of_read` — an endpoint has a name.
-/
namespace Switchboard.Config

variable {α β : Type}

namespace Checked

theorem map_eq_valid {f : α → β} {a : Checked α} {b : β} :
    f <$> a = .valid b ↔ ∃ x, a = .valid x ∧ f x = b := by
  cases a with
  | valid x =>
    have hmap : f <$> Checked.valid x = .valid (f x) := rfl
    simp [hmap]
  | invalid faults =>
    have hmap : f <$> (Checked.invalid faults : Checked α) = .invalid ([] ++ faults) := rfl
    simp [hmap]

theorem seq_eq_valid {f : Checked (α → β)} {a : Checked α} {b : β} :
    f <*> a = .valid b ↔ ∃ g x, f = .valid g ∧ a = .valid x ∧ g x = b := by
  have hseq : f <*> a = apply f a := rfl
  rw [hseq]
  cases f <;> cases a <;> simp [apply]

theorem under_eq_valid {part : Part} {a : Checked α} {x : α} :
    a.under part = .valid x ↔ a = .valid x := by
  cases a <;> simp [under]

/-- Each of the items that were checked comes from one of the list. -/
theorem mem_of_items {check : α → Checked β} {start : Nat} {as : List α} {bs : List β}
    (h : items check start as = .valid bs) : ∀ b ∈ bs, ∃ a ∈ as, check a = .valid b := by
  induction as generalizing start bs with
  | nil =>
    simp only [items, valid.injEq] at h
    simp [← h]
  | cons a rest ih =>
    obtain ⟨_, others, hcons, hothers, rfl⟩ := seq_eq_valid.mp h
    obtain ⟨first, hfirst, rfl⟩ := map_eq_valid.mp hcons
    intro b hb
    rcases List.mem_cons.mp hb with rfl | hb
    · exact ⟨a, List.mem_cons_self, under_eq_valid.mp hfirst⟩
    · obtain ⟨a', ha', hcheck⟩ := ih hothers b hb
      exact ⟨a', List.mem_cons_of_mem _ ha', hcheck⟩

/-- Each of the members that were checked comes from one of the list. -/
theorem mem_of_each {check : α → Checked β} {as : List α} {bs : List β}
    (h : each check as = .valid bs) : ∀ b ∈ bs, ∃ a ∈ as, check a = .valid b := by
  induction as generalizing bs with
  | nil =>
    simp only [each, valid.injEq] at h
    simp [← h]
  | cons a rest ih =>
    obtain ⟨_, others, hcons, hothers, rfl⟩ := seq_eq_valid.mp h
    obtain ⟨first, hfirst, rfl⟩ := map_eq_valid.mp hcons
    intro b hb
    rcases List.mem_cons.mp hb with rfl | hb
    · exact ⟨a, List.mem_cons_self, hfirst⟩
    · obtain ⟨a', ha', hcheck⟩ := ih hothers b hb
      exact ⟨a', List.mem_cons_of_mem _ ha', hcheck⟩

end Checked

/-- Each item of a list that was read comes from a datum. -/
theorem mem_of_readList {read : Value → Checked α} {v : Value} {as : List α} (h : readList read v = .valid as) :
    ∀ a ∈ as, ∃ w, read w = .valid a := by
  intro a ha
  cases v with
  | list vs | tuple vs =>
    obtain ⟨w, -, hw⟩ := Checked.mem_of_items h a ha
    exact ⟨w, hw⟩
  | set keys =>
    obtain ⟨w, -, hw⟩ := Checked.mem_of_items h a ha
    exact ⟨w, hw⟩
  | _ => simp [readList, Checked.fault] at h

/-! ### Records -/

theorem Fields.closed_eq_valid {known : List String} {fields : Fields} {record : Checked α} {a : α} :
    Fields.closed known fields record = .valid a ↔ record = .valid a ∧ Fields.unknown known fields = [] := by
  cases record with
  | invalid faults => simp [closed]
  | valid x => cases hunknown : unknown known fields <;> simp [closed, hunknown]

theorem Fields.closed_valid {known : List String} {fields : Fields} {record : Checked α} {a : α}
    (h : Fields.closed known fields record = .valid a) : record = .valid a :=
  (closed_eq_valid.mp h).1

/-- A record is read from the fields of a mapping. -/
theorem readRecord_valid {known : List String} {read : Fields → Checked α} {v : Value} {a : α}
    (h : readRecord known read v = .valid a) : ∃ fields, v = .object fields ∧ read fields = .valid a := by
  cases v with
  | object fields => exact ⟨fields, rfl, Fields.closed_valid h⟩
  | _ => simp [readRecord, Checked.fault] at h

theorem Fields.required_valid {fields : Fields} {name : String} {read : Value → Checked α} {a : α}
    (h : fields.required name read = .valid a) : ∃ v, read v = .valid a := by
  rw [required] at h
  cases hfield : Members.get? (.text name) fields with
  | none => simp [hfield, Checked.fault, Checked.under] at h
  | some v =>
    rw [hfield] at h
    exact ⟨v, Checked.under_eq_valid.mp h⟩

/-- An optional field that is there was read; one that is not has its default. -/
theorem Fields.optional_valid {fields : Fields} {name : String} {default : α}
    {read : Value → Checked α} {a : α} (h : fields.optional name default read = .valid a) :
    a = default ∨ ∃ v, read v = .valid a := by
  rw [optional] at h
  cases hfield : Members.get? (.text name) fields with
  | none =>
    rw [hfield] at h
    exact .inl (Checked.valid.inj h).symm
  | some v =>
    rw [hfield] at h
    exact .inr ⟨v, Checked.under_eq_valid.mp h⟩

/-! ### Chains, endpoints and servers -/

/-- The steps of a chain that was read stand in a field. -/
theorem Chain.exists_fields {v : Value} {c : Chain} (h : Chain.read v = .valid c) :
    ∃ fields : Fields, fields.required "steps" readSteps = .valid c.steps := by
  obtain ⟨fields, -, hfields⟩ := readRecord_valid h
  simp only [Checked.seq_eq_valid, Checked.map_eq_valid] at hfields
  obtain ⟨_, _, ⟨_, steps, ⟨_, -, rfl⟩, hsteps, rfl⟩, -, rfl⟩ := hfields
  exact ⟨fields, hsteps⟩

/-- A chain that was read has a step. -/
theorem Chain.steps_ne_nil_of_read {v : Value} {chain : Chain} (h : Chain.read v = .valid chain) :
    chain.steps ≠ [] := by
  obtain ⟨fields, hfields⟩ := Chain.exists_fields h
  obtain ⟨_, hsteps⟩ := Fields.required_valid hfields
  obtain ⟨found, -, hfound⟩ := Checked.andThen_eq_valid.mp hsteps
  cases found with
  | nil => simp [Checked.fault] at hfound
  | cons step rest =>
    rw [← (Checked.require_eq_valid.mp hfound).2]
    simp

/-- The fields that the parts of an endpoint were read from. Its path need not be as it was given. -/
structure Endpoint.IsReadFrom (fields : Fields) (e : Endpoint) : Prop where
  name : fields.required "name" readName = .valid e.name
  path : ∃ given, e.path = pathOf given e.name
  inputSchema : fields.optional "input_schema" none readMapping = .valid e.inputSchema
  outputSchema : fields.optional "output_schema" none readMapping = .valid e.outputSchema
  handler : fields.required "handler" Handler.read = .valid e.handler

theorem Endpoint.isReadFrom {fields : Fields} {e : Endpoint} (h : readFields fields = .valid e) :
    e.IsReadFrom fields := by
  simp only [readFields, Checked.seq_eq_valid, Checked.map_eq_valid] at h
  -- the last field lies furthest outside
  obtain ⟨_, _, ⟨_, _, ⟨_, _, ⟨_, _, ⟨_, given, ⟨_, _, ⟨_, hname, rfl⟩, -, rfl⟩, -, rfl⟩, -, rfl⟩,
    hinput, rfl⟩, houtput, rfl⟩, hhandler, rfl⟩ := h
  exact ⟨hname, ⟨given, rfl⟩, hinput, houtput, hhandler⟩

theorem Endpoint.exists_fields {v : Value} {e : Endpoint} (h : Endpoint.read v = .valid e) :
    ∃ fields, e.IsReadFrom fields := by
  cases v with
  | object fields =>
    obtain ⟨unfolded, -, hclosed⟩ := Checked.andThen_eq_valid.mp h
    exact ⟨unfolded, isReadFrom (Fields.closed_valid hclosed)⟩
  | _ => simp [Endpoint.read, Checked.fault] at h

/-- An endpoint that was read has a name. -/
theorem Endpoint.name_ne_empty_of_read {v : Value} {e : Endpoint} (h : Endpoint.read v = .valid e) :
    e.name ≠ "" := by
  obtain ⟨fields, hfields⟩ := Endpoint.exists_fields h
  obtain ⟨_, hread⟩ := Fields.required_valid hfields.name
  obtain ⟨s, -, htext⟩ := Checked.andThen_eq_valid.mp hread
  by_cases hs : s.isEmpty
  · simp [hs, Checked.fault] at htext
  · obtain rfl : s = e.name := by simpa [hs] using htext
    exact fun hempty => hs (String.isEmpty_iff.mpr hempty)

/-- The fields that the endpoints of a server and its directory were read from. -/
theorem Server.exists_fields {directory : Files.Path} {v : Value} {s : Server}
    (h : Server.read directory v = .valid s) :
    ∃ fields : Fields,
      fields.optional "endpoints" [] (readList Endpoint.read) = .valid s.endpoints ∧
        fields.optional "base_dir" directory readPath = .valid s.directory := by
  obtain ⟨found, hrecord, hrule⟩ := Checked.andThen_eq_valid.mp h
  obtain ⟨-, rfl⟩ := Checked.require_eq_valid.mp hrule
  obtain ⟨fields, -, hfields⟩ := readRecord_valid hrecord
  simp only [Checked.seq_eq_valid, Checked.map_eq_valid] at hfields
  obtain ⟨_, _, ⟨_, _, ⟨_, _, ⟨_, _, ⟨_, _, ⟨_, _, ⟨_, _, ⟨_, -, rfl⟩, -, rfl⟩, -, rfl⟩,
    -, rfl⟩, -, rfl⟩, -, rfl⟩, hendpoints, rfl⟩, hdirectory, rfl⟩ := hfields
  exact ⟨fields, hendpoints, hdirectory⟩

/-- The endpoints of settings that were read have names. -/
theorem Server.named_of_read {directory : Files.Path} {v : Value} {server : Server}
    (h : Server.read directory v = .valid server) : ∀ e ∈ server.endpoints, e.name ≠ "" := by
  obtain ⟨fields, hendpoints, -⟩ := Server.exists_fields h
  intro e he
  rcases Fields.optional_valid hendpoints with hnone | ⟨v, hv⟩
  · simp [hnone] at he
  · obtain ⟨w, hw⟩ := mem_of_readList hv e he
    exact Endpoint.name_ne_empty_of_read hw

end Switchboard.Config
