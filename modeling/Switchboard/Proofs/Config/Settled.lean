import Switchboard.Proofs.Config.Read
import Switchboard.Proofs.Files.Path
import Switchboard.Proofs.Members

/-!
Settings that are written and read again.

* `Settles` — what is read from any data is read again, the same, from what is written of it;
* `Settles.andThen`, `Settles.list`, `Settles.optional`, `Settles.required` — checks, lists and fields settle
  when what they are made of does;
* `Server.settles` and the lemmas before it — so do the records, from the models up to the servers;
* `read_settles` — all of them.

Most readers take everything that can be written (`Faithful`). A chain, an endpoint and a server are also
checked for rules, which still hold of what was read, since it is the same that is read again. Only the
path of an endpoint and the directory of a server are changed on the way, and they are so once and for
all (`Endpoint.pathOf_pathOf`, `Files.Path.read_text`).
-/
namespace Switchboard.Config

variable {α β : Type}

/-! ### Checked values -/

namespace Checked

@[simp] theorem map_valid (f : α → β) (a : α) : f <$> Checked.valid a = .valid (f a) := rfl

@[simp] theorem seq_valid (f : α → β) (a : α) :
    Checked.valid f <*> Checked.valid a = .valid (f a) := rfl

@[simp] theorem under_valid (part : Part) (a : α) : (Checked.valid a).under part = .valid a := rfl

/-- Items that are each read from what is written of them. -/
theorem items_map {read : Value → Checked α} {write : α → Value} {as : List α}
    (h : ∀ a ∈ as, read (write a) = .valid a) (start : Nat) :
    items read start (as.map write) = .valid as := by
  induction as generalizing start with
  | nil => rfl
  | cons a rest ih =>
    obtain ⟨ha, hrest⟩ := List.forall_mem_cons.mp h
    rw [List.map_cons, items, ha, ih hrest, under_valid, map_valid, seq_valid]

/-- Members that are each left as they are by a check. -/
theorem each_eq_self {check : α → Checked α} {as : List α} (h : ∀ a ∈ as, check a = .valid a) :
    each check as = .valid as := by
  induction as with
  | nil => rfl
  | cons a rest ih =>
    obtain ⟨ha, hrest⟩ := List.forall_mem_cons.mp h
    rw [each, ha, ih hrest, map_valid, seq_valid]

end Checked

/-! ### Reading what was written -/

/-- What is read from any data is read again, the same, from what is written of it. -/
def Settles (read : Value → Checked α) (write : α → Value) : Prop :=
  ∀ v a, read v = .valid a → read (write a) = .valid a

/-- Whatever is written is read again. -/
def Faithful (read : Value → Checked α) (write : α → Value) : Prop :=
  ∀ a, read (write a) = .valid a

variable {read : Value → Checked α} {write : α → Value}

theorem Faithful.settles (h : Faithful read write) : Settles read write := fun _ a _ => h a

/-- A further check that leaves what it accepts as it is accepts it again. -/
theorem Settles.andThen (h : Settles read write) {check : α → Checked α}
    (hcheck : ∀ a b, check a = .valid b → a = b) :
    Settles (fun v => (read v).andThen check) write := by
  intro v b hb
  obtain ⟨a, ha, hb⟩ := Checked.andThen_eq_valid.mp hb
  obtain rfl := hcheck a b hb
  exact Checked.andThen_eq_valid.mpr ⟨a, h v a ha, hb⟩

theorem Settles.list (h : Settles read write) :
    Settles (readList read) fun as => .list (as.map write) := by
  intro v as has
  refine Checked.items_map (fun a ha => ?_) 0
  obtain ⟨w, hw⟩ := mem_of_readList has a ha
  exact h w a hw

/-! ### Fields -/

/-- A required field that was read is read again. -/
theorem Settles.required (h : Settles read write) {fields : Fields} {name : String} {a : α}
    (ha : fields.required name read = .valid a) : read (write a) = .valid a := by
  obtain ⟨v, hv⟩ := Fields.required_valid ha
  exact h v a hv

/-- An optional field that was read is read again, if its default is read from what is written of it. -/
theorem Settles.optional (h : Settles read write) {fields : Fields} {name : String} {default a : α}
    (hdefault : read (write default) = .valid default)
    (ha : fields.optional name default read = .valid a) : read (write a) = .valid a := by
  rcases Fields.optional_valid ha with rfl | ⟨v, hv⟩
  · exact hdefault
  · exact h v a hv

/-- Fields with names as members of a mapping. -/
def Fields.written (fields : List (String × Value)) : Fields :=
  fields.map fun (name, v) => (.text name, v)

namespace Fields

variable {known : List String} {fields rest : List (String × Value)} {name other : String} {v : Value}

@[simp] theorem get?_written_nil : Members.get? (.text name) (written []) = none := rfl

@[simp] theorem get?_written_cons :
    Members.get? (.text name) (written ((other, v) :: rest))
      = if other = name then some v else Members.get? (.text name) (written rest) := by
  rw [written, List.map_cons, Members.get?]
  exact if_congr (Key.text.injEq other name).to_iff rfl rfl

@[simp] theorem optional_written_cons {default : α} :
    optional (written ((other, v) :: rest)) name default read
      = if other = name then (read v).under (.name name)
        else optional (written rest) name default read := by
  rw [optional, optional, get?_written_cons]
  split_ifs <;> rfl

@[simp] theorem required_written_cons :
    required (written ((other, v) :: rest)) name read
      = if other = name then (read v).under (.name name) else required (written rest) name read := by
  rw [required, required, get?_written_cons]
  split_ifs <;> rfl

/-- Fields that are all known leave no fault. -/
theorem unknown_written (hknown : ∀ field ∈ fields, field.1 ∈ known) :
    unknown known (written fields) = [] := by
  rw [unknown, written, List.filterMap_map, List.filterMap_eq_nil_iff]
  exact fun field hfield => if_pos (hknown field hfield)

/-- What is read from fields that are all known is a whole record. -/
theorem closed_written (hknown : ∀ field ∈ fields, field.1 ∈ known) {record : Checked α} {a : α}
    (h : record = .valid a) : closed known (written fields) record = .valid a := by
  simp [closed, unknown_written hknown, h]

end Fields

/-- A record with fields that are all known is read from these fields. -/
theorem readRecord_ofFields {known : List String} {fields : List (String × Value)}
    (hknown : ∀ field ∈ fields, field.1 ∈ known) {read : Fields → Checked α} {a : α}
    (h : read (Fields.written fields) = .valid a) :
    readRecord known read (.ofFields fields) = .valid a :=
  Fields.closed_written hknown h

/-! ### Texts and numbers -/

@[simp] theorem readText_str (s : String) : readText (.str s) = .valid s := rfl

@[simp] theorem readOptionalText_str (s : String) :
    readOptionalText (.str s) = .valid (some s) := rfl

@[simp] theorem readOptionalText_written (o : Option String) :
    readOptionalText (optionalText o) = .valid o := by
  cases o <;> rfl

/-! ### Handlers -/

theorem Model.faithful : Faithful Model.read Model.toValue := by
  rintro ⟨provider, baseUrl, apiKey, apiKeyVariable, name, temperature, maxTokens⟩
  refine readRecord_ofFields (by simp [fieldNames]) ?_
  cases temperature <;> cases maxTokens <;>
    simp [readOptionalNumber, readOptionalInteger, readNumber, readInteger]

theorem Prompt.settles : Settles Prompt.read Prompt.toValue := by
  refine Settles.andThen (Faithful.settles fun p => readRecord_ofFields (by simp) ?_) ?_
  · have hmodel := Model.faithful p.model
    simp [readKind, hmodel]
  · exact fun a b hb => (Checked.require_eq_valid.mp hb).2

theorem Function.settles : Settles Function.read Function.toValue := by
  refine Settles.andThen (Faithful.settles fun f => readRecord_ofFields (by simp) ?_) ?_
  · simp [readKind]
  · exact fun a b hb => (Checked.require_eq_valid.mp hb).2

theorem Tool.faithful : Faithful Tool.read Tool.toValue := by
  refine fun t => readRecord_ofFields (by simp) ?_
  have hargs : readList readText (.list (t.args.map .str)) = .valid t.args :=
    Checked.items_map (fun a _ => readText_str a) 0
  simp [readKind, readNumber, hargs]

theorem Step.faithful : Faithful Step.read Step.toValue := by
  refine fun s => readRecord_ofFields (by simp) ?_
  simp

theorem Chain.readSteps_settles :
    Settles Chain.readSteps fun steps => .list (steps.map Step.toValue) := by
  refine Step.faithful.settles.list.andThen fun steps found hfound => ?_
  split at hfound
  · simp [Checked.fault] at hfound
  · exact (Checked.require_eq_valid.mp hfound).2

theorem Chain.settles : Settles Chain.read Chain.toValue := by
  intro v c h
  obtain ⟨fields, hfields⟩ := Chain.exists_fields h
  have hsteps := Chain.readSteps_settles.required hfields
  refine readRecord_ofFields (by simp) ?_
  simp [readKind, hsteps]

/-- The record of a handler is read from a datum. -/
def Handler.ComesFrom (v : Value) : Handler → Prop
  | .prompt p => Prompt.read v = .valid p
  | .function f => Function.read v = .valid f
  | .tool t => Tool.read v = .valid t
  | .chain c => Chain.read v = .valid c

/-- A handler is read under the word for its kind, and under no other. -/
theorem Handler.readAs_eq_valid {kind : String} {v : Value} {h : Handler} :
    Handler.readAs kind v = .valid h ↔ h.kind = kind ∧ h.ComesFrom v := by
  unfold readAs
  split
  case h_5 hprompt hfunction htool hchain =>
    refine iff_of_false (by simp [Checked.fault]) fun ⟨hkind, _⟩ => ?_
    cases h with
    | prompt p => exact hprompt hkind.symm
    | function f => exact hfunction hkind.symm
    | tool t => exact htool hkind.symm
    | chain c => exact hchain hkind.symm
  all_goals
    rw [Checked.under_eq_valid, Checked.map_eq_valid]
    cases h <;> simp [Handler.kind, ComesFrom]

/-- A handler is written as a record that names its kind. -/
theorem Handler.read_toValue (h : Handler) : Handler.read h.toValue = Handler.readAs h.kind h.toValue := by
  cases h <;> rfl

/-- The record of a handler that was read comes from the same datum. -/
theorem Handler.comesFrom_of_read {v : Value} {h : Handler} (hread : Handler.read v = .valid h) :
    h.ComesFrom v := by
  cases v with
  | object members =>
    rw [read] at hread
    split at hread
    · exact (readAs_eq_valid.mp hread).2
    · simp [Checked.fault] at hread
    · simp [Checked.fault] at hread
  | _ => simp [read, Checked.fault] at hread

theorem Handler.settles : Settles Handler.read Handler.toValue := by
  intro v h hread
  have hrecord := comesFrom_of_read hread
  rw [read_toValue, readAs_eq_valid]
  refine ⟨rfl, ?_⟩
  cases h with
  | prompt p => exact Prompt.settles v p hrecord
  | function f => exact Function.settles v f hrecord
  | tool t => exact Tool.faithful t
  | chain c => exact Chain.settles v c hrecord

/-! ### Endpoints -/

theorem Method.faithful : Faithful Method.read fun m => .str m.word := by
  intro m
  cases m <;> rfl

/-- The keys of a mapping that was read are texts, each there once, so it stays as it is. -/
theorem readMapping_settles : Settles readMapping fun o => o.getD .null := by
  intro v o h
  cases v with
  | null =>
    obtain rfl := Checked.valid.inj h
    rfl
  | object members =>
    obtain ⟨pairs, hpairs, rfl⟩ := Checked.map_eq_valid.mp h
    have htext : ∀ m ∈ pairs, ∃ name, m.1 = .text name := by
      intro m hm
      obtain ⟨_, -, hcheck⟩ := Checked.mem_of_each hpairs m hm
      obtain ⟨name, -, rfl⟩ := Checked.map_eq_valid.mp hcheck
      exact ⟨name, rfl⟩
    have hnamed := Members.isNamed_ofList htext
    refine Checked.map_eq_valid.mpr ⟨Members.ofList pairs, ?_, by rw [hnamed.ofList_eq]⟩
    refine Checked.each_eq_self fun ⟨k, w⟩ hm => ?_
    obtain ⟨name, rfl⟩ : ∃ name, k = .text name := hnamed.text _ hm
    rfl
  | _ => simp [readMapping, Checked.fault] at h

namespace Endpoint

theorem readName_settles : Settles readName .str := by
  refine Settles.andThen (Faithful.settles readText_str) fun s name hname => ?_
  split at hname
  · simp [Checked.fault] at hname
  · exact Checked.valid.inj hname

theorem startsWith_pathOf (given : Option String) (name : String) :
    (pathOf given name).startsWith "/" = true := by
  unfold pathOf
  split
  · split_ifs with hempty hslash
    · simp
    · exact hslash
    · simp
  · simp

/-- A path that starts with a slash stays. -/
theorem pathOf_of_startsWith {path : String} (h : path.startsWith "/" = true) (name : String) :
    pathOf (some path) name = path := by
  have hempty : path.isEmpty = false := by
    refine Bool.eq_false_iff.mpr fun hempty => ?_
    rw [String.isEmpty_iff.mp hempty] at h
    simp at h
  simp [pathOf, hempty, h]

theorem pathOf_pathOf (given : Option String) (name : String) :
    pathOf (some (pathOf given name)) name = pathOf given name :=
  pathOf_of_startsWith (startsWith_pathOf given name) name

/-- The fields of an endpoint as it is written. -/
def asFields (e : Endpoint) : List (String × Value) :=
  [("name", .str e.name), ("description", .str e.description), ("path", .str e.path),
    ("method", .str e.method.word), ("input_schema", e.inputSchema.getD .null),
    ("output_schema", e.outputSchema.getD .null), ("handler", e.handler.toValue)]

/-- An endpoint is written with its handler under its one key. -/
theorem unfold_asFields (e : Endpoint) :
    unfold (Fields.written e.asFields) = .valid (Fields.written e.asFields) := by
  have hpresent : presentHandlers (Fields.written e.asFields) = ["handler"] := by
    simp [presentHandlers, handlerKeys, asFields, Members.contains]
  have hlong : shorthands.lookup "handler" = none := rfl
  simp [unfold, hpresent, hlong]

/-- An endpoint that was read from its fields is read again from what is written of it. -/
theorem IsReadFrom.readFields_asFields {fields : Fields} {e : Endpoint} (h : e.IsReadFrom fields) :
    readFields (Fields.written e.asFields) = .valid e := by
  have hname := readName_settles.required h.name
  have hpath : pathOf (some e.path) e.name = e.path := by
    obtain ⟨given, hgiven⟩ := h.path
    rw [hgiven, pathOf_pathOf]
  have hmethod := Method.faithful e.method
  have hinput := readMapping_settles.optional rfl h.inputSchema
  have houtput := readMapping_settles.optional rfl h.outputSchema
  have hhandler := Handler.settles.required h.handler
  simp [asFields, readFields, hname, hpath, hmethod, hinput, houtput, hhandler]

theorem settles : Settles Endpoint.read Endpoint.toValue := by
  intro v e h
  obtain ⟨fields, hfields⟩ := exists_fields h
  have hvalue : e.toValue = .object (Fields.written e.asFields) := rfl
  rw [hvalue, Endpoint.read]
  refine Checked.andThen_eq_valid.mpr ⟨_, unfold_asFields e, ?_⟩
  exact Fields.closed_written (by simp [asFields]) hfields.readFields_asFields

end Endpoint

/-! ### Servers -/

namespace Server

theorem readPath_settles : Settles readPath fun p => .str p.text := by
  intro v p h
  cases v with
  | str s =>
    obtain rfl := Checked.valid.inj h
    exact congrArg Checked.valid (Files.Path.read_text (Files.Path.isRead_read s))
  | _ => simp [readPath, Checked.fault] at h

/-- Settings of a server, read where the directory they lie in is known by a text, are read again from
what is written of them, wherever that is. -/
theorem settles (start : String) {v : Value} {s : Server}
    (h : Server.read (Files.Path.read start) v = .valid s) (directory : Files.Path) :
    Server.read directory s.toValue = .valid s := by
  obtain ⟨fields, hendpoints, hhome⟩ := exists_fields h
  have hendpoints := Endpoint.settles.list.optional rfl hendpoints
  have hhome := readPath_settles.optional
    (congrArg Checked.valid (Files.Path.read_text (Files.Path.isRead_read start))) hhome
  refine Checked.andThen_eq_valid.mpr ⟨s, readRecord_ofFields (by simp) ?_, ?_⟩
  · simp [readInteger, hendpoints, hhome]
  · exact Checked.require_eq_valid.mpr ⟨unambiguous_of_read h, rfl⟩

end Server

/-! ### All of them -/

/-- **Reading settles.** Whatever data a record is read from, what is written of it is read again, and gives
the same record, which is written as before. The directory that settings lie in is a path that is itself
read from a text; the written settings name one, so that they mean the same in any other directory. -/
theorem read_settles :
    Settles Model.read Model.toValue ∧ Settles Prompt.read Prompt.toValue ∧
      Settles Function.read Function.toValue ∧ Settles Tool.read Tool.toValue ∧
      Settles Step.read Step.toValue ∧ Settles Chain.read Chain.toValue ∧
      Settles Endpoint.read Endpoint.toValue ∧
      ∀ (start : String) (v : Value) (s : Server),
        Server.read (Files.Path.read start) v = .valid s →
          ∀ directory, Server.read directory s.toValue = .valid s :=
  ⟨Model.faithful.settles, Prompt.settles, Function.settles, Tool.faithful.settles,
    Step.faithful.settles, Chain.settles, Endpoint.settles, fun start _ _ => Server.settles start⟩

/-- Settings with a handler of each kind, hardly any of them as they are written. -/
def loose : Value :=
  .ofFields [("port", .str " 8_080 "), ("endpoints", .tuple [
    .ofFields [("name", .str "ask"), ("path", .str "questions"), ("method", .str " get "),
      ("ai_prompt", .ofFields [("prompt", .str "Answer."), ("prompt_file", .str ""),
        ("model", .ofFields [("temperature", .bool true), ("max_tokens", .str "+0100.0")])])],
    .ofFields [("name", .str "sum"), ("path", .str ""),
      ("handler", .ofFields [("kind", .str "python"), ("module", .str "sums")])],
    .ofFields [("name", .str "look"), ("input_schema", .object [(.bytes [116], .str "object")]),
      ("shell_query", .ofFields [("query", .str "news"), ("timeout_seconds", .bool true)])],
    .ofFields [("name", .str "both"), ("chain_handler", .ofFields [
      ("kind", .str "python"), ("steps", .list [.ofFields [("endpoint", .str "sum")]])])]])]

theorem loose_settles :
    ∃ s, Server.read (Files.Path.read "/srv//site/.") loose = .valid s ∧
      s.port = 8080 ∧ s.directory.text = "/srv/site" ∧
      s.endpoints.map (·.method) = [.get, .post, .post, .post] ∧
      s.endpoints.map (·.path) = ["/questions", "/sum", "/look", "/both"] ∧
      ∀ directory, Server.read directory s.toValue = .valid s := by
  obtain ⟨-, -, -, -, -, -, -, hserver⟩ := read_settles
  have hpaths : [Endpoint.pathOf (some "questions") "ask", Endpoint.pathOf (some "") "sum",
      Endpoint.pathOf none "look", Endpoint.pathOf none "both"]
        = ["/questions", "/sum", "/look", "/both"] := by
    simp [Endpoint.pathOf]
  exact ⟨_, rfl, rfl, rfl, rfl, hpaths, hserver "/srv//site/." loose _ rfl⟩

end Switchboard.Config
