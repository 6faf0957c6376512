import Switchboard.Proofs.Config.Settled

/-!
Which lists of endpoints the settings of a server may have.

* `nameOf`, `routeOf` — the name and the route that data give an endpoint, in normal form;
* `Endpoint.read_named` — an endpoint that was read has them;
* `Endpoint.IsSound`, `Endpoint.isSound_of_read` — what else is known of each endpoint on its own;
* `ambiguity_eq_some` — the rule that a list breaks names its first endpoint that repeats an earlier one;
* `Server.read_eq` — settings whose parts are in order fail by this rule or not at all;
* `Server.read_unambiguous` — the verdict on all of them, in terms of the data.

Two endpoints can repeat each other in other words: with a method in small letters and with blanks around it, or
with a path that is left out where the other one is written in full.
-/
namespace Switchboard.Config

/-! ### Names and routes of data -/

/-- The text under a name in data. -/
def textAt? (name : String) : Value → Option String
  | .object fields =>
    match (Members.get? (.text name) fields).map readText with
    | some (.valid s) => some s
    | _ => none
  | _ => none

/-- A text in capitals, without the blanks around it. -/
def capitals (s : String) : String := String.ofList ((Text.strip s.toList).flatMap Method.capital)

/-- The name that data give an endpoint. -/
def nameOf (v : Value) : String := (textAt? "name" v).getD ""

/-- The path that data give an endpoint: its name behind a slash if they give none, or an empty one. -/
def placeOf (v : Value) : String :=
  let path := (textAt? "path" v).getD ""
  if path = "" then "/" ++ nameOf v
  else if path.startsWith "/" then path
  else "/" ++ path

/-- The route that data give an endpoint: its method in capitals, and its path. -/
def routeOf (v : Value) : String × String :=
  (capitals ((textAt? "method" v).getD "POST"), placeOf v)

/-- The route of an endpoint, as data write it. -/
def Endpoint.route (e : Endpoint) : String × String := (e.method.word, e.path)

theorem Method.word_injective : Function.Injective Method.word := by
  intro m n h
  cases m <;> cases n <;> first | rfl | exact absurd h (by decide)

theorem Method.word_of_ofText? {s : String} {m : Method} (h : Method.ofText? s = some m) :
    m.word = capitals s := by
  have hword := List.find?_some h
  simpa [capitals] using hword

/-- A method that was read is the one that its text names. -/
theorem Method.word_of_read {v : Value} {m : Method} (h : Method.read v = .valid m) :
    ∃ s, readText v = .valid s ∧ m.word = capitals s := by
  obtain ⟨s, htext, hread⟩ := Checked.andThen_eq_valid.mp h
  refine ⟨s, htext, ?_⟩
  split at hread
  · next found hfound =>
    obtain rfl := Checked.valid.inj hread
    exact word_of_ofText? hfound
  · simp [Checked.fault] at hread

/-- Putting the handler in its place leaves other fields as they are. -/
theorem Endpoint.get?_unfold {fields unfolded : Fields} (h : unfold fields = .valid unfolded)
    {name : String} (hhandler : name ≠ "handler") (hkey : name ∉ handlerKeys) :
    Members.get? (.text name) unfolded = Members.get? (.text name) fields := by
  rw [unfold] at h
  split at h
  · next key hpresent =>
    have hother : ∀ other : String, other ≠ name → (Key.text other).canonical ≠ (Key.text name).canonical :=
      fun other hne hsame => hne (Key.text.inj hsame)
    dsimp only at h
    split at h
    · obtain rfl := Checked.valid.inj h
      rfl
    · next kind hkind =>
      -- a short key is one of those that the name is none of
      obtain ⟨before, after, hshort, -⟩ := List.lookup_eq_some_iff.mp hkind
      have hmem : key ∈ handlerKeys := (List.of_mem_zip (hshort ▸ List.mem_append_right before
        List.mem_cons_self)).1
      have hne : key ≠ name := fun hsame => hkey (hsame ▸ hmem)
      obtain rfl := Checked.valid.inj h
      rw [Members.get?_insert_of_ne (hother _ hhandler.symm)]
      refine Members.get?_filter fun m _ hm => ?_
      have hsame : m.1 = .text key := by simpa using hm
      rw [hsame]
      exact hother key hne
  · simp [Checked.fault] at h

/-- The fields that the name, the path and the method of an endpoint were read from. -/
theorem Endpoint.readFields_valid {fields : Fields} {e : Endpoint} (h : readFields fields = .valid e) :
    fields.required "name" readName = .valid e.name ∧
      (∃ given, fields.optional "path" none readOptionalText = .valid given ∧ e.path = pathOf given e.name) ∧
      fields.optional "method" .post Method.read = .valid e.method := by
  simp only [readFields, Checked.seq_eq_valid, Checked.map_eq_valid] at h
  -- the last field lies furthest outside
  obtain ⟨_, _, ⟨_, _, ⟨_, _, ⟨_, _, ⟨_, given, ⟨_, _, ⟨_, hname, rfl⟩, -, rfl⟩, hpath, rfl⟩, hmethod, rfl⟩,
    -, rfl⟩, -, rfl⟩, -, rfl⟩ := h
  exact ⟨hname, ⟨given, hpath, rfl⟩, hmethod⟩

theorem readName_eq_valid {v : Value} {s : String} (h : Endpoint.readName v = .valid s) :
    readText v = .valid s := by
  obtain ⟨found, htext, hfound⟩ := Checked.andThen_eq_valid.mp h
  split at hfound
  · simp [Checked.fault] at hfound
  · obtain rfl := Checked.valid.inj hfound
    exact htext

/-! ### Reading them -/

section
variable {fields : Fields}

theorem textAt?_object (name : String) :
    textAt? name (.object fields) = match (Members.get? (.text name) fields).map readText with
      | some (.valid s) => some s
      | _ => none := rfl

theorem nameOf_of_required {s : String} (h : fields.required "name" Endpoint.readName = .valid s) :
    nameOf (.object fields) = s := by
  rw [Fields.required] at h
  cases hget : Members.get? (.text "name") fields with
  | none => simp [hget, Checked.fault, Checked.under] at h
  | some w =>
    rw [hget] at h
    have hread := readName_eq_valid (Checked.under_eq_valid.mp h)
    simp [nameOf, textAt?_object, hget, hread]

theorem capitals_of_optional {m : Method} (h : fields.optional "method" .post Method.read = .valid m) :
    capitals ((textAt? "method" (.object fields)).getD "POST") = m.word := by
  rw [Fields.optional] at h
  rw [textAt?_object]
  cases hget : Members.get? (.text "method") fields with
  | none =>
    rw [hget] at h
    obtain rfl := Checked.valid.inj h
    decide
  | some w =>
    rw [hget] at h
    obtain ⟨s, hread, hword⟩ := Method.word_of_read (Checked.under_eq_valid.mp h)
    simp [hread, hword]

/-- A path that is absent, null or empty gives way to the name. -/
theorem placeOf_of_optional {given : Option String}
    (h : fields.optional "path" none readOptionalText = .valid given) :
    placeOf (.object fields) = Endpoint.pathOf given (nameOf (.object fields)) := by
  have hgiven : (textAt? "path" (.object fields)).getD "" = given.getD "" := by
    rw [Fields.optional] at h
    rw [textAt?_object]
    cases hget : Members.get? (.text "path") fields with
    | none =>
      rw [hget] at h
      obtain rfl := Checked.valid.inj h
      rfl
    | some w =>
      rw [hget] at h
      have hread := Checked.under_eq_valid.mp h
      cases w with
      | null =>
        obtain rfl := Checked.valid.inj hread
        rfl
      | _ =>
        obtain ⟨s, hs, rfl⟩ := Checked.map_eq_valid.mp hread
        simp [hs]
  rw [placeOf, hgiven]
  cases given with
  | none => rfl
  | some path => simp [Endpoint.pathOf, String.isEmpty_iff]

end

/-- An endpoint has the name and the route that its data give it. -/
theorem Endpoint.read_named {v : Value} {e : Endpoint} (h : Endpoint.read v = .valid e) :
    e.name = nameOf v ∧ e.route = routeOf v := by
  cases v with
  | object fields =>
    obtain ⟨unfolded, hunfold, hclosed⟩ := Checked.andThen_eq_valid.mp h
    obtain ⟨hname, ⟨given, hgiven, hpath⟩, hmethod⟩ := readFields_valid (Fields.closed_valid hclosed)
    rw [Fields.required, get?_unfold hunfold (by decide) (by decide)] at hname
    rw [Fields.optional, get?_unfold hunfold (by decide) (by decide)] at hgiven hmethod
    have hname := nameOf_of_required hname
    have hmethod := capitals_of_optional hmethod
    have hplace := placeOf_of_optional hgiven
    exact ⟨hname.symm, by rw [route, routeOf, hmethod, hplace, hname, hpath]⟩
  | _ => simp [Endpoint.read, Checked.fault] at h

/-! ### Endpoints on their own -/

/-- The names of steps that repeat none, and none that was seen before. -/
theorem Chain.repeatedName_eq_none {seen : List String} {steps : List Step} :
    repeatedName seen steps = none ↔
      (steps.filterMap (·.name)).Nodup ∧ ∀ name ∈ steps.filterMap (·.name), name ∉ seen := by
  induction steps generalizing seen with
  | nil => simp [repeatedName]
  | cons step rest ih =>
    rw [repeatedName]
    cases hname : step.name with
    | none =>
      rw [List.filterMap_cons_none hname]
      exact ih
    | some name =>
      rw [List.filterMap_cons_some hname, List.nodup_cons, List.forall_mem_cons]
      dsimp only
      split_ifs with hseen
      · simp [hseen]
      · rw [ih]
        simp only [List.mem_cons, not_or]
        constructor
        · rintro ⟨hnodup, hnew⟩
          exact ⟨⟨fun hmem => (hnew name hmem).1 rfl, hnodup⟩, hseen, fun other hother => (hnew other hother).2⟩
        · rintro ⟨⟨hname, hnodup⟩, -, hnew⟩
          exact ⟨hnodup, fun other hother => ⟨fun hsame => hname (hsame ▸ hother), hnew other hother⟩⟩

/-- The named steps of a chain that was read have different names. -/
theorem Chain.names_nodup_of_read {v : Value} {c : Chain} (h : Chain.read v = .valid c) :
    (c.steps.filterMap (·.name)).Nodup := by
  obtain ⟨fields, hfields⟩ := Chain.exists_fields h
  obtain ⟨_, hsteps⟩ := Fields.required_valid hfields
  obtain ⟨found, -, hfound⟩ := Checked.andThen_eq_valid.mp hsteps
  split at hfound
  · simp [Checked.fault] at hfound
  · obtain ⟨hrule, rfl⟩ := Checked.require_eq_valid.mp hfound
    exact (repeatedName_eq_none.mp (Option.map_eq_none_iff.mp hrule)).1

/-- What is known of an endpoint that was read, whatever stands beside it. -/
structure Endpoint.IsSound (e : Endpoint) : Prop where
  name : e.name ≠ ""
  method : e.method.word ∈ ["GET", "POST", "PUT", "PATCH", "DELETE"]
  path : e.path.startsWith "/" = true
  steps : ∀ c, e.handler = .chain c → c.steps ≠ [] ∧ (c.steps.filterMap (·.name)).Nodup

theorem Endpoint.isSound_of_read {v : Value} {e : Endpoint} (h : Endpoint.read v = .valid e) : e.IsSound := by
  obtain ⟨fields, hfields⟩ := exists_fields h
  refine ⟨name_ne_empty_of_read h, ?_, ?_, ?_⟩
  · cases e.method <;> decide
  · obtain ⟨given, hgiven⟩ := hfields.path
    rw [hgiven]
    exact startsWith_pathOf given e.name
  · intro c hc
    obtain ⟨w, hw⟩ := Fields.required_valid hfields.handler
    have hchain : Chain.read w = .valid c := by
      have hrecord := Handler.comesFrom_of_read hw
      rwa [hc] at hrecord
    exact ⟨Chain.steps_ne_nil_of_read hchain, Chain.names_nodup_of_read hchain⟩

/-! ### The rule that a list breaks -/

/-- A rule is broken by the first endpoint whose name, or else whose route, is there before. -/
theorem ambiguity_eq_some {names : List String} {routes : List (Method × String)} {endpoints : List Endpoint}
    {rule : Rule} (h : Server.ambiguity names routes endpoints = some rule) :
    ∃ before e after, endpoints = before ++ e :: after ∧ Server.ambiguity names routes before = none ∧
      ((e.name ∈ before.map (·.name) ++ names ∧ rule = .oneEndpointOfName e.name) ∨
        (e.name ∉ before.map (·.name) ++ names ∧
          (e.method, e.path) ∈ before.map (fun e => (e.method, e.path)) ++ routes ∧
          rule = .oneEndpointOfRoute e.method.word e.path e.name)) := by
  induction endpoints generalizing names routes with
  | nil => simp [Server.ambiguity] at h
  | cons e rest ih =>
    rw [Server.ambiguity] at h
    split_ifs at h with hname hroute
    · exact ⟨[], e, rest, rfl, rfl, .inl ⟨by simpa using hname, (Option.some.inj h).symm⟩⟩
    · exact ⟨[], e, rest, rfl, rfl,
        .inr ⟨by simpa using hname, by simpa using hroute, (Option.some.inj h).symm⟩⟩
    · -- the first endpoint repeats nothing, so it is one of those before
      obtain ⟨before, e', after, rfl, hbefore, hrule⟩ := ih h
      refine ⟨e :: before, e', after, rfl, ?_, ?_⟩
      · rw [Server.ambiguity, if_neg hname, if_neg hroute, hbefore]
      · simpa only [List.map_cons, List.cons_append, List.mem_append, List.mem_cons, or_left_comm] using hrule

theorem route_injective : Function.Injective fun r : Method × String => (r.1.word, r.2) := by
  intro r r' h
  obtain ⟨hword, hpath⟩ := Prod.mk.inj h
  exact Prod.ext (Method.word_injective hword) hpath

theorem map_route (endpoints : List Endpoint) :
    endpoints.map Endpoint.route
      = (endpoints.map fun e => (e.method, e.path)).map fun r => (r.1.word, r.2) := by
  rw [List.map_map]
  rfl

/-! ### Servers -/

/-- What is read under other names does not change when the endpoints are left out. -/
theorem Fields.optional_filter {α : Type} {fields : Fields} {name other : String} (h : other ≠ name)
    (default : α) (read : Value → Checked α) :
    Fields.optional (fields.filter fun m => m.1 != .text other) name default read
      = fields.optional name default read := by
  rw [Fields.optional, Fields.optional, Members.get?_filter]
  intro m _ hm
  have hsame : m.1 = .text other := by simpa using hm
  rw [hsame]
  exact fun hkey => h (Key.text.inj hkey)

theorem Fields.unknown_filter {known : List String} {fields : Fields} {name : String} (h : name ∈ known) :
    Fields.unknown known (fields.filter fun m => m.1 != .text name) = Fields.unknown known fields := by
  rw [Fields.unknown, Fields.unknown, List.filterMap_filter]
  refine List.filterMap_congr fun m _ => ?_
  obtain ⟨key, v⟩ := m
  by_cases hkey : key = .text name
  · subst hkey
    simp [h]
  · simp [hkey]

/-- A list whose items are each read. -/
theorem readList_of_forall₂ {α : Type} {read : Value → Checked α} {data : List Value} {as : List α}
    (h : List.Forall₂ (fun v a => read v = .valid a) data as) : readList read (.list data) = .valid as := by
  have hitems : ∀ start, Checked.items read start data = .valid as := by
    induction h with
    | nil => exact fun _ => rfl
    | cons hfirst _ ih =>
      intro start
      rw [Checked.items, hfirst, ih]
      rfl
  exact hitems 0

section
variable {directory : Files.Path} {fields : Fields} {data : List Value} {endpoints : List Endpoint} {s : Server}

/-- With all parts in order, settings fail by the rule that their endpoints break, or not at all. -/
theorem Server.read_eq (hdata : Members.get? (.text "endpoints") fields = some (.list data))
    (heach : List.Forall₂ (fun v e => Endpoint.read v = .valid e) data endpoints)
    (hrest : Server.read directory (.object (fields.filter fun m => m.1 != .text "endpoints")) = .valid s) :
    Server.read directory (.object fields)
      = Checked.require (Server.ambiguity [] [] endpoints) { s with endpoints } := by
  obtain ⟨found, hrecord, hrule⟩ := Checked.andThen_eq_valid.mp hrest
  obtain ⟨-, rfl⟩ := Checked.require_eq_valid.mp hrule
  obtain ⟨hparts, hknown⟩ := Fields.closed_eq_valid.mp hrecord
  rw [Fields.unknown_filter (by decide)] at hknown
  -- the parts beside the endpoints are read as they are without them
  simp only [Checked.seq_eq_valid, Checked.map_eq_valid] at hparts
  obtain ⟨_, _, ⟨_, _, ⟨_, _, ⟨_, _, ⟨_, _, ⟨_, _, ⟨_, host, ⟨_, hhost, rfl⟩, hport, rfl⟩, hlevel, rfl⟩,
    hmodel, rfl⟩, hurl, rfl⟩, hkey, rfl⟩, -, rfl⟩, hdirectory, rfl⟩ := hparts
  rw [Fields.optional_filter (by decide)] at hhost hport hlevel hmodel hurl hkey hdirectory
  have hendpoints : fields.optional "endpoints" [] (readList Endpoint.read) = .valid endpoints := by
    rw [Fields.optional, hdata]
    exact Checked.under_eq_valid.mpr (readList_of_forall₂ heach)
  rw [Server.read, readRecord, hhost, hport, hlevel, hmodel, hurl, hkey, hdirectory, hendpoints]
  exact (congrArg (Checked.andThen · _) (Fields.closed_eq_valid.mpr ⟨rfl, hknown⟩)).trans rfl

/-- Endpoints that were read have the names and the routes of their data, in the same order. -/
theorem map_named (heach : List.Forall₂ (fun v e => Endpoint.read v = .valid e) data endpoints) :
    data.map nameOf = endpoints.map (·.name) ∧ data.map routeOf = endpoints.map Endpoint.route := by
  induction heach with
  | nil => exact ⟨rfl, rfl⟩
  | cons hfirst _ ih =>
    obtain ⟨hname, hroute⟩ := Endpoint.read_named hfirst
    simp only [List.map_cons, ih.1, ih.2, hname, hroute, and_self]

theorem forall_isSound (heach : List.Forall₂ (fun v e => Endpoint.read v = .valid e) data endpoints) :
    ∀ e ∈ endpoints, e.IsSound := by
  induction heach with
  | nil => exact fun _ he => absurd he List.not_mem_nil
  | cons hfirst _ ih => exact List.forall_mem_cons.mpr ⟨Endpoint.isSound_of_read hfirst, ih⟩

/-- Endpoints are unambiguous exactly when their data are. -/
theorem ambiguity_eq_none_iff (heach : List.Forall₂ (fun v e => Endpoint.read v = .valid e) data endpoints) :
    Server.ambiguity [] [] endpoints = none ↔ (data.map nameOf).Nodup ∧ (data.map routeOf).Nodup := by
  obtain ⟨hnames, hroutes⟩ := map_named heach
  rw [Server.ambiguity_eq_none, Apart, Apart, hnames, hroutes, map_route,
    List.nodup_map_iff route_injective]
  simp

/-- The first of the data whose name, or else whose route, is that of an earlier one, and the rule that this
breaks. -/
def BreaksFirst (data : List Value) (rule : Rule) : Prop :=
  ∃ before v after, data = before ++ v :: after ∧
    ((before.map nameOf).Nodup ∧ (before.map routeOf).Nodup) ∧
    ((nameOf v ∈ before.map nameOf ∧ rule = .oneEndpointOfName (nameOf v)) ∨
      (nameOf v ∉ before.map nameOf ∧ routeOf v ∈ before.map routeOf ∧
        rule = .oneEndpointOfRoute (routeOf v).1 (routeOf v).2 (nameOf v)))

theorem breaksFirst_of_ambiguity
    (heach : List.Forall₂ (fun v e => Endpoint.read v = .valid e) data endpoints) {rule : Rule}
    (h : Server.ambiguity [] [] endpoints = some rule) : BreaksFirst data rule := by
  obtain ⟨before, e, after, rfl, hbefore, hrule⟩ := ambiguity_eq_some h
  -- the data fall apart where the endpoints do
  obtain ⟨v, rest, hfirst, -, hsplit⟩ :=
    List.forall₂_cons_right_iff.mp (List.forall₂_drop_append data before (e :: after) heach)
  have hbefore' := List.forall₂_take_append data before (e :: after) heach
  obtain ⟨hnames, hroutes⟩ := map_named hbefore'
  obtain ⟨hname, hroute⟩ := Endpoint.read_named hfirst
  refine ⟨data.take before.length, v, rest, by rw [← hsplit, List.take_append_drop],
    (ambiguity_eq_none_iff hbefore').mp hbefore, ?_⟩
  rw [hnames, hroutes, ← hname, ← hroute, map_route, Endpoint.route]
  have hmem := List.mem_map_of_injective route_injective (l := before.map fun e => (e.method, e.path))
    (a := (e.method, e.path))
  simpa only [List.append_nil, ← hmem] using hrule

/-- Where all data make endpoints by themselves and the other settings are in order, the settings are accepted
exactly when no two of the data have the same name or the same route, and one rule is broken otherwise. -/
theorem Server.read_unambiguous (hdata : Members.get? (.text "endpoints") fields = some (.list data))
    (heach : List.Forall₂ (fun v e => Endpoint.read v = .valid e) data endpoints)
    (hrest : Server.read directory (.object (fields.filter fun m => m.1 != .text "endpoints")) = .valid s) :
    ((∃ server, Server.read directory (.object fields) = .valid server) ↔
      (data.map nameOf).Nodup ∧ (data.map routeOf).Nodup) ∧
    (∀ server, Server.read directory (.object fields) = .valid server →
      server = { s with endpoints } ∧ (∀ e ∈ endpoints, e.IsSound) ∧
        endpoints.map (·.name) = data.map nameOf ∧ endpoints.map Endpoint.route = data.map routeOf) ∧
    (∀ faults, Server.read directory (.object fields) = .invalid faults →
      ∃ rule, BreaksFirst data rule ∧ faults = [⟨[], .broken rule⟩]) := by
  rw [Server.read_eq hdata heach hrest, ← ambiguity_eq_none_iff heach]
  refine ⟨?_, ?_, ?_⟩
  · simp [Checked.require_eq_valid]
  · intro server hserver
    obtain ⟨-, rfl⟩ := Checked.require_eq_valid.mp hserver
    obtain ⟨hnames, hroutes⟩ := map_named heach
    exact ⟨rfl, forall_isSound heach, hnames.symm, hroutes.symm⟩
  · intro faults hfaults
    cases hrule : Server.ambiguity [] [] endpoints with
    | none => simp [hrule, Checked.require] at hfaults
    | some rule =>
      refine ⟨rule, breaksFirst_of_ambiguity heach hrule, ?_⟩
      simpa [hrule, Checked.require, Checked.fault] using hfaults.symm

end

/-- Settings with a port and endpoints that all run one module. -/
def wares (endpoints : List (List (String × Value))) : Fields :=
  [(.text "port", .int 80), (.text "endpoints", .list (endpoints.map fun fields =>
    .ofFields (fields ++ [("handler", .ofFields [("kind", .str "python"), ("module", .str "wares")])])))]

/-- A path that is written out can be the one that another endpoint leaves to its name. -/
theorem Server.read_unambiguous_wares :
    (∃ server, Server.read (Files.Path.read "/srv") (.object (wares [[("name", .str "items")],
      [("name", .str "list"), ("path", .str "items"), ("method", .str " get ")]])) = .valid server) ∧
    ¬ ∃ server, Server.read (Files.Path.read "/srv") (.object (wares [[("name", .str "items")],
      [("name", .str "list"), ("path", .str "items"), ("method", .str " get ")],
      [("name", .str "third"), ("path", .str "/items"), ("method", .str "post")]])) = .valid server := by
  have hmethods : capitals "POST" = "POST" ∧ capitals "post" = "POST" ∧ capitals " get " = "GET" := by decide
  constructor
  · refine (Server.read_unambiguous rfl (.cons rfl (.cons rfl .nil)) rfl).1.mpr ⟨by decide, ?_⟩
    simp [routeOf, placeOf, nameOf, textAt?, Value.ofFields, Members.get?, readText, Key.canonical, hmethods]
  · rw [(Server.read_unambiguous rfl (.cons rfl (.cons rfl (.cons rfl .nil))) rfl).1]
    rintro ⟨-, hroutes⟩
    simp [routeOf, placeOf, nameOf, textAt?, Value.ofFields, Members.get?, readText, Key.canonical, hmethods] at hroutes

end Switchboard.Config
