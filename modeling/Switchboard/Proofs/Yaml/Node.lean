import Switchboard.Proofs.Yaml.Token
import Switchboard.Yaml.Node

/-!
The nodes of a document all of whose collections stand in brackets.

* `Stands` — the nodes of a part, and where they are: the parts of a collection stand behind it;
* `Stream.Extends` — tokens were taken, and all nodes were kept;
* `Spelled.isTaken` — the tokens of a part are taken as its nodes;
* `Spelled.ofTokens_eq` — the tokens of a value are one document.

A place is taken for a collection before its parts are known, and the collection is put there afterwards. `Stands.mono`
therefore asks only for the nodes from a place on.
-/
namespace Switchboard.Yaml

open Json (Part)

/-! ### The nodes of a part -/

/-- Where the nodes of a part are. -/
inductive Places where
  | node (place : Nat)
  | items (places : List Nat)
  | pairs (pairs : List (Nat × Nat))

/-- The nodes of a part stand in a graph from a place on, those of a collection behind the collection. -/
inductive Stands (graph : Graph) : Nat → Places → Part → Prop where
  | scalar {low place : Nat} {form : Form} {text : String} {v : Value} (hlow : low ≤ place)
      (hnode : graph[place]? = some ⟨Tag.ofForm form, .scalar text⟩) (hv : form.Means text v) :
      Stands graph low (.node place) (.value v)
  | list {low place : Nat} {places : List Nat} {vs : List Value} (hlow : low ≤ place)
      (hnode : graph[place]? = some ⟨Tag.seq, .sequence places⟩)
      (h : Stands graph (place + 1) (.items places) (.items vs)) :
      Stands graph low (.node place) (.value (.list vs))
  | object {low place : Nat} {pairs : List (Nat × Nat)} {ms : List (Key × Value)} (hlow : low ≤ place)
      (hnode : graph[place]? = some ⟨Tag.map, .mapping pairs⟩)
      (h : Stands graph (place + 1) (.pairs pairs) (.members ms)) :
      Stands graph low (.node place) (.value (.object (Members.ofList ms)))
  | noItems {low : Nat} : Stands graph low (.items []) (.items [])
  | item {low place : Nat} {places : List Nat} {v : Value} {vs : List Value}
      (h : Stands graph low (.node place) (.value v)) (hrest : Stands graph low (.items places) (.items vs)) :
      Stands graph low (.items (place :: places)) (.items (v :: vs))
  | noMembers {low : Nat} : Stands graph low (.pairs []) (.members [])
  | member {low name place : Nat} {pairs : List (Nat × Nat)} {key : String} {v : Value} {ms : List (Key × Value)}
      (hlow : low ≤ name) (hname : graph[name]? = some ⟨Tag.str, .scalar key⟩)
      (h : Stands graph low (.node place) (.value v)) (hrest : Stands graph low (.pairs pairs) (.members ms)) :
      Stands graph low (.pairs ((name, place) :: pairs)) (.members ((.text key, v) :: ms))

section
variable {graph graph' : Graph} {low low' : Nat} {places : Places} {part : Part}

/-- A part stands where it is as long as the nodes from its place on are kept. -/
theorem Stands.mono (h : Stands graph low places part)
    (hkept : ∀ {place : Nat} {node : Node}, low ≤ place → graph[place]? = some node → graph'[place]? = some node) :
    Stands graph' low places part := by
  induction h with
  | scalar hlow hnode hv => exact .scalar hlow (hkept hlow hnode) hv
  | list hlow hnode _ ih =>
    exact .list hlow (hkept hlow hnode) (ih fun hplace => hkept (hlow.trans (Nat.le_of_succ_le hplace)))
  | object hlow hnode _ ih =>
    exact .object hlow (hkept hlow hnode) (ih fun hplace => hkept (hlow.trans (Nat.le_of_succ_le hplace)))
  | noItems => exact .noItems
  | item _ _ ih ihrest => exact .item (ih hkept) (ihrest hkept)
  | noMembers => exact .noMembers
  | member hlow hname _ _ ih ihrest => exact .member hlow (hkept hlow hname) (ih hkept) (ihrest hkept)

theorem Stands.weaken (h : Stands graph low places part) (hle : low' ≤ low) : Stands graph low' places part := by
  induction h generalizing low' with
  | scalar hlow hnode hv => exact .scalar (hle.trans hlow) hnode hv
  | list hlow hnode h _ => exact .list (hle.trans hlow) hnode h
  | object hlow hnode h _ => exact .object (hle.trans hlow) hnode h
  | noItems => exact .noItems
  | item _ _ ih ihrest => exact .item (ih hle) (ihrest hle)
  | noMembers => exact .noMembers
  | member hlow hname _ _ ih ihrest => exact .member (hle.trans hlow) hname (ih hle) (ihrest hle)

end

/-! ### Taking nodes -/

namespace Stream

/-- A stream with a place taken for a node whose parts are not yet known. -/
def reserved (s : Stream) : Stream := (s.add default).2

@[simp] theorem reserved_tokens (s : Stream) : s.reserved.tokens = s.tokens := rfl

@[simp] theorem size_reserved (s : Stream) : s.reserved.graph.size = s.graph.size + 1 := Array.size_push default

@[simp] theorem pop_graph (s : Stream) : s.pop.graph = s.graph := rfl

/-- A stream has taken some tokens, and all its nodes were kept. -/
structure Extends (more : List Token) (s s' : Stream) : Prop where
  tokens : s'.tokens = more
  stop : s'.stop = s.stop
  size : s.graph.size ≤ s'.graph.size
  kept : ∀ {place : Nat} {node : Node}, s.graph[place]? = some node → s'.graph[place]? = some node

section
variable {s s' s'' : Stream} {t : Token} {more more' rest : List Token}

theorem Extends.trans (h : Extends more s s') (h' : Extends more' s' s'') : Extends more' s s'' where
  tokens := h'.tokens
  stop := h'.stop.trans h.stop
  size := h.size.trans h'.size
  kept hnode := h'.kept (h.kept hnode)

theorem extends_pop (h : s.tokens = t :: rest) : Extends rest s s.pop where
  tokens := by rw [pop, h]; rfl
  stop := rfl
  size := le_refl _
  kept hnode := hnode

theorem peek_of_tokens (h : s.tokens = t :: rest) : s.peek = .ok (some t) := by rw [peek, h]

theorem isAt_of_tokens (h : s.tokens = t :: rest) (ts : List Token) : s.isAt ts = .ok (decide (t ∈ ts)) := by
  rw [isAt, peek_of_tokens h]
  rfl

end

end Stream

/-- A token that a value starts with. -/
inductive Starts : Token → Prop where
  | scalar (text : String) (plain : Bool) : Starts (.scalar text plain)
  | list : Starts .flowSequenceStart
  | object : Starts .flowMappingStart

theorem Spelled.starts {ts : List Token} {v : Value} (h : Spelled ts (.value v)) :
    ∃ t rest, Starts t ∧ ts = t :: rest := by
  cases h with
  | plain _ | quoted => exact ⟨_, _, .scalar _ _, rfl⟩
  | emptyList | list _ => exact ⟨_, _, .list, rfl⟩
  | emptyObject | object _ => exact ⟨_, _, .object, rfl⟩

section
variable {s s' : Stream} {t : Token} {rest more : List Token} {spot : Spot} {fuel : Nat} {node : Node}

/-- A node without anchor and tag takes the next place, and is put there when all its parts are known. -/
theorem takeNode_of_content (ht : Starts t) (htokens : s.tokens = t :: rest)
    (hcontent : takeContent spot fuel false none s.reserved = .ok (node, s')) :
    takeNode spot (fuel + 1) s = .ok (s.graph.size, s'.complete s.graph.size node) := by
  have hpeek := Stream.peek_of_tokens htokens
  have hproperties : s.takeProperties = .ok ((none, none), s) := by
    rw [Stream.takeProperties, hpeek]
    cases ht <;> rfl
  have hreserve : s.reserve none = .ok (s.graph.size, s.reserved) := rfl
  rw [takeNode, hpeek]
  cases ht <;>
    simp only [bind, Except.bind, hproperties, Stream.resolveTag, hreserve, Option.isSome_none, Bool.or_self, hcontent] <;>
    rfl

theorem takeContent_scalar {text : String} {plain : Bool} (htokens : s.tokens = .scalar text plain :: rest) :
    takeContent spot (fuel + 1) false none s = .ok (scalarNode none text plain, s.pop) := by
  rw [takeContent, Stream.peek_of_tokens htokens]
  rfl

theorem takeContent_list {places : List Nat} (htokens : s.tokens = .flowSequenceStart :: rest)
    (hitems : takeFlowItems true fuel s.pop = .ok (places, s')) :
    takeContent spot (fuel + 1) false none s = .ok (⟨Tag.seq, .sequence places⟩, s') := by
  rw [takeContent, Stream.peek_of_tokens htokens]
  simp only [bind, Except.bind, hitems]
  rfl

theorem takeContent_object {pairs : List (Nat × Nat)} (htokens : s.tokens = .flowMappingStart :: rest)
    (hpairs : takeFlowPairs true fuel s.pop = .ok (pairs, s')) :
    takeContent spot (fuel + 1) false none s = .ok (⟨Tag.map, .mapping pairs⟩, s') := by
  rw [takeContent, Stream.peek_of_tokens htokens]
  simp only [bind, Except.bind, hpairs]
  rfl

/-- The nodes in front of a new one stay, and so do those behind it. -/
theorem extends_complete (h : s.reserved.Extends more s') (node : Node) :
    s.Extends more (s'.complete s.graph.size node) ∧
      (s'.complete s.graph.size node).graph[s.graph.size]? = some node ∧
      ∀ {place : Nat} {node' : Node}, s.graph.size + 1 ≤ place → s'.graph[place]? = some node' →
        (s'.complete s.graph.size node).graph[place]? = some node' := by
  -- only the place that was taken first is written to
  have hsize : s.graph.size < s'.graph.size := s.size_reserved.symm.trans_le h.size
  have hne : ∀ {place : Nat}, place ≠ s.graph.size →
      (s'.complete s.graph.size node).graph[place]? = s'.graph[place]? := fun hplace =>
    Array.getElem?_setIfInBounds_ne hplace.symm
  refine ⟨⟨h.tokens, h.stop, ?_, fun {place node'} hnode => ?_⟩, ?_, fun {place node'} hplace hnode => ?_⟩
  · simpa [Stream.complete] using hsize.le
  · obtain ⟨hplace, hget⟩ := Array.getElem?_eq_some_iff.mp hnode
    rw [hne hplace.ne]
    refine h.kept ?_
    rw [Stream.reserved, Stream.add, Array.getElem?_push_lt hplace, hget]
  · exact Array.getElem?_setIfInBounds_self_of_lt hsize
  · rw [hne (Nat.ne_of_gt hplace), hnode]

theorem takeNode_scalar {text : String} {plain : Bool} (htokens : s.tokens = .scalar text plain :: rest)
    (hfuel : 2 ≤ fuel) : ∃ s', takeNode spot fuel s = .ok (s.graph.size, s') ∧ s.Extends rest s' ∧
      s'.graph[s.graph.size]? = some (scalarNode none text plain) := by
  obtain ⟨fuel, rfl⟩ : ∃ more, fuel = more + 2 := ⟨fuel - 2, by omega⟩
  have hreserved : s.reserved.tokens = .scalar text plain :: rest := htokens
  obtain ⟨hextends, hnode, -⟩ := extends_complete (Stream.extends_pop hreserved) (scalarNode none text plain)
  exact ⟨_, takeNode_of_content (.scalar text plain) htokens (takeContent_scalar hreserved), hextends, hnode⟩

/-- How a part is taken, with fuel for every token: its nodes stand behind those that there were. -/
def IsTaken (ts : List Token) : Part → Prop
  | .value v => ∀ {spot : Spot} {fuel : Nat} {s : Stream} {more : List Token}, s.tokens = ts ++ more →
      2 * ts.length ≤ fuel → ∃ place s', takeNode spot fuel s = .ok (place, s') ∧ s.Extends more s' ∧
        Stands s'.graph s.graph.size (.node place) (.value v)
  | .items vs => ∀ {first : Bool} {fuel : Nat} {s : Stream} {more : List Token},
      s.tokens = (if first then ts else .comma :: ts) ++ .flowSequenceEnd :: more → 2 * ts.length + 1 ≤ fuel →
      ∃ places s', takeFlowItems first fuel s = .ok (places, s') ∧ s.Extends more s' ∧
        Stands s'.graph s.graph.size (.items places) (.items vs)
  | .members ms => ∀ {first : Bool} {fuel : Nat} {s : Stream} {more : List Token},
      s.tokens = (if first then ts else .comma :: ts) ++ .flowMappingEnd :: more → 2 * ts.length + 1 ≤ fuel →
      ∃ pairs s', takeFlowPairs first fuel s = .ok (pairs, s') ∧ s.Extends more s' ∧
        Stands s'.graph s.graph.size (.pairs pairs) (.members ms)

theorem takeFlowItems_end {first : Bool} (htokens : s.tokens = .flowSequenceEnd :: rest) :
    takeFlowItems first (fuel + 1) s = .ok ([], s.pop) := by
  rw [takeFlowItems, Stream.isAt_of_tokens htokens]
  rfl

theorem takeFlowPairs_end {first : Bool} (htokens : s.tokens = .flowMappingEnd :: rest) :
    takeFlowPairs first (fuel + 1) s = .ok ([], s.pop) := by
  rw [takeFlowPairs, Stream.isAt_of_tokens htokens]
  rfl

/-- In front of any item but the first stands a comma. -/
theorem exists_behind_comma {first : Bool} {ts : List Token}
    (htokens : s.tokens = (if first then ts else .comma :: ts) ++ rest) : ∃ s₁, s.Extends (ts ++ rest) s₁ ∧ (first = true ∧ s = s₁ ∨ first = false ∧ takeComma s = .ok s₁) := by
  cases first with
  | true => exact ⟨s, ⟨htokens, rfl, le_refl _, fun hnode => hnode⟩, .inl ⟨rfl, rfl⟩⟩
  | false =>
    refine ⟨s.pop, Stream.extends_pop htokens, .inr ⟨rfl, ?_⟩⟩
    rw [takeComma, Stream.isAt_of_tokens htokens]
    rfl

theorem isAt_of_behind_comma {first : Bool} {ts ends : List Token}
    (htokens : s.tokens = (if first then t :: ts else .comma :: t :: ts) ++ rest) (ht : t ∉ ends)
    (hcomma : .comma ∉ ends) : s.isAt ends = .ok false := by
  cases first with
  | true => rw [Stream.isAt_of_tokens htokens, decide_eq_false ht]
  | false => rw [Stream.isAt_of_tokens htokens, decide_eq_false hcomma]

theorem takeFlowItems_step {first : Bool} {ts : List Token} (ht : Starts t)
    (htokens : s.tokens = (if first then t :: ts else .comma :: t :: ts) ++ rest) :
    ∃ s₁, s.Extends (t :: ts ++ rest) s₁ ∧ ∀ {fuel item : Nat} {s₂ s₃ : Stream} {items : List Nat},
      takeNode .flow fuel s₁ = .ok (item, s₂) → takeFlowItems false fuel s₂ = .ok (items, s₃) →
      takeFlowItems first (fuel + 1) s = .ok (item :: items, s₃) := by
  obtain ⟨s₁, hextends, hcomma⟩ := exists_behind_comma htokens
  have hend : s.isAt [.flowSequenceEnd] = .ok false := by
    refine isAt_of_behind_comma htokens ?_ (by decide)
    cases ht <;> simp
  refine ⟨s₁, hextends, fun {fuel item s₂ s₃ items} hnode hrest => ?_⟩
  have hpeek : s₁.peek = .ok (some t) := Stream.peek_of_tokens hextends.tokens
  rw [takeFlowItems, hend]
  obtain ⟨rfl, rfl⟩ | ⟨rfl, hcomma⟩ := hcomma
  · simp only [bind, Except.bind, pure, Except.pure, Bool.false_eq_true, if_false, if_true, hpeek]
    cases ht <;> simp only [hnode, hrest]
  · simp only [bind, Except.bind, pure, Except.pure, Bool.false_eq_true, if_false, hcomma, hpeek]
    cases ht <;> simp only [hnode, hrest]

/-- The name of a member is a node of its own. -/
theorem takeFlowPairs_step {first : Bool} {key : String} {ts : List Token} (ht : Starts t) (hfuel : 1 ≤ fuel)
    (htokens : s.tokens
      = (if first then .key :: .scalar key false :: .value :: t :: ts
          else .comma :: .key :: .scalar key false :: .value :: t :: ts) ++ rest) :
    ∃ name s₁, s.Extends (t :: ts ++ rest) s₁ ∧ s.graph.size ≤ name ∧
      s₁.graph[name]? = some ⟨Tag.str, .scalar key⟩ ∧
      ∀ {place : Nat} {s₂ s₃ : Stream} {pairs : List (Nat × Nat)}, takeNode .flow fuel s₁ = .ok (place, s₂) →
        takeFlowPairs false (fuel + 2) s₂ = .ok (pairs, s₃) →
        takeFlowPairs first (fuel + 3) s = .ok ((name, place) :: pairs, s₃) := by
  obtain ⟨s₀, hextends, hcomma⟩ := exists_behind_comma htokens
  have hend : s.isAt [.flowMappingEnd] = .ok false := isAt_of_behind_comma htokens (by decide) (by decide)
  have hkey := Stream.extends_pop hextends.tokens
  obtain ⟨s₁, hname, hextends₁, hnode⟩ := @takeNode_scalar _ _ .flow (fuel + 1) _ _ hkey.tokens (by omega)
  have hvalue := Stream.extends_pop hextends₁.tokens
  refine ⟨s₀.graph.size, s₁.pop, hextends.trans (hkey.trans (hextends₁.trans hvalue)), hextends.size, hnode, ?_⟩
  intro place s₂ s₃ pairs hplace hrest
  have hends : ∀ u ∈ [Token.comma, .flowMappingEnd], t ≠ u := by cases ht <;> simp
  have hnot : t ∉ [Token.comma, .flowMappingEnd] := fun hmem => hends t hmem rfl
  have htakeKey : takeUnless .flow [.value, .comma, .flowMappingEnd] (fuel + 2) s₀.pop = .ok (s₀.graph.size, s₁) := by
    rw [takeUnless, Stream.isAt_of_tokens hkey.tokens]
    exact hname
  have htakeValue : takeValue .flow [.comma, .flowMappingEnd] (fuel + 2) s₁ = .ok (place, s₂) := by
    rw [takeValue, Stream.isAt_of_tokens hextends₁.tokens]
    simp only [bind, Except.bind, List.mem_singleton, decide_true, if_true]
    rw [takeUnless, Stream.isAt_of_tokens hvalue.tokens, decide_eq_false hnot]
    exact hplace
  have hpeek : s₀.peek = .ok (some .key) := Stream.peek_of_tokens hextends.tokens
  rw [takeFlowPairs, hend]
  obtain ⟨rfl, rfl⟩ | ⟨rfl, hcomma⟩ := hcomma
  · simp only [bind, Except.bind, pure, Except.pure, Bool.false_eq_true, if_false, if_true, hpeek, htakeKey, htakeValue,
      hrest]
  · simp only [bind, Except.bind, pure, Except.pure, Bool.false_eq_true, if_false, hcomma, hpeek, htakeKey, htakeValue,
      hrest]

/-- A collection stands in front of its parts. -/
theorem isTaken_list {ts : List Token} {vs : List Value}
    (h : ∀ {fuel : Nat} {s : Stream} {more : List Token}, s.tokens = ts ++ .flowSequenceEnd :: more →
      2 * ts.length + 1 ≤ fuel → ∃ places s', takeFlowItems true fuel s = .ok (places, s') ∧ s.Extends more s' ∧
        Stands s'.graph s.graph.size (.items places) (.items vs)) :
    IsTaken (.flowSequenceStart :: (ts ++ [.flowSequenceEnd])) (.value (.list vs)) := by
  intro spot fuel s more htokens hfuel
  obtain ⟨fuel, rfl⟩ : ∃ more, fuel = more + 2 := ⟨fuel - 2, by simp at hfuel; omega⟩
  have hreserved : s.reserved.tokens = .flowSequenceStart :: (ts ++ .flowSequenceEnd :: more) := by
    simpa using htokens
  have hpop := Stream.extends_pop hreserved
  obtain ⟨places, s', hitems, hextends, hstands⟩ := h hpop.tokens (by simp at hfuel; omega : 2 * ts.length + 1 ≤ fuel)
  obtain ⟨hcomplete, hnode, hkept⟩ := extends_complete (hpop.trans hextends) ⟨Tag.seq, .sequence places⟩
  refine ⟨_, _, takeNode_of_content .list hreserved (takeContent_list hreserved hitems), hcomplete, ?_⟩
  rw [Stream.pop_graph, Stream.size_reserved] at hstands
  exact .list (le_refl _) hnode (hstands.mono hkept)

theorem isTaken_object {ts : List Token} {ms : List (Key × Value)}
    (h : ∀ {fuel : Nat} {s : Stream} {more : List Token}, s.tokens = ts ++ .flowMappingEnd :: more →
      2 * ts.length + 1 ≤ fuel → ∃ pairs s', takeFlowPairs true fuel s = .ok (pairs, s') ∧ s.Extends more s' ∧
        Stands s'.graph s.graph.size (.pairs pairs) (.members ms)) :
    IsTaken (.flowMappingStart :: (ts ++ [.flowMappingEnd])) (.value (.object (Members.ofList ms))) := by
  intro spot fuel s more htokens hfuel
  obtain ⟨fuel, rfl⟩ : ∃ more, fuel = more + 2 := ⟨fuel - 2, by simp at hfuel; omega⟩
  have hreserved : s.reserved.tokens = .flowMappingStart :: (ts ++ .flowMappingEnd :: more) := by
    simpa using htokens
  have hpop := Stream.extends_pop hreserved
  obtain ⟨pairs, s', hpairs, hextends, hstands⟩ := h hpop.tokens (by simp at hfuel; omega : 2 * ts.length + 1 ≤ fuel)
  obtain ⟨hcomplete, hnode, hkept⟩ := extends_complete (hpop.trans hextends) ⟨Tag.map, .mapping pairs⟩
  refine ⟨_, _, takeNode_of_content .object hreserved (takeContent_object hreserved hpairs), hcomplete, ?_⟩
  rw [Stream.pop_graph, Stream.size_reserved] at hstands
  exact .object (le_refl _) hnode (hstands.mono hkept)

end

/-- The tokens of a part are read as its nodes. -/
theorem Spelled.isTaken {ts : List Token} {part : Part} (h : Spelled ts part) : IsTaken ts part := by
  induction h with
  | plain hv =>
    intro spot fuel s more htokens hfuel
    obtain ⟨s', htake, hextends, hnode⟩ := takeNode_scalar htokens hfuel
    exact ⟨_, s', htake, hextends, .scalar (le_refl _) hnode hv⟩
  | quoted =>
    intro spot fuel s more htokens hfuel
    obtain ⟨s', htake, hextends, hnode⟩ := takeNode_scalar htokens hfuel
    have hnode : s'.graph[s.graph.size]? = some ⟨Tag.ofForm .text, .scalar _⟩ := hnode
    exact ⟨_, s', htake, hextends, .scalar (le_refl _) hnode .text⟩
  | emptyList =>
    refine @isTaken_list [] [] fun {fuel s more} htokens hfuel => ?_
    obtain ⟨fuel, rfl⟩ : ∃ more, fuel = more + 1 := ⟨fuel - 1, by omega⟩
    exact ⟨[], s.pop, takeFlowItems_end htokens, Stream.extends_pop htokens, .noItems⟩
  | list _ ih => exact isTaken_list fun htokens hfuel => @ih true _ _ _ htokens hfuel
  | emptyObject =>
    refine @isTaken_object [] [] fun {fuel s more} htokens hfuel => ?_
    obtain ⟨fuel, rfl⟩ : ∃ more, fuel = more + 1 := ⟨fuel - 1, by omega⟩
    exact ⟨[], s.pop, takeFlowPairs_end htokens, Stream.extends_pop htokens, .noMembers⟩
  | object _ ih => exact isTaken_object fun htokens hfuel => @ih true _ _ _ htokens hfuel
  | lastItem h ih =>
    intro first fuel s more htokens hfuel
    obtain ⟨t, ts, ht, rfl⟩ := h.starts
    obtain ⟨fuel, rfl⟩ : ∃ more, fuel = more + 1 := ⟨fuel - 1, by omega⟩
    obtain ⟨s₁, hextends, hstep⟩ := takeFlowItems_step ht htokens
    obtain ⟨place, s₂, hnode, hextends₂, hstands⟩ := @ih .flow _ _ _ hextends.tokens (by omega : _ ≤ fuel)
    obtain ⟨fuel, rfl⟩ : ∃ more, fuel = more + 1 := ⟨fuel - 1, by simp at hfuel; omega⟩
    have hend := Stream.extends_pop hextends₂.tokens
    refine ⟨[place], s₂.pop, hstep hnode (takeFlowItems_end hextends₂.tokens), hextends.trans (hextends₂.trans hend), ?_⟩
    exact .item (hstands.weaken hextends.size) .noItems
  | @item ts rest _ _ h _ ih ihrest =>
    intro first fuel s more htokens hfuel
    obtain ⟨t, ts, ht, rfl⟩ := h.starts
    obtain ⟨fuel, rfl⟩ : ∃ more, fuel = more + 1 := ⟨fuel - 1, by omega⟩
    simp only [List.length_append, List.length_cons] at hfuel
    obtain ⟨s₁, hextends, hstep⟩ := takeFlowItems_step ht htokens
    have htokens₁ : s₁.tokens = t :: ts ++ (.comma :: rest ++ .flowSequenceEnd :: more) := by
      simpa using hextends.tokens
    obtain ⟨place, s₂, hnode, hextends₂, hstands⟩ := @ih .flow _ _ _ htokens₁ (by simp; omega : _ ≤ fuel)
    obtain ⟨places, s₃, hitems, hextends₃, hstands₃⟩ := @ihrest false _ _ _ hextends₂.tokens (by omega : _ ≤ fuel)
    refine ⟨place :: places, s₃, hstep hnode hitems, hextends.trans (hextends₂.trans hextends₃), ?_⟩
    have hplace := (hstands.weaken hextends.size).mono fun _ hnode => hextends₃.kept hnode
    exact .item hplace (hstands₃.weaken (hextends.size.trans hextends₂.size))
  | lastMember h ih =>
    intro first fuel s more htokens hfuel
    obtain ⟨t, ts, ht, rfl⟩ := h.starts
    simp only [List.length_cons] at hfuel
    obtain ⟨fuel, rfl⟩ : ∃ more, fuel = more + 3 := ⟨fuel - 3, by omega⟩
    obtain ⟨name, s₁, hextends, hlow, hname, hstep⟩ := takeFlowPairs_step ht (by omega : 1 ≤ fuel) htokens
    obtain ⟨place, s₂, hnode, hextends₂, hstands⟩ := @ih .flow _ _ _ hextends.tokens (by simp; omega : _ ≤ fuel)
    have hend := Stream.extends_pop hextends₂.tokens
    refine ⟨[(name, place)], s₂.pop, hstep hnode (takeFlowPairs_end hextends₂.tokens),
      hextends.trans (hextends₂.trans hend), ?_⟩
    exact .member hlow (hextends₂.kept hname) (hstands.weaken hextends.size) .noMembers
  | @member key ts rest _ _ h _ ih ihrest =>
    intro first fuel s more htokens hfuel
    obtain ⟨t, ts, ht, rfl⟩ := h.starts
    simp only [List.length_append, List.length_cons] at hfuel
    obtain ⟨fuel, rfl⟩ : ∃ more, fuel = more + 3 := ⟨fuel - 3, by omega⟩
    obtain ⟨name, s₁, hextends, hlow, hname, hstep⟩ :=
      takeFlowPairs_step ht (by omega : 1 ≤ fuel) htokens
    have htokens₁ : s₁.tokens = t :: ts ++ (.comma :: rest ++ .flowMappingEnd :: more) := by
      simpa using hextends.tokens
    obtain ⟨place, s₂, hnode, hextends₂, hstands⟩ := @ih .flow _ _ _ htokens₁ (by simp; omega : _ ≤ fuel)
    obtain ⟨pairs, s₃, hpairs, hextends₃, hstands₃⟩ :=
      @ihrest false _ _ _ hextends₂.tokens (by omega : _ ≤ fuel + 2)
    refine ⟨(name, place) :: pairs, s₃, hstep hnode hpairs, hextends.trans (hextends₂.trans hextends₃), ?_⟩
    have hplace := (hstands.weaken hextends.size).mono fun _ hnode => hextends₃.kept hnode
    exact .member hlow (hextends₃.kept (hextends₂.kept hname)) hplace
      (hstands₃.weaken (hextends.size.trans hextends₂.size))

/-- The tokens of a value are read as one document. -/
theorem Spelled.ofTokens_eq {ts : List Token} {v : Value} (h : Spelled ts (.value v)) (dialect : Dialect) :
    ∃ graph root, Graph.ofTokens dialect ts none = .ok (some (graph, root)) ∧ Stands graph 0 (.node root) (.value v) := by
  obtain ⟨t, rest, ht, hts⟩ := h.starts
  have hpeek : Stream.peek ⟨ts, none, dialect, Tag.handles, #[], []⟩ = .ok (some t) := Stream.peek_of_tokens hts
  generalize hstart : (⟨ts, none, dialect, Tag.handles, #[], []⟩ : Stream) = start at hpeek
  have htokens : start.tokens = ts ++ [] := by rw [← hstart, List.append_nil]
  have htaken : IsTaken ts (.value v) := h.isTaken
  obtain ⟨root, s, htake, hextends, hstands⟩ := @htaken .block (4 * ts.length + 8) start [] htokens (by omega)
  have hend : s.peek = .ok none := by rw [Stream.peek, hextends.tokens, hextends.stop, ← hstart]
  have hskip : skipDocumentEnds (s.tokens.length + 1) s = .ok s := by
    rw [skipDocumentEnds, Stream.isAt, hend]
    rfl
  refine ⟨s.graph, root, ?_, hstands.weaken (Nat.zero_le _)⟩
  rw [Graph.ofTokens]
  simp only [hstart, hpeek, bind, Except.bind]
  cases ht <;> simp only [Bool.false_eq_true, if_false, htake, hskip, hend] <;> rfl

end Switchboard.Yaml
