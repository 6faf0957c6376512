import Switchboard.Proofs.Members
import Switchboard.Proofs.Yaml.Node
import Switchboard.Yaml.Reader

/-!
The value of a document all of whose collections stand in brackets.

* `Building.Sound` — what has been built is right, or still to be filled;
* `Building.Sound.start`, `fill`, `finish` — it stays so, and with a step for each collection all are filled;
* `Building.Sound.isRead` — then the value of every part can be read;
* `Stands.value_eq`, `Common.IsDocument.read_eq` — the value of a graph, and of a text that both notations know.

Collections are filled in the order in which they are met, long after they are built, so that no induction on the value
follows the run. The invariant speaks of all nodes at once, and the value is read off the finished graph, by induction on
the part: places grow on the way inwards, and no collection is met inside itself.
-/
namespace Switchboard.Yaml

open Json (Part)

/-! ### Tags -/

theorem formOf?_ofForm (form : Form) : formOf? (Tag.ofForm form) = some form := by cases form <;> rfl

theorem ofForm_injective {form form' : Form} (h : Tag.ofForm form = Tag.ofForm form') : form = form' := by
  have hform := congrArg formOf? h
  rw [formOf?_ofForm, formOf?_ofForm] at hform
  exact Option.some.inj hform

theorem kind_ofForm (form : Form) :
    Kind.ofTag? (Tag.ofForm form) = none ∧ Tag.ofForm form ≠ Tag.standard ++ "binary" := by
  cases form <;> exact ⟨rfl, by decide⟩

theorem Form.Means.unique {form : Form} {text : String} {v v' : Value} (h : form.Means text v)
    (h' : form.Means text v') : v = v' := by
  cases h with
  | null => cases h'; rfl
  | bool h => cases h' with | bool h' => rw [Except.ok.inj (h.symm.trans h')]
  | int h => cases h' with | int h' => rw [Except.ok.inj (h.symm.trans h')]
  | float h => cases h' with | float h' => rw [Except.ok.inj (h.symm.trans h')]
  | text => cases h'; rfl

theorem node_of_getElem? {graph : Graph} {place : Nat} {node : Node} (h : graph[place]? = some node) :
    graph.node place = node := by
  rw [Graph.node, h]
  rfl

/-- The value of a scalar is what its form makes of its text. -/
theorem scalar_of_means {graph : Graph} {place : Nat} {tag text : String} {form : Form} {v : Value}
    (hnode : graph[place]? = some ⟨tag, .scalar text⟩) (hv : form.Means text v) :
    Building.scalar graph place form = .ok v := by
  have htext : Building.text graph (graph.size + 1) place = .ok text := by
    rw [Building.text, node_of_getElem? hnode]
  cases hv with
  | null => simp only [Building.scalar, htext]; rfl
  | bool h => simp only [Building.scalar, htext, bind, Except.bind, h]
  | int h => simp only [Building.scalar, htext, bind, Except.bind, h]
  | float h => simp only [Building.scalar, htext, bind, Except.bind, h]
  | text => simp only [Building.scalar, htext]; rfl

/-! ### Mappings without merges -/

/-- A mapping none of whose keys has a tag of its own kind takes no pairs in. -/
theorem merge_eq {graph : Graph} {place : Nat}
    (h : ∀ p ∈ (graph.pairs? place).getD [], (graph.node p.1).tag = Tag.str) : graph.merge place = .ok graph := by
  have hfrom : ∀ fuel index, graph.mergeFrom place fuel index [] = .ok graph := by
    intro fuel
    induction fuel with
    | zero => exact fun _ => rfl
    | succ fuel ih =>
      intro index
      rw [Graph.mergeFrom]
      cases hpair : ((graph.pairs? place).getD [])[index]? with
      | none => rfl
      | some pair =>
        have htag := h pair (List.mem_of_getElem? hpair)
        have hmerge : Tag.str ≠ Tag.ofForm .merge := by decide
        have hequals : Tag.str ≠ Tag.ofForm .equals := by decide
        simp only [htag, if_neg hmerge, if_neg hequals]
        exact ih (index + 1)
  exact hfrom _ 0

/-! ### Building -/

/-- A node that some value stands at. -/
def Graph.Known (graph : Graph) (place : Nat) : Prop := ∃ low v, Stands graph low (.node place) (.value v)

/-- The text of a scalar. -/
def Graph.label (graph : Graph) (place : Nat) : String :=
  match (graph.node place).content with
  | .scalar text => text
  | _ => ""

/-- The pairs of a mapping whose keys are texts. -/
def Graph.entries (graph : Graph) (pairs : List (Nat × Nat)) : List (Key × Nat) :=
  pairs.map fun p => (.text (graph.label p.1), p.2)

/-- A collection that is to be filled. -/
inductive Awaits (graph : Graph) : Nat × Kind → Prop where
  | list {place : Nat} {places : List Nat} {vs : List Value}
      (hnode : graph[place]? = some ⟨Tag.seq, .sequence places⟩)
      (h : Stands graph (place + 1) (.items places) (.items vs)) : Awaits graph (place, .list)
  | object {place : Nat} {pairs : List (Nat × Nat)} {ms : List (Key × Value)}
      (hnode : graph[place]? = some ⟨Tag.map, .mapping pairs⟩)
      (h : Stands graph (place + 1) (.pairs pairs) (.members ms)) : Awaits graph (place, .mapping)

/-- What a node is built into in the end: all its parts have been built, if only into empty collections. -/
inductive Fits (graph : Graph) (isBuilt : Nat → Prop) (place : Nat) : Cell → Prop where
  | leaf {form : Form} {text : String} {v : Value} (hnode : graph[place]? = some ⟨Tag.ofForm form, .scalar text⟩)
      (hv : form.Means text v) : Fits graph isBuilt place (.leaf v)
  | list {places : List Nat} (hnode : graph[place]? = some ⟨Tag.seq, .sequence places⟩)
      (hparts : ∀ p ∈ places, isBuilt p) : Fits graph isBuilt place (.list places)
  | object {pairs : List (Nat × Nat)} (hnode : graph[place]? = some ⟨Tag.map, .mapping pairs⟩)
      (hparts : ∀ p ∈ pairs, isBuilt p.2) :
      Fits graph isBuilt place (.mapping (Members.ofList (graph.entries pairs)))

section
variable {graph : Graph} {isBuilt : Nat → Prop} {place : Nat} {cell : Cell}

/-- The node of a scalar leaves only its value. -/
theorem Fits.leaf_eq {form : Form} {text : String} {v : Value} (h : Fits graph isBuilt place cell)
    (hnode : graph[place]? = some ⟨Tag.ofForm form, .scalar text⟩) (hv : form.Means text v) : cell = .leaf v := by
  cases h with
  | leaf hother hv' =>
    obtain ⟨htag, htext⟩ := Node.mk.inj (Option.some.inj (hnode.symm.trans hother))
    obtain rfl := ofForm_injective htag
    obtain rfl := Content.scalar.inj htext
    rw [hv.unique hv']
  | list hother _ | object hother _ => simp [hnode] at hother

theorem Fits.list_eq {places : List Nat} (h : Fits graph isBuilt place cell)
    (hnode : graph[place]? = some ⟨Tag.seq, .sequence places⟩) :
    cell = .list places ∧ ∀ p ∈ places, isBuilt p := by
  cases h with
  | leaf hother _ | object hother _ => simp [hnode] at hother
  | list hother hparts =>
    obtain rfl := Content.sequence.inj (Node.mk.inj (Option.some.inj (hnode.symm.trans hother))).2
    exact ⟨rfl, hparts⟩

theorem Fits.object_eq {pairs : List (Nat × Nat)} (h : Fits graph isBuilt place cell)
    (hnode : graph[place]? = some ⟨Tag.map, .mapping pairs⟩) :
    cell = .mapping (Members.ofList (graph.entries pairs)) ∧ ∀ p ∈ pairs, isBuilt p.2 := by
  cases h with
  | leaf hother _ | list hother _ => simp [hnode] at hother
  | object hother hparts =>
    obtain rfl := Content.mapping.inj (Node.mk.inj (Option.some.inj (hnode.symm.trans hother))).2
    exact ⟨rfl, hparts⟩

end

theorem Fits.mono {graph : Graph} {isBuilt isBuilt' : Nat → Prop} {place : Nat} {cell : Cell}
    (h : Fits graph isBuilt place cell) (hmono : ∀ p, isBuilt p → isBuilt' p) : Fits graph isBuilt' place cell := by
  cases h with
  | leaf hnode hv => exact .leaf hnode hv
  | list hnode hparts => exact .list hnode fun p hp => hmono p (hparts p hp)
  | object hnode hparts => exact .object hnode fun p hp => hmono p.2 (hparts p hp)

theorem Stands.known_items {graph : Graph} {low : Nat} {places : List Nat} {vs : List Value}
    (h : Stands graph low (.items places) (.items vs)) : ∀ p ∈ places, graph.Known p := by
  induction places generalizing vs with
  | nil => simp
  | cons p places ih =>
    cases h with
    | item h hrest => exact List.forall_mem_cons.mpr ⟨⟨_, _, h⟩, ih hrest⟩

theorem Stands.low_le {graph : Graph} {low place : Nat} {v : Value} (h : Stands graph low (.node place) (.value v)) :
    low ≤ place := by
  cases h with
  | scalar hlow _ _ | list hlow _ _ | object hlow _ _ => exact hlow

/-- The keys of a mapping are texts, so that no mapping is merged. -/
theorem Stands.merge_eq {graph : Graph} {low place : Nat} {tag : String} {pairs : List (Nat × Nat)}
    {ms : List (Key × Value)} (h : Stands graph low (.pairs pairs) (.members ms)) (hnode : graph[place]? = some ⟨tag, .mapping pairs⟩) :
    graph.pairs? place = some pairs ∧ graph.merge place = .ok graph := by
  have hpairs : graph.pairs? place = some pairs := by rw [Graph.pairs?, node_of_getElem? hnode]
  refine ⟨hpairs, Yaml.merge_eq ?_⟩
  rw [hpairs, Option.getD_some]
  clear hpairs hnode
  induction pairs generalizing ms with
  | nil => simp
  | cons p pairs ih =>
    cases h with
    | member _ hname _ hrest => exact List.forall_mem_cons.mpr ⟨by rw [node_of_getElem? hname], ih hrest⟩

namespace Building

/-- A node has been built, if only into an empty collection. -/
def IsBuilt (b : Building) (place : Nat) : Prop := (b.cell? place).isSome = true

/-- The steps that are left at most: every node is built once, and every collection is filled once. -/
def remaining (b : Building) : Nat := b.waiting.length + b.cells.toList.countP Option.isNone

/-- What has been built is right or still to be filled; `busy` are the collections that are just being filled. -/
structure Sound (graph : Graph) (busy : List (Nat × Kind)) (b : Building) : Prop where
  same : b.graph = graph
  size : b.cells.size = graph.size
  awaits : ∀ w ∈ busy ++ b.waiting, Awaits graph w
  begun : ∀ w ∈ busy ++ b.waiting, b.IsBuilt w.1
  settled : ∀ {place : Nat} {cell : Cell}, b.cell? place = some cell →
    (∃ kind, (place, kind) ∈ busy ++ b.waiting) ∨ Fits graph b.IsBuilt place cell

/-- More has been built, and no more steps are left than before. -/
structure Grows (b b' : Building) : Prop where
  kept : ∀ place, b.IsBuilt place → b'.IsBuilt place
  remaining : b'.remaining ≤ b.remaining

section
variable {graph : Graph} {busy more : List (Nat × Kind)} {b b' b'' : Building} {place : Nat} {cell : Cell}

theorem Grows.refl (b : Building) : Grows b b := ⟨fun _ h => h, le_refl _⟩

theorem Grows.trans (h : Grows b b') (h' : Grows b' b'') : Grows b b'' :=
  ⟨fun place hplace => h'.kept place (h.kept place hplace), h'.remaining.trans h.remaining⟩

theorem cell?_put_self (h : place < b.cells.size) : (b.put place cell).cell? place = some cell := by
  rw [cell?, put, Array.getElem?_setIfInBounds_self_of_lt h]
  rfl

theorem cell?_put_of_ne {other : Nat} (h : other ≠ place) : (b.put place cell).cell? other = b.cell? other := by
  rw [cell?, put, Array.getElem?_setIfInBounds_ne h.symm]
  rfl

theorem isBuilt_put (h : place < b.cells.size) {other : Nat} (hother : b.IsBuilt other) :
    (b.put place cell).IsBuilt other := by
  by_cases heq : other = place
  · rw [heq, IsBuilt, cell?_put_self h]
    rfl
  · rwa [IsBuilt, cell?_put_of_ne heq]

theorem countP_put (h : place < b.cells.size) :
    (b.put place cell).cells.toList.countP Option.isNone + (if (b.cell? place).isNone then 1 else 0)
      = b.cells.toList.countP Option.isNone := by
  have hlt : place < b.cells.toList.length := by rwa [Array.length_toList]
  have hcell : b.cell? place = b.cells.toList[place] := by
    rw [cell?, Array.getElem?_eq_getElem h, Array.getElem_toList]
    rfl
  have hcount : (b.put place cell).cells.toList.countP Option.isNone
      = b.cells.toList.countP Option.isNone - (if (b.cell? place).isNone then 1 else 0) := by
    rw [put, Array.toList_setIfInBounds, List.countP_set hlt, hcell]
    rfl
  have hle : (if (b.cell? place).isNone then 1 else 0) ≤ b.cells.toList.countP Option.isNone := by
    split
    · next hnone => exact List.countP_pos_iff.mpr ⟨_, List.getElem_mem hlt, hcell ▸ hnone⟩
    · exact Nat.zero_le _
  omega

/-- Nothing changes for the other nodes. -/
theorem Sound.settled_put (h : Sound graph busy b) (hplace : place < b.cells.size) {other : Nat} {c : Cell}
    (hne : other ≠ place) (hother : (b.put place cell).cell? other = some c) :
    (∃ kind, (other, kind) ∈ busy ++ b.waiting) ∨ Fits graph (b.put place cell).IsBuilt other c := by
  rw [cell?_put_of_ne hne] at hother
  exact (h.settled hother).imp_right fun hfits => hfits.mono fun _ => isBuilt_put hplace

/-- A node that is built for the first time, and perhaps is still to be filled. -/
theorem Sound.put_new (h : Sound graph busy b) (hnew : b.cell? place = none) (hplace : place < graph.size)
    (hmore : ∀ w ∈ more, Awaits graph w ∧ w.1 = place) (hlength : more.length ≤ 1)
    (hcell : (∃ kind, (place, kind) ∈ more) ∨ Fits graph b.IsBuilt place cell) :
    Sound graph busy { b.put place cell with waiting := b.waiting ++ more } ∧
      Grows b { b.put place cell with waiting := b.waiting ++ more } ∧
      IsBuilt { b.put place cell with waiting := b.waiting ++ more } place := by
  have hsize : place < b.cells.size := h.size ▸ hplace
  have hkept : ∀ p, b.IsBuilt p → IsBuilt { b.put place cell with waiting := b.waiting ++ more } p :=
    fun p hp => isBuilt_put hsize hp
  have hplaced : IsBuilt { b.put place cell with waiting := b.waiting ++ more } place :=
    congrArg Option.isSome (cell?_put_self hsize)
  refine ⟨⟨h.same, ?_, ?_, ?_, fun {p c} hp => ?_⟩, ⟨hkept, ?_⟩, hplaced⟩
  · exact (Array.size_setIfInBounds).trans h.size
  · rw [← List.append_assoc]
    exact List.forall_mem_append.mpr ⟨h.awaits, fun w hw => (hmore w hw).1⟩
  · rw [← List.append_assoc]
    exact List.forall_mem_append.mpr ⟨fun w hw => hkept _ (h.begun w hw), fun w hw => (hmore w hw).2 ▸ hplaced⟩
  · by_cases heq : p = place
    · subst heq
      obtain rfl := Option.some.inj ((cell?_put_self hsize).symm.trans hp)
      exact hcell.imp (fun ⟨kind, hkind⟩ => ⟨kind, by simp [hkind]⟩) fun hfits => hfits.mono hkept
    · refine (h.settled_put hsize heq hp).imp_left fun ⟨kind, hkind⟩ => ⟨kind, ?_⟩
      rw [← List.append_assoc]
      exact List.mem_append_left _ hkind
  · have hcount := @countP_put b _ cell hsize
    simp only [hnew, Option.isNone_none, if_true] at hcount
    simp only [remaining, List.length_append]
    omega

/-- A node that some value stands at can be built. -/
theorem Sound.start (h : Sound graph busy b) (hknown : graph.Known place) :
    ∃ b', b.start place = .ok b' ∧ Sound graph busy b' ∧ Grows b b' ∧ b'.IsBuilt place := by
  by_cases hbuilt : (b.cell? place).isSome = true
  · refine ⟨b, ?_, h, .refl b, hbuilt⟩
    rw [Building.start, if_pos hbuilt]
    rfl
  have hnew : b.cell? place = none := by simpa using hbuilt
  obtain ⟨low, v, hstands⟩ := hknown
  -- the last field of the new state, as `start` writes it for a scalar
  have hnil : ∀ cell, ({ b.put place cell with waiting := b.waiting ++ [] } : Building) = b.put place cell := by
    intro cell
    rw [List.append_nil]
    rfl
  cases hstands with
  | @scalar _ _ form text _ _ hnode hv =>
    have hplace := (Array.getElem?_eq_some_iff.mp hnode).1
    obtain ⟨hsound, hgrows, hplaced⟩ :=
      h.put_new hnew hplace (by simp : ∀ w ∈ [], Awaits graph w ∧ w.1 = place) (by simp) (.inr (.leaf hnode hv))
    rw [hnil] at hsound hgrows hplaced
    refine ⟨_, ?_, hsound, hgrows, hplaced⟩
    obtain ⟨hkind, hbinary⟩ := kind_ofForm form
    rw [Building.start, if_neg hbuilt, h.same, node_of_getElem? hnode]
    simp only [hkind, if_neg hbinary, formOf?_ofForm, scalar_of_means hnode hv]
    rfl
  | list _ hnode hitems =>
    have hplace := (Array.getElem?_eq_some_iff.mp hnode).1
    obtain ⟨hsound, hgrows, hplaced⟩ := h.put_new hnew hplace
      (by simpa using Awaits.list hnode hitems : ∀ w ∈ [(place, Kind.list)], Awaits graph w ∧ w.1 = place) (by simp)
      (.inl ⟨.list, by simp⟩ : _ ∨ Fits graph b.IsBuilt place (.list []))
    refine ⟨_, ?_, hsound, hgrows, hplaced⟩
    rw [Building.start, if_neg hbuilt, h.same, node_of_getElem? hnode]
    rfl
  | object _ hnode hmembers =>
    have hplace := (Array.getElem?_eq_some_iff.mp hnode).1
    obtain ⟨hsound, hgrows, hplaced⟩ := h.put_new hnew hplace
      (by simpa using Awaits.object hnode hmembers : ∀ w ∈ [(place, Kind.mapping)], Awaits graph w ∧ w.1 = place) (by simp)
      (.inl ⟨.mapping, by simp⟩ : _ ∨ Fits graph b.IsBuilt place (.mapping []))
    refine ⟨_, ?_, hsound, hgrows, hplaced⟩
    rw [Building.start, if_neg hbuilt, h.same, node_of_getElem? hnode]
    rfl

theorem Sound.startAll (h : Sound graph busy b) {places : List Nat} (hknown : ∀ p ∈ places, graph.Known p) :
    ∃ b', b.startAll places = .ok b' ∧ Sound graph busy b' ∧ Grows b b' ∧ ∀ p ∈ places, b'.IsBuilt p := by
  induction places generalizing b with
  | nil => exact ⟨b, rfl, h, .refl b, by simp⟩
  | cons p places ih =>
    obtain ⟨hp, hplaces⟩ := List.forall_mem_cons.mp hknown
    obtain ⟨b₁, hstart, hsound₁, hgrows₁, hbuilt₁⟩ := h.start hp
    obtain ⟨b₂, hrest, hsound₂, hgrows₂, hbuilt₂⟩ := ih hsound₁ hplaces
    refine ⟨b₂, ?_, hsound₂, hgrows₁.trans hgrows₂, List.forall_mem_cons.mpr ⟨hgrows₂.kept p hbuilt₁, hbuilt₂⟩⟩
    rw [Building.startAll, List.foldlM_cons, hstart]
    exact hrest

/-- The name of a member is a text. -/
theorem Sound.key (h : Sound graph busy b) {text : String} (hnode : graph[place]? = some ⟨Tag.str, .scalar text⟩)
    (hbuilt : b.IsBuilt place) : b.key place = .ok (.text text) := by
  obtain ⟨cell, hcell⟩ := Option.isSome_iff_exists.mp hbuilt
  have hleaf : cell = .leaf (.str text) := by
    obtain ⟨kind, hkind⟩ | hfits := h.settled hcell
    · -- a collection that waits stands at a node of another tag
      have hawaits := h.awaits _ hkind
      cases hawaits with
      | list hother _ | object hother _ => simp [hnode] at hother
    · have hnode : graph[place]? = some ⟨Tag.ofForm .text, .scalar text⟩ := hnode
      exact hfits.leaf_eq hnode .text
  rw [Building.key, hcell, hleaf]
  rfl

/-- The members of a mapping are put in one after the other. -/
theorem Sound.members (h : Sound graph busy b) {low : Nat} {pairs : List (Nat × Nat)} {ms : List (Key × Value)}
    (hstands : Stands graph low (.pairs pairs) (.members ms)) (found : List (Key × Nat)) :
    ∃ b', Building.members pairs found b
        = .ok ((graph.entries pairs).foldl (fun acc m => Members.insert m.1 m.2 acc) found, b') ∧
      Sound graph busy b' ∧ Grows b b' ∧ ∀ p ∈ pairs, b'.IsBuilt p.2 := by
  induction pairs generalizing ms found b with
  | nil => exact ⟨b, rfl, h, .refl b, by simp⟩
  | cons p pairs ih =>
    cases hstands with
    | @member _ name place _ key _ _ hlow hname hplace hrest =>
    obtain ⟨b₁, hstart₁, hsound₁, hgrows₁, hbuilt₁⟩ := h.start ⟨low, .str key, .scalar hlow hname .text⟩
    obtain ⟨b₂, hstart₂, hsound₂, hgrows₂, hbuilt₂⟩ := hsound₁.start ⟨low, _, hplace⟩
    obtain ⟨b₃, hmembers, hsound₃, hgrows₃, hbuilt₃⟩ := ih hsound₂ hrest (Members.insert (.text key) place found)
    refine ⟨b₃, ?_, hsound₃, hgrows₁.trans (hgrows₂.trans hgrows₃),
      List.forall_mem_cons.mpr ⟨hgrows₃.kept place hbuilt₂, hbuilt₃⟩⟩
    have hlabel : graph.label name = key := by rw [Graph.label, node_of_getElem? hname]
    rw [Building.members, hstart₁]
    simp only [bind, Except.bind, hsound₁.key hname hbuilt₁, hstart₂, hmembers, Graph.entries, List.map_cons,
      List.foldl_cons, hlabel]

/-- A collection that was filled needs no further step. -/
theorem Sound.put_filled {w : Nat × Kind} (h : Sound graph [w] b) (hcell : Fits graph b.IsBuilt w.1 cell) :
    Sound graph [] (b.put w.1 cell) ∧ Grows b (b.put w.1 cell) := by
  have hsize : w.1 < b.cells.size := by
    by_contra hnot
    have hbuilt := h.begun w List.mem_cons_self
    rw [IsBuilt, cell?, Array.getElem?_eq_none (Nat.le_of_not_lt hnot)] at hbuilt
    exact absurd hbuilt (by simp)
  have hkept : ∀ p, b.IsBuilt p → (b.put w.1 cell).IsBuilt p := fun p hp => isBuilt_put hsize hp
  refine ⟨⟨h.same, (Array.size_setIfInBounds).trans h.size, ?_, ?_, fun {p c} hp => ?_⟩, hkept, ?_⟩
  · exact fun v hv => h.awaits v (List.mem_cons_of_mem _ hv)
  · exact fun v hv => hkept _ (h.begun v (List.mem_cons_of_mem _ hv))
  · by_cases heq : p = w.1
    · subst heq
      obtain rfl := Option.some.inj ((cell?_put_self hsize).symm.trans hp)
      exact .inr (hcell.mono hkept)
    · refine (h.settled_put hsize heq hp).imp_left fun ⟨kind, hkind⟩ => ⟨kind, ?_⟩
      exact (List.mem_cons.mp hkind).resolve_left fun hw => heq (congrArg Prod.fst hw)
  · have hcount := @countP_put b _ cell hsize
    exact Nat.add_le_add_left (hcount ▸ Nat.le_add_right _ _) _

/-- A collection that waits can be filled. -/
theorem Sound.fill {w : Nat × Kind} (h : Sound graph [w] b) :
    ∃ b', b.fill w.1 w.2 = .ok b' ∧ Sound graph [] b' ∧ Grows b b' := by
  have hawaits := h.awaits w List.mem_cons_self
  cases hawaits with
  | @list place places vs hnode hitems =>
    obtain ⟨b₁, hstart, hsound₁, hgrows₁, hparts⟩ := h.startAll hitems.known_items
    obtain ⟨hsound, hgrows⟩ := hsound₁.put_filled (.list hnode hparts)
    refine ⟨_, ?_, hsound, hgrows₁.trans hgrows⟩
    rw [Building.fill.eq_def]
    simp only [h.same, node_of_getElem? hnode, bind, Except.bind, hstart]
    rfl
  | @object place pairs ms hnode hmembers =>
    obtain ⟨b₁, hfound, hsound₁, hgrows₁, hparts⟩ := h.members hmembers []
    obtain ⟨hsound, hgrows⟩ := hsound₁.put_filled (.object hnode hparts)
    refine ⟨_, ?_, hsound, hgrows₁.trans hgrows⟩
    obtain ⟨hpairs, hmerge⟩ := hmembers.merge_eq hnode
    have hsame : ({ b with graph := graph } : Building) = b := by rw [← h.same]
    rw [Building.fill.eq_def]
    simp only [h.same, node_of_getElem? hnode, bind, Except.bind, hmerge, hsame, hpairs, Option.getD_some, hfound]
    rfl

/-- With a step for each collection that is left, all are filled. -/
theorem Sound.finish (h : Sound graph [] b) {fuel : Nat} (hfuel : b.remaining ≤ fuel) :
    ∃ b', b.finish fuel = .ok b' ∧ Sound graph [] b' ∧ b'.waiting = [] ∧ ∀ p, b.IsBuilt p → b'.IsBuilt p := by
  induction fuel generalizing b with
  | zero =>
    refine ⟨b, rfl, h, ?_, fun _ hp => hp⟩
    rw [remaining] at hfuel
    exact List.length_eq_zero_iff.mp (by omega)
  | succ fuel ih =>
    rw [Building.finish]
    cases hwaiting : b.waiting with
    | nil => exact ⟨b, rfl, h, hwaiting, fun _ hp => hp⟩
    | cons w rest =>
      -- while the first collection is filled it waits no longer
      have hbusy : Sound graph [w] { b with waiting := rest } := by
        refine ⟨h.same, h.size, ?_, ?_, fun {p c} hp => ?_⟩
        · exact fun v hv => h.awaits v (by rw [hwaiting]; exact hv)
        · exact fun v hv => h.begun v (by rw [hwaiting]; exact hv)
        · refine (h.settled hp).imp_left fun ⟨kind, hkind⟩ => ⟨kind, ?_⟩
          rw [hwaiting] at hkind
          exact hkind
      obtain ⟨b₁, hfill, hsound₁, hgrows₁⟩ := hbusy.fill
      have hless : b₁.remaining ≤ fuel := by
        have hle := hgrows₁.remaining
        simp only [remaining, hwaiting, List.length_cons] at hle hfuel ⊢
        omega
      obtain ⟨b₂, hfinish, hsound₂, hdone, hkept⟩ := ih hsound₁ hless
      refine ⟨b₂, ?_, hsound₂, hdone, fun p hp => hkept p (hgrows₁.kept p hp)⟩
      simp only [bind, Except.bind, hfill, hfinish]

/-! ### The value -/

/-- How a part is read from what was built: `path` are the places of the collections around it. -/
def IsRead (graph : Graph) (b : Building) (low : Nat) : Places → Part → Prop
  | .node place, .value v => ∀ {fuel : Nat} {path : List Nat}, graph.size ≤ fuel + place → (∀ q ∈ path, q < low) →
      b.IsBuilt place → b.value fuel path place = v
  | .items places, .items vs => ∀ {fuel : Nat} {path : List Nat}, graph.size ≤ fuel + low → (∀ q ∈ path, q < low) →
      (∀ p ∈ places, b.IsBuilt p) → places.map (b.value fuel path) = vs
  | .pairs pairs, .members ms => ∀ {fuel : Nat} {path : List Nat}, graph.size ≤ fuel + low → (∀ q ∈ path, q < low) →
      (∀ p ∈ pairs, b.IsBuilt p.2) → (graph.entries pairs).map (Prod.map id (b.value fuel path)) = ms
  | _, _ => True

/-- The cell of a node when nothing is left to be filled. -/
theorem Sound.fits (h : Sound graph [] b) (hdone : b.waiting = []) (hbuilt : b.IsBuilt place) :
    ∃ cell, b.cell? place = some cell ∧ Fits graph b.IsBuilt place cell := by
  obtain ⟨cell, hcell⟩ := Option.isSome_iff_exists.mp hbuilt
  refine ⟨cell, hcell, (h.settled hcell).resolve_left ?_⟩
  simp [hdone]

/-- The parts of a collection stand behind it, so that it is not among those around it. -/
theorem path_cons {low : Nat} {path : List Nat} (hlow : low ≤ place) (hpath : ∀ q ∈ path, q < low) :
    place ∉ path ∧ ∀ q ∈ place :: path, q < place + 1 := by
  refine ⟨fun hmem => absurd (hpath place hmem) (Nat.not_lt.mpr hlow), ?_⟩
  refine List.forall_mem_cons.mpr ⟨Nat.lt_succ_self _, fun q hq => ?_⟩
  exact (hpath q hq).trans_le (hlow.trans (Nat.le_succ _))

/-- When all collections are filled the value of a part can be read. -/
theorem Sound.isRead (h : Sound graph [] b) (hdone : b.waiting = []) {low : Nat} {places : Places} {part : Part}
    (hstands : Stands graph low places part) : IsRead graph b low places part := by
  induction hstands with
  | @scalar low place form text v hlow hnode hv =>
    intro fuel path hfuel hpath hbuilt
    have hplace := (Array.getElem?_eq_some_iff.mp hnode).1
    obtain ⟨fuel, rfl⟩ : ∃ more, fuel = more + 1 := ⟨fuel - 1, by omega⟩
    obtain ⟨cell, hcell, hfits⟩ := h.fits hdone hbuilt
    rw [Building.value, hcell, hfits.leaf_eq hnode hv]
  | @list low place places vs hlow hnode _ ih =>
    intro fuel path hfuel hpath hbuilt
    have hplace := (Array.getElem?_eq_some_iff.mp hnode).1
    obtain ⟨fuel, rfl⟩ : ∃ more, fuel = more + 1 := ⟨fuel - 1, by omega⟩
    obtain ⟨cell, hcell, hfits⟩ := h.fits hdone hbuilt
    obtain ⟨rfl, hparts⟩ := hfits.list_eq hnode
    obtain ⟨houtside, hinside⟩ := path_cons hlow hpath
    have hitems : places.map (b.value fuel (place :: path)) = vs := ih (by omega) hinside hparts
    rw [Building.value, hcell]
    simp only [if_neg houtside, hitems]
  | @object low place pairs ms hlow hnode _ ih =>
    intro fuel path hfuel hpath hbuilt
    have hplace := (Array.getElem?_eq_some_iff.mp hnode).1
    obtain ⟨fuel, rfl⟩ : ∃ more, fuel = more + 1 := ⟨fuel - 1, by omega⟩
    obtain ⟨cell, hcell, hfits⟩ := h.fits hdone hbuilt
    obtain ⟨rfl, hparts⟩ := hfits.object_eq hnode
    obtain ⟨houtside, hinside⟩ := path_cons hlow hpath
    have hmembers : (graph.entries pairs).map (Prod.map id (b.value fuel (place :: path))) = ms :=
      ih (by omega) hinside hparts
    rw [Building.value, hcell]
    simp only [if_neg houtside]
    rw [← hmembers, Members.ofList_map]
    rfl
  | noItems => exact fun _ _ _ => rfl
  | @item low place places v vs hplace _ ih ihrest =>
    intro fuel path hfuel hpath hbuilt
    obtain ⟨hfirst, hrest⟩ := List.forall_mem_cons.mp hbuilt
    have hv : b.value fuel path place = v := ih (hfuel.trans (Nat.add_le_add_left hplace.low_le _)) hpath hfirst
    have hvs : places.map (b.value fuel path) = vs := ihrest hfuel hpath hrest
    rw [List.map_cons, hv, hvs]
  | noMembers => exact fun _ _ _ => rfl
  | @member low name place pairs key v ms hlow hname hplace _ ih ihrest =>
    intro fuel path hfuel hpath hbuilt
    obtain ⟨hfirst, hrest⟩ := List.forall_mem_cons.mp hbuilt
    have hv : b.value fuel path place = v := ih (hfuel.trans (Nat.add_le_add_left hplace.low_le _)) hpath hfirst
    have hms : (graph.entries pairs).map (Prod.map id (b.value fuel path)) = ms := ihrest hfuel hpath hrest
    have hlabel : graph.label name = key := by rw [Graph.label, node_of_getElem? hname]
    rw [Graph.entries, List.map_cons, List.map_cons, ← Graph.entries, hms, hlabel, Prod.map_apply, hv]
    rfl

end

end Building

open Building in
/-- The nodes of a value are built into it. -/
theorem Stands.value_eq {graph : Graph} {low root : Nat} {v : Value} (h : Stands graph low (.node root) (.value v)) :
    graph.value root = .ok v := by
  have hnone : ∀ place, cell? ⟨graph, Array.replicate graph.size none, []⟩ place = none := fun place => by
    rw [cell?, Array.getElem?_replicate]
    split <;> rfl
  have hstart : Sound graph [] ⟨graph, Array.replicate graph.size none, []⟩ :=
    { same := rfl, size := Array.size_replicate, awaits := by simp, begun := by simp,
      settled := fun {place cell} hcell => absurd hcell (by simp [hnone]) }
  obtain ⟨b₁, hroot, hsound₁, hgrows₁, hbuilt₁⟩ := hstart.start ⟨low, v, h⟩
  have hfuel : b₁.remaining ≤ graph.size + 1 := by
    refine hgrows₁.remaining.trans ?_
    have hcount : (Array.replicate graph.size (none : Option Cell)).toList.countP Option.isNone ≤ _ :=
      List.countP_le_length
    rw [Array.length_toList, Array.size_replicate] at hcount
    simp only [remaining, List.length_nil]
    omega
  obtain ⟨b₂, hfinish, hsound₂, hdone, hkept⟩ := hsound₁.finish hfuel
  have hread : IsRead graph b₂ low (.node root) (.value v) := hsound₂.isRead hdone h
  rw [Graph.value, hroot]
  simp only [bind, Except.bind, hfinish]
  exact congrArg Except.ok (hread (by omega) (by simp) (hkept root hbuilt₁))

/-- A document that both notations know is read as its object. -/
theorem Common.IsDocument.read_eq {cs : List Char} {ms : List (Key × Value)} (h : Common.IsDocument cs ms) :
    read .spaced (String.ofList cs) = .ok (.object ms) := by
  obtain ⟨ts, hspelled, htokens⟩ := h.tokens_eq
  obtain ⟨graph, root, hgraph, hstands⟩ := hspelled.ofTokens_eq .spaced
  rw [read, String.toList_ofList, htokens]
  simp only [bind, Except.bind, hgraph, hstands.value_eq]

end Switchboard.Yaml
