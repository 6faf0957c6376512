import Switchboard.Proofs.Outcome
import Switchboard.Proofs.Text.Blank
import Switchboard.Template.Evaluate
import Mathlib.Data.List.Forall2
import Mathlib.Data.List.TakeWhile

/-!
A template comes to what its parts come to.

* `Whole`, `isWhole_iff` — the texts that are one whole expression;
* `Settles`, `Fails` — what a text of a template comes to, or fails with; `Filled` — what comes of a
  template when each of its texts is settled and all else stays;
* `compile_eq_ok`, `compile_discard` — templates come to what they are filled to, and fail as the
  series of their texts does;
* `Filled.at?` — what stands at a place of the outcome comes of what stands there in the template;
* `compile_pointwise` — all of this together.

The texts of a value, `Value.texts`, are in reading order, and `Value.at?` looks up a place by positions
in lists and keys in mappings. Neither goes into keys or sets, which templates leave alone.
-/
namespace Switchboard

/-! ### Texts and places of values -/

namespace Value

mutual

/-- The texts of a value that stand in it as values, in reading order. -/
def texts : Value → List String
  | .str s => [s]
  | .list items | .tuple items => textsOfItems items
  | .object members => textsOfMembers members
  | _ => []

/-- `texts` of the items of a list. -/
def textsOfItems : List Value → List String
  | [] => []
  | v :: rest => texts v ++ textsOfItems rest

/-- `texts` of the members of a mapping. -/
def textsOfMembers : List (Key × Value) → List String
  | [] => []
  | (_, v) :: rest => texts v ++ textsOfMembers rest

end

/-- Whether a value is neither a text nor a list, a tuple or a mapping. -/
def isSingle : Value → Bool
  | .str _ | .list _ | .tuple _ | .object _ => false
  | _ => true

/-- One step from a value to a part of it: to an item of a list or a tuple, or to what a mapping has
under a key. -/
inductive Turn where
  | item (position : Nat)
  | member (key : Key)

/-- The part of a value that is one step away. -/
def part? : Value → Turn → Option Value
  | .list items, .item position | .tuple items, .item position => items[position]?
  | .object members, .member key => Members.get? key members
  | _, _ => none

/-- What stands at a place of a value. -/
def at? (v : Value) : List Turn → Option Value
  | [] => some v
  | turn :: rest => (v.part? turn).bind (·.at? rest)

end Value

namespace Template

/-! ### Texts of templates -/

/-- A text that is one whole expression: double braces around something without braces, with at most one
line break behind. -/
def Whole (s : String) : Prop :=
  ∃ body tail, s.toList = opening ++ (body ++ tail) ∧ body ≠ [] ∧
    (∀ c ∈ body, c ≠ '{' ∧ c ≠ '}') ∧ (tail = closing ∨ tail = closing ++ ['\n'])

theorem isWhole_iff {s : String} : isWhole s.toList = true ↔ Whole s := by
  rw [isWhole]
  cases hrest : Text.dropPrefix? opening s.toList with
  | none =>
    -- what does not begin with braces is no expression
    refine iff_of_false (by simp) ?_
    rintro ⟨body, tail, hs, -⟩
    simp [Text.dropPrefix?_eq_some.mpr hs] at hrest
  | some rest =>
    have hs := Text.dropPrefix?_eq_some.mp hrest
    have hsplit := List.takeWhile_append_dropWhile (p := fun c => c != '{' && c != '}') (l := rest)
    have hdrop : rest.drop (rest.takeWhile fun c => c != '{' && c != '}').length
        = rest.dropWhile fun c => c != '{' && c != '}' := by
      conv_lhs => arg 2; rw [← hsplit]
      exact List.drop_left
    simp only [hdrop, Bool.and_eq_true, Bool.or_eq_true, beq_iff_eq, Bool.not_eq_true',
      List.isEmpty_eq_false_iff]
    constructor
    · rintro ⟨hbody, htail⟩
      refine ⟨_, _, by rw [hsplit, hs], hbody, fun c hc => ?_, htail⟩
      simpa using List.mem_takeWhile_imp hc
    · rintro ⟨body, tail, hwhole, hbody, hinside, htail⟩
      obtain rfl : rest = body ++ tail := List.append_cancel_left (hs.symm.trans hwhole)
      have hall : ∀ c ∈ body, (c != '{' && c != '}') = true := by simpa using hinside
      -- the tail begins with a brace, so the characters without braces end where the body does
      have hstop : tail.takeWhile (fun c => c != '{' && c != '}') = [] ∧
          tail.dropWhile (fun c => c != '{' && c != '}') = tail := by
        rcases htail with rfl | rfl <;> exact ⟨rfl, rfl⟩
      rw [List.takeWhile_append_of_pos hall, List.dropWhile_append_of_pos hall, hstop.1, hstop.2,
        List.append_nil]
      exact ⟨hbody, htail⟩

/-- An expression begins with double braces. -/
theorem Whole.opening_isInfix {s : String} (h : Whole s) : opening <:+: s.toList := by
  obtain ⟨body, tail, hs, -⟩ := h
  rw [hs]
  exact (List.prefix_append _ _).isInfix

/-- What a text of a template comes to: an expression to its value, and a text without double braces to
itself. -/
inductive Settles (h : History) (run : Nat) (s : String) : Value → Prop where
  | whole {v : Value} (hwhole : Whole s) (hv : evaluate h run s = .ok v) : Settles h run s v
  | plain (hplain : ¬ opening <:+: s.toList) : Settles h run s (.str s)

/-- What a text of a template fails with: an expression with what keeps it from having a value, and any
other text with double braces because these stand inside it. -/
inductive Fails (h : History) (run : Nat) (s : String) : Error → Prop where
  | whole {e : Error} (hwhole : Whole s) (he : evaluate h run s = .error e) : Fails h run s e
  | embedded (hnot : ¬ Whole s) (hopening : opening <:+: s.toList) : Fails h run s (.embedded s)

variable {h : History} {run : Nat}

theorem compileText_eq_ok {s : String} {v : Value} :
    compileText h run s = .ok v ↔ Settles h run s v := by
  rw [compileText]
  by_cases hwhole : Whole s
  · rw [if_pos (isWhole_iff.mpr hwhole)]
    constructor
    · exact .whole hwhole
    · rintro (⟨-, hv⟩ | hplain)
      · exact hv
      · exact absurd hwhole.opening_isInfix hplain
  · rw [if_neg (mt isWhole_iff.mp hwhole)]
    by_cases hopening : opening <:+: s.toList
    · rw [if_pos (Text.contains_iff.mpr hopening)]
      refine iff_of_false (by simp) ?_
      rintro (⟨h, -⟩ | hplain)
      · exact hwhole h
      · exact hplain hopening
    · rw [if_neg (mt Text.contains_iff.mp hopening), Except.ok.injEq]
      constructor
      · rintro rfl
        exact .plain hopening
      · rintro (⟨h, -⟩ | -)
        · exact absurd h hwhole
        · rfl

theorem compileText_eq_error {s : String} {e : Error} :
    compileText h run s = .error e ↔ Fails h run s e := by
  rw [compileText]
  by_cases hwhole : Whole s
  · rw [if_pos (isWhole_iff.mpr hwhole)]
    constructor
    · exact .whole hwhole
    · rintro (⟨-, he⟩ | ⟨hnot, -⟩)
      · exact he
      · exact absurd hwhole hnot
  · rw [if_neg (mt isWhole_iff.mp hwhole)]
    by_cases hopening : opening <:+: s.toList
    · rw [if_pos (Text.contains_iff.mpr hopening), Except.error.injEq]
      constructor
      · rintro rfl
        exact .embedded hwhole hopening
      · rintro (⟨h, -⟩ | -)
        · exact absurd h hwhole
        · rfl
    · rw [if_neg (mt Text.contains_iff.mp hopening)]
      refine iff_of_false (by simp) ?_
      rintro (⟨h, -⟩ | ⟨-, h⟩)
      · exact hwhole h
      · exact hopening h

/-! ### Templates that are filled -/

/-- What comes of a template: its texts are settled, lists keep their lengths and mappings their keys,
tuples become lists, and all else stays as it is. -/
inductive Filled (h : History) (run : Nat) : Value → Value → Prop where
  | text {s : String} {v : Value} (hs : Settles h run s v) : Filled h run (.str s) v
  | list {items results : List Value} (hitems : List.Forall₂ (Filled h run) items results) :
      Filled h run (.list items) (.list results)
  | tuple {items results : List Value} (hitems : List.Forall₂ (Filled h run) items results) :
      Filled h run (.tuple items) (.list results)
  | object {members results : List (Key × Value)}
      (hkeys : results.map Prod.fst = members.map Prod.fst)
      (hvalues : List.Forall₂ (Filled h run) (members.map Prod.snd) (results.map Prod.snd)) :
      Filled h run (.object members) (.object results)
  | same {v : Value} (hv : v.isSingle = true) : Filled h run v v

theorem filled_str {s : String} {v : Value} : Filled h run (.str s) v ↔ Settles h run s v := by
  constructor
  · rintro (hs | _ | _ | _ | hsingle)
    · exact hs
    · simp [Value.isSingle] at hsingle
  · exact .text

theorem filled_list {items : List Value} {v : Value} :
    Filled h run (.list items) v ↔
      ∃ results, List.Forall₂ (Filled h run) items results ∧ .list results = v := by
  constructor
  · rintro (_ | hitems | _ | _ | hsingle)
    · exact ⟨_, hitems, rfl⟩
    · simp [Value.isSingle] at hsingle
  · rintro ⟨results, hitems, rfl⟩
    exact .list hitems

theorem filled_tuple {items : List Value} {v : Value} :
    Filled h run (.tuple items) v ↔
      ∃ results, List.Forall₂ (Filled h run) items results ∧ .list results = v := by
  constructor
  · rintro (_ | _ | hitems | _ | hsingle)
    · exact ⟨_, hitems, rfl⟩
    · simp [Value.isSingle] at hsingle
  · rintro ⟨results, hitems, rfl⟩
    exact .tuple hitems

theorem filled_object {members : List (Key × Value)} {v : Value} :
    Filled h run (.object members) v ↔
      ∃ results, (results.map Prod.fst = members.map Prod.fst ∧
        List.Forall₂ (Filled h run) (members.map Prod.snd) (results.map Prod.snd)) ∧
          .object results = v := by
  constructor
  · rintro (_ | _ | _ | ⟨hkeys, hvalues⟩ | hsingle)
    · exact ⟨_, ⟨hkeys, hvalues⟩, rfl⟩
    · simp [Value.isSingle] at hsingle
  · rintro ⟨results, ⟨hkeys, hvalues⟩, rfl⟩
    exact .object hkeys hvalues

theorem filled_single {template v : Value} (hsingle : template.isSingle = true) :
    Filled h run template v ↔ template = v := by
  constructor
  · rintro (_ | _ | _ | _ | _)
    all_goals first | rfl | simp [Value.isSingle] at hsingle
  · rintro rfl
    exact .same hsingle

mutual

/-- A template comes to what it is filled to. -/
theorem compile_eq_ok : (template : Value) → (result : Value) →
    (compile h run template = .ok result ↔ Filled h run template result)
  | .str s, result => by rw [compile, compileText_eq_ok, filled_str]
  | .list items, result => by
    rw [compile, map_eq_ok, filled_list]
    simp only [compileItems_eq_ok items]
  | .tuple items, result => by
    rw [compile, map_eq_ok, filled_tuple]
    simp only [compileItems_eq_ok items]
  | .object members, result => by
    rw [compile, map_eq_ok, filled_object]
    simp only [compileMembers_eq_ok members]
  | .null, _ | .bool _, _ | .int _, _ | .float _, _ | .set _, _ | .moment _, _ | .bytes _, _
  | .foreign _, _ | .shared _ _, _ | .enclosing _, _ => by
    rw [filled_single rfl, compile, Except.ok.injEq]
    all_goals simp

/-- `compile_eq_ok` for the items of a list. -/
theorem compileItems_eq_ok : (items results : List Value) →
    (compileItems h run items = .ok results ↔ List.Forall₂ (Filled h run) items results)
  | [], results => by simp [compileItems, eq_comm]
  | template :: rest, results => by
    rw [compileItems]
    simp only [bind_eq_ok, compile_eq_ok template, compileItems_eq_ok rest]
    constructor
    · rintro ⟨v, hv, vs, hvs, hresults⟩
      obtain rfl := Except.ok.inj hresults
      exact .cons hv hvs
    · rintro (_ | ⟨hv, hvs⟩)
      exact ⟨_, hv, _, hvs, rfl⟩

/-- `compile_eq_ok` for the members of a mapping. -/
theorem compileMembers_eq_ok : (members results : List (Key × Value)) →
    (compileMembers h run members = .ok results ↔
      results.map Prod.fst = members.map Prod.fst ∧
        List.Forall₂ (Filled h run) (members.map Prod.snd) (results.map Prod.snd))
  | [], results => by cases results <;> simp [compileMembers]
  | (k, template) :: rest, results => by
    rw [compileMembers]
    simp only [bind_eq_ok, compile_eq_ok template, compileMembers_eq_ok rest]
    constructor
    · rintro ⟨v, hv, vs, ⟨hkeys, hvs⟩, hresults⟩
      obtain rfl := Except.ok.inj hresults
      exact ⟨by simp [hkeys], .cons hv hvs⟩
    · rintro ⟨hkeys, hvalues⟩
      cases results with
      | nil => simp at hkeys
      | cons r results =>
        obtain ⟨k', v⟩ := r
        simp only [List.map_cons, List.cons.injEq, List.forall₂_cons] at hkeys hvalues
        obtain ⟨rfl, hkeys⟩ := hkeys
        exact ⟨v, hvalues.1, results, ⟨hkeys, hvalues.2⟩, rfl⟩

end

/-! ### Templates that fail -/

/-- Evaluates a text of a template for its failure only. -/
def tryText (h : History) (run : Nat) (s : String) : Except Error Unit :=
  (compileText h run s).map fun _ => ()

theorem tryText_eq_ok {s : String} : tryText h run s = .ok () ↔ ∃ v, Settles h run s v := by
  simp only [tryText, map_eq_ok, compileText_eq_ok, and_true]

theorem tryText_eq_error {s : String} {e : Error} : tryText h run s = .error e ↔ Fails h run s e := by
  rw [tryText, map_eq_error, compileText_eq_error]

mutual

/-- A template fails as its texts do, tried in reading order. -/
theorem compile_discard : (template : Value) →
    (compile h run template).map (fun _ => ()) = forM template.texts (tryText h run)
  | .str s => by
    rw [compile, Value.texts, List.forM_cons, List.forM_nil, tryText]
    cases compileText h run s <;> rfl
  | .list items | .tuple items => by
    rw [compile, Value.texts, ← compileItems_discard items]
    cases compileItems h run items <;> rfl
  | .object members => by
    rw [compile, Value.texts, ← compileMembers_discard members]
    cases compileMembers h run members <;> rfl
  | .null | .bool _ | .int _ | .float _ | .set _ | .moment _ | .bytes _ | .foreign _ | .shared _ _
  | .enclosing _ => rfl

/-- `compile_discard` for the items of a list. -/
theorem compileItems_discard : (items : List Value) →
    (compileItems h run items).map (fun _ => ())
      = forM (Value.textsOfItems items) (tryText h run)
  | [] => rfl
  | template :: rest => by
    rw [compileItems, Value.textsOfItems, List.forM_append, ← compile_discard template,
      ← compileItems_discard rest]
    cases compile h run template with
    | error e => rfl
    | ok v => cases compileItems h run rest <;> rfl

/-- `compile_discard` for the members of a mapping. -/
theorem compileMembers_discard : (members : List (Key × Value)) →
    (compileMembers h run members).map (fun _ => ())
      = forM (Value.textsOfMembers members) (tryText h run)
  | [] => rfl
  | (k, template) :: rest => by
    rw [compileMembers, Value.textsOfMembers, List.forM_append, ← compile_discard template,
      ← compileMembers_discard rest]
    cases compile h run template with
    | error e => rfl
    | ok v => cases compileMembers h run rest <;> rfl

end

/-- A template has a value exactly when each of its texts is settled. -/
theorem exists_compile {template : Value} :
    (∃ r, compile h run template = .ok r) ↔ ∀ s ∈ template.texts, ∃ v, Settles h run s v := by
  have hdiscard : (∃ r, compile h run template = .ok r) ↔
      (compile h run template).map (fun _ => ()) = .ok () := by simp [map_eq_ok]
  rw [hdiscard, compile_discard, forM_eq_ok]
  simp only [tryText_eq_ok]

/-- A template fails with the failure of the first of its texts that fails. -/
theorem compile_eq_error {template : Value} {e : Error} :
    compile h run template = .error e ↔
      ∃ before s rest, template.texts = before ++ s :: rest ∧
        (∀ s' ∈ before, ∃ v, Settles h run s' v) ∧ Fails h run s e := by
  rw [← map_eq_error (f := fun _ => ()), compile_discard, forM_eq_error]
  simp only [tryText_eq_ok, tryText_eq_error]

/-! ### Places of templates -/

theorem getElem?_of_forall₂ {α β : Type} {R : α → β → Prop} {as : List α} {bs : List β}
    (hall : List.Forall₂ R as bs) {i : Nat} {a : α} (ha : as[i]? = some a) :
    ∃ b, bs[i]? = some b ∧ R a b := by
  induction hall generalizing i with
  | nil => simp at ha
  | cons hfirst hrest ih =>
    cases i with
    | zero =>
      obtain rfl := Option.some.inj ha
      exact ⟨_, rfl, hfirst⟩
    | succ i => exact ih ha

/-- Mappings with the same keys have corresponding values under each of them. -/
theorem get?_of_forall₂ {α β : Type} {R : α → β → Prop} {as : List (Key × α)} {bs : List (Key × β)}
    (hkeys : bs.map Prod.fst = as.map Prod.fst)
    (hall : List.Forall₂ R (as.map Prod.snd) (bs.map Prod.snd)) {key : Key} {a : α}
    (ha : Members.get? key as = some a) : ∃ b, Members.get? key bs = some b ∧ R a b := by
  induction as generalizing bs with
  | nil => simp [Members.get?] at ha
  | cons m rest ih =>
    cases bs with
    | nil => simp at hkeys
    | cons m' rest' =>
      obtain ⟨k, x⟩ := m
      obtain ⟨k', y⟩ := m'
      simp only [List.map_cons, List.cons.injEq, List.forall₂_cons] at hkeys hall
      obtain ⟨rfl, hkeys⟩ := hkeys
      rw [Members.get?] at ha ⊢
      by_cases hkey : k'.canonical = key.canonical
      · rw [if_pos hkey] at ha ⊢
        obtain rfl := Option.some.inj ha
        exact ⟨y, rfl, hall.1⟩
      · rw [if_neg hkey] at ha ⊢
        exact ih hkeys hall.2 ha

/-- A part of a template is filled to the corresponding part of the outcome. -/
theorem Filled.part? {template result part : Value} (hfilled : Filled h run template result)
    {turn : Value.Turn} (hpart : template.part? turn = some part) :
    ∃ v, result.part? turn = some v ∧ Filled h run part v := by
  cases hfilled with
  | text hs => simp [Value.part?] at hpart
  | list hitems | tuple hitems =>
    cases turn with
    | item position => exact getElem?_of_forall₂ hitems hpart
    | member key => simp [Value.part?] at hpart
  | object hkeys hvalues =>
    cases turn with
    | item position => simp [Value.part?] at hpart
    | member key => exact get?_of_forall₂ hkeys hvalues hpart
  | same hsingle =>
    -- what is single has no parts
    cases template <;> simp [Value.isSingle, Value.part?] at hsingle hpart

/-- What stands at a place of a template is filled to what stands there in the outcome. -/
theorem Filled.at? {template result part : Value} (hfilled : Filled h run template result)
    {place : List Value.Turn} (hpart : template.at? place = some part) :
    ∃ v, result.at? place = some v ∧ Filled h run part v := by
  induction place generalizing template result with
  | nil =>
    obtain rfl := Option.some.inj hpart
    exact ⟨result, rfl, hfilled⟩
  | cons turn rest ih =>
    obtain ⟨next, hnext, hrest⟩ := Option.bind_eq_some_iff.mp hpart
    obtain ⟨next', hnext', hfilled'⟩ := hfilled.part? hnext
    obtain ⟨v, hv, hpart'⟩ := ih hfilled' hrest
    exact ⟨v, by rw [Value.at?, hnext', Option.bind_some, hv], hpart'⟩

/-- **Templates are compiled part by part.** A template has a value exactly when each of its texts holds
no double braces or is one whole expression that has a value. The value is then the template with its
expressions replaced by their values: lists keep their lengths and mappings their keys in order, keys are
never read, tuples become lists, and all else stays. So what stands at any place of the value is the
value of what stands there in the template. Otherwise the template fails with the failure of the first
of its texts, in reading order, that fails. -/
theorem compile_pointwise (h : History) (run : Nat) (template : Value) :
    ((∃ r, compile h run template = .ok r) ↔
      ∀ s ∈ template.texts, ¬ opening <:+: s.toList ∨
        Whole s ∧ ∃ v, evaluate h run s = .ok v) ∧
    (∀ r, compile h run template = .ok r ↔ Filled h run template r) ∧
    (∀ r, compile h run template = .ok r → ∀ place part, template.at? place = some part →
      ∃ v, r.at? place = some v ∧ compile h run part = .ok v) ∧
    ∀ e, compile h run template = .error e ↔
      ∃ before s rest, template.texts = before ++ s :: rest ∧
        (∀ s' ∈ before, ∃ v, Settles h run s' v) ∧ Fails h run s e := by
  refine ⟨?_, compile_eq_ok template, ?_, fun e => compile_eq_error⟩
  · rw [exists_compile]
    refine forall₂_congr fun s _ => ?_
    constructor
    · rintro ⟨v, ⟨hwhole, hv⟩ | hplain⟩
      · exact .inr ⟨hwhole, v, hv⟩
      · exact .inl hplain
    · rintro (hplain | ⟨hwhole, v, hv⟩)
      · exact ⟨.str s, .plain hplain⟩
      · exact ⟨v, .whole hwhole hv⟩
  · intro r hr place part hpart
    obtain ⟨v, hv, hfilled⟩ := ((compile_eq_ok template r).mp hr).at? hpart
    exact ⟨v, hv, (compile_eq_ok part v).mpr hfilled⟩

/-- A number for an expression below a key that looks like one, and the first of two failures. -/
theorem compile_first_failure :
    (∃ v, (Value.object [(.text "\x7b\x7bkey\x7d\x7d", .list [.int 7, .str "plain"])]).at?
        [.member (.text "\x7b\x7bkey\x7d\x7d"), .item 0] = some v ∧
      compile [.start (.int 7)] 0 (.str "\x7b\x7binput\x7d\x7d") = .ok v) ∧
    compile [.start (.int 7)] 0
        (.list [.str "\x7b\x7binput\x7d\x7d", .str "a \x7b\x7b b", .str "\x7b\x7bnowhere\x7d\x7d"])
      = .error (.embedded "a \x7b\x7b b") := by
  obtain ⟨-, -, hplaces, -⟩ := compile_pointwise [.start (.int 7)] 0
    (.object [(.text "\x7b\x7bkey\x7d\x7d", .tuple [.str "\x7b\x7binput\x7d\x7d", .str "plain"])])
  obtain ⟨-, -, -, hfails⟩ := compile_pointwise [.start (.int 7)] 0
    (.list [.str "\x7b\x7binput\x7d\x7d", .str "a \x7b\x7b b", .str "\x7b\x7bnowhere\x7d\x7d"])
  refine ⟨hplaces _ rfl _ _ rfl, (hfails _).mpr ⟨[_], _, [_], rfl, ?_, ?_⟩⟩
  · have hinput : Settles [.start (.int 7)] 0 "\x7b\x7binput\x7d\x7d" (.int 7) :=
      .whole (isWhole_iff.mp rfl) rfl
    exact List.forall_mem_singleton.mpr ⟨_, hinput⟩
  · have hnot : ¬ Whole "a \x7b\x7b b" := mt isWhole_iff.mpr (by decide)
    exact .embedded hnot (Text.contains_iff.mp rfl)

end Template

end Switchboard
