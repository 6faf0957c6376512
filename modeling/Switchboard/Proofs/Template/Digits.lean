import Switchboard.Proofs.Template.Braces
import Switchboard.Proofs.Template.Piece
import Switchboard.Proofs.Template.Step

/-!
Templates without long numbers fail only by faults of their own.

* `Brief` — a text without more digits in a row than can be read as a number;
* `parse_of_brief`, `evaluate_fails` — a brief expression fails with a fault of the template;
* `compile_fails` — so does a template all of whose texts are brief.

All that is ever read as a number is a run of digits of the expression (`Text.mem_splitOn_isInfix`,
`Piece.bracketed_isInfix`), so being brief is handed down from an expression to its segments.
-/
namespace Switchboard

/-- A text that stands in a value, not as a key. -/
inductive Value.HasText (s : String) : Value → Prop where
  | str : HasText s (.str s)
  | list {items : List Value} {v : Value} (hv : v ∈ items) (h : HasText s v) :
      HasText s (.list items)
  | tuple {items : List Value} {v : Value} (hv : v ∈ items) (h : HasText s v) :
      HasText s (.tuple items)
  | object {members : List (Key × Value)} {k : Key} {v : Value} (hv : (k, v) ∈ members)
      (h : HasText s v) : HasText s (.object members)

namespace Template

/-- The path of some segments: a first name may be the word for a root. -/
def Path.ofSegments (text : String) : List Segment → Except Error Path
  | .name key :: rest =>
    match Root.ofWord? key with
    | some root => .ok ⟨text, root, rest, true⟩
    | none => .ok ⟨text, .stepsByName, .name key :: rest, false⟩
  | _ => .error (.unresolved text .leadingIndex)

/-- An expression is cut at its dots, and the segments of all pieces are one path. -/
theorem Path.parse_eq (expression : String) :
    Path.parse expression =
      if (unwrap expression.toList).isEmpty then .error (.unresolved expression .empty)
      else
        ((Text.splitOn (· = '.') (unwrap expression.toList)).mapM
          (readSegments (String.ofList (unwrap expression.toList)))).bind fun pieces =>
            Path.ofSegments (String.ofList (unwrap expression.toList)) pieces.flatten := by
  rw [Path.parse]
  cases (unwrap expression.toList).isEmpty <;> rfl

/-! ### Brief texts -/

/-- A text without more digits in a row than can be read as a number. -/
def Brief (cs : List Char) : Prop :=
  ∀ ds, ds <:+: cs → (∀ c ∈ ds, Text.isDigit c = true) → ds.length ≤ Json.maxDigits

theorem Brief.of_isInfix {cs part : List Char} (h : Brief cs) (hpart : part <:+: cs) :
    Brief part :=
  fun ds hds => h ds (hds.trans hpart)

/-- A short text is brief. -/
theorem brief_of_length_le {cs : List Char} (h : cs.length ≤ Json.maxDigits) : Brief cs :=
  fun _ hds _ => hds.length_le.trans h

theorem readIndex_of_brief {cs digits : List Char} (h : Brief cs) (hpart : digits <:+: cs)
    (hdigits : ∀ c ∈ digits, Text.isDigit c = true) : readIndex digits = .ok (Text.digitsValue digits) := by
  have hlength := h digits hpart hdigits
  rw [readIndex, if_neg (by omega)]

/-- All names among some segments are brief. -/
def BriefNames (segments : List Segment) : Prop :=
  ∀ key, Segment.name key ∈ segments → Brief key.toList

theorem BriefNames.of_cons {segment : Segment} {segments : List Segment}
    (hbrief : BriefNames (segment :: segments)) :
    (∀ key, segment = .name key → Brief key.toList) ∧ BriefNames segments :=
  ⟨fun key hkey => hbrief key (hkey ▸ List.mem_cons_self),
    fun key hkey => hbrief key (List.mem_cons_of_mem _ hkey)⟩

/-- A brief piece is read, or is no segment; its name is brief again. -/
theorem readSegments_of_brief {path : String} {raw : List Char} (h : Brief raw) :
    (∀ e, readSegments path raw = .error e → e.isTemplateFault = true) ∧
      ∀ segments, readSegments path raw = .ok segments → BriefNames segments := by
  have hstrip := h.of_isInfix (Text.strip_isInfix raw)
  rcases readSegments_cases path raw with ⟨piece, htext, -, hread⟩ | ⟨piece, htext, g, hg, hlong, -⟩ |
    ⟨-, hread⟩
  · refine ⟨by simp [hread], fun segments hsegments => ?_⟩
    obtain rfl := Except.ok.inj (hread.symm.trans hsegments)
    intro key hkey
    obtain rfl := piece.eq_name_of_mem hkey
    rw [htext] at hstrip
    rw [String.toList_ofList]
    exact hstrip.of_isInfix (List.prefix_append _ _).isInfix
  · -- the index that is too long would stand in the piece
    rw [htext] at hstrip
    have hlength := hstrip g ((isInfix_bracketed g).trans (piece.bracketed_isInfix hg))
      (piece.groups_runs g hg).isDigit
    omega
  · refine ⟨fun e he => ?_, by simp [hread]⟩
    obtain rfl := Except.error.inj (hread.symm.trans he)
    rfl

theorem ofSegments_of_brief {text : String} {segments : List Segment} (h : BriefNames segments) :
    (∀ e, Path.ofSegments text segments = .error e → e.isTemplateFault = true) ∧
      ∀ path, Path.ofSegments text segments = .ok path → BriefNames path.segments := by
  rw [Path.ofSegments.eq_def]
  split
  · next key rest =>
    cases Root.ofWord? key with
    | none =>
      refine ⟨by simp, ?_⟩
      rintro path ⟨⟩
      exact h
    | some root =>
      refine ⟨by simp, ?_⟩
      rintro path ⟨⟩
      exact fun key hkey => h key (List.mem_cons_of_mem _ hkey)
  · refine ⟨?_, by simp⟩
    rintro e ⟨⟩
    rfl

/-- A brief expression is read, or breaks a rule of paths; the names of its path are brief again. -/
theorem parse_of_brief {expression : String} (h : Brief expression.toList) :
    (∀ e, Path.parse expression = .error e → e.isTemplateFault = true) ∧
      ∀ path, Path.parse expression = .ok path → BriefNames path.segments := by
  have hpiece : ∀ piece ∈ Text.splitOn (· = '.') (unwrap expression.toList), Brief piece :=
    fun piece hpiece =>
      (h.of_isInfix (unwrap_isInfix _)).of_isInfix (Text.mem_splitOn_isInfix hpiece)
  have hread : ∀ {pieces : List (List Segment)},
      (Text.splitOn (· = '.') (unwrap expression.toList)).mapM
        (readSegments (String.ofList (unwrap expression.toList))) = .ok pieces →
          BriefNames pieces.flatten := by
    intro pieces hpieces key hkey
    obtain ⟨segments, hsegments, hkey⟩ := List.mem_flatten.mp hkey
    obtain ⟨piece, hmem, hread⟩ := mem_of_mapM hpieces hsegments
    exact (readSegments_of_brief (hpiece piece hmem)).2 segments hread key hkey
  rw [Path.parse_eq]
  split
  · simp [Error.isTemplateFault]
  · cases hpieces : (Text.splitOn (· = '.') (unwrap expression.toList)).mapM
        (readSegments (String.ofList (unwrap expression.toList))) with
    | error fault =>
      obtain ⟨piece, hmem, hfails⟩ := exists_of_mapM_error hpieces
      have hfault := (readSegments_of_brief (hpiece piece hmem)).1 fault hfails
      simpa [Except.bind] using hfault
    | ok pieces => exact ofSegments_of_brief (hread hpieces)

/-! ### Values of brief templates -/

variable {h : History} {run : Nat}

theorem rootValue_fails {path : Path} {e : Error} (he : rootValue h run path = .error e) :
    e.isTemplateFault = true := by
  obtain ⟨-, rfl⟩ := rootValue_eq_error.mp he
  rfl

/-- The position of a brief segment is read. -/
theorem position?_of_brief {segment : Segment}
    (hbrief : ∀ key, segment = .name key → Brief key.toList) :
    position? segment = .ok segment.number? := by
  refine (position?_cases segment).resolve_right ?_
  rintro ⟨digits, hposition⟩
  cases segment with
  | index n => simp [position?] at hposition
  | name key =>
    rw [position?] at hposition
    split at hposition
    · next hall =>
      have hdigits : ∀ c ∈ key.toList, Text.isDigit c = true := by simp_all
      rw [readIndex_of_brief (hbrief key rfl) List.infix_rfl hdigits] at hposition
      simp [Except.map] at hposition
    · simp at hposition

theorem step_fails {path here : String} {current : Value} {segment : Segment}
    (hsegment : ∀ key, segment = .name key → Brief key.toList) {e : Error}
    (he : step h path here current segment = .error e) : e.isTemplateFault = true := by
  rcases step_cases h path here current segment with
    ⟨_, hstep, -⟩ | ⟨_, hstep, -⟩ | ⟨_, -, hposition⟩
  · simp [hstep] at he
  · obtain rfl := Except.error.inj (hstep.symm.trans he)
    rfl
  · simp [position?_of_brief hsegment] at hposition

theorem walk_fails {path : Path} {walked segments : List Segment} (hbrief : BriefNames segments)
    {current : Value} {e : Error} (he : walk h path walked current segments = .error e) :
    e.isTemplateFault = true := by
  induction segments generalizing walked current with
  | nil => simp [walk] at he
  | cons segment rest ih =>
    obtain ⟨hsegment, hothers⟩ := hbrief.of_cons
    rcases bind_eq_error.mp he with hstep | ⟨next, -, hrest⟩
    · exact step_fails hsegment hstep
    · exact ih hothers hrest

/-- A brief expression that has no value breaks a rule of templates. -/
theorem evaluate_fails {expression : String} (hbrief : Brief expression.toList) {e : Error}
    (he : evaluate h run expression = .error e) : e.isTemplateFault = true := by
  obtain ⟨hfails, hnames⟩ := parse_of_brief hbrief
  rcases bind_eq_error.mp he with hparse | ⟨path, hpath, he⟩
  · exact hfails e hparse
  · rcases bind_eq_error.mp he with hroot | ⟨start, -, hwalk⟩
    · exact rootValue_fails hroot
    · exact walk_fails (hnames path hpath) hwalk

/-- A template all of whose texts are brief. -/
def BriefTexts (template : Value) : Prop := ∀ s, template.HasText s → Brief s.toList

mutual

/-- A template of brief texts that has no value breaks a rule of templates. -/
theorem compile_fails (template : Value) (hbrief : BriefTexts template) {e : Error}
    (he : compile h run template = .error e) : e.isTemplateFault = true := by
  cases template with
  | str s =>
    rw [compile, compileText] at he
    split at he
    · exact evaluate_fails (hbrief s .str) he
    · split at he
      · obtain rfl := Except.error.inj he
        rfl
      · simp at he
  | list items =>
    rw [compile] at he
    exact compileItems_fails items (fun v hv s hs => hbrief s (.list hv hs)) (map_eq_error.mp he)
  | tuple items =>
    rw [compile] at he
    exact compileItems_fails items (fun v hv s hs => hbrief s (.tuple hv hs)) (map_eq_error.mp he)
  | object members =>
    rw [compile] at he
    exact compileMembers_fails members (fun m hm s hs => hbrief s (.object hm hs))
      (map_eq_error.mp he)
  | _ => simp [compile] at he

/-- `compile_fails` on the items of a list. -/
theorem compileItems_fails (items : List Value) (hbrief : ∀ v ∈ items, BriefTexts v) {e : Error}
    (he : compileItems h run items = .error e) : e.isTemplateFault = true := by
  cases items with
  | nil => simp [compileItems] at he
  | cons v rest =>
    rw [compileItems] at he
    obtain ⟨hfirst, hrest⟩ := List.forall_mem_cons.mp hbrief
    rcases bind_eq_error.mp he with hv | ⟨first, -, he⟩
    · exact compile_fails v hfirst hv
    · rcases bind_eq_error.mp he with hothers | ⟨others, -, he⟩
      · exact compileItems_fails rest hrest hothers
      · simp [pure, Except.pure] at he

/-- `compile_fails` on the members of a mapping. -/
theorem compileMembers_fails (members : List (Key × Value)) (hbrief : ∀ m ∈ members, BriefTexts m.2)
    {e : Error} (he : compileMembers h run members = .error e) : e.isTemplateFault = true := by
  cases members with
  | nil => simp [compileMembers] at he
  | cons m rest =>
    obtain ⟨k, v⟩ := m
    rw [compileMembers] at he
    obtain ⟨hfirst, hrest⟩ := List.forall_mem_cons.mp hbrief
    rcases bind_eq_error.mp he with hv | ⟨first, -, he⟩
    · exact compile_fails v hfirst hv
    · rcases bind_eq_error.mp he with hothers | ⟨others, -, he⟩
      · exact compileMembers_fails rest hrest hothers
      · simp [pure, Except.pure] at he

end

end Template

end Switchboard
