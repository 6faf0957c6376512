import Switchboard.Query
import Switchboard.Proofs.Outcome
import Switchboard.Proofs.Text.Blank

/-!
Queries are rendered in a single pass.

* `IsPlaceholder`, `Cuts` — how a placeholder is written, and a query cut into its leftmost placeholders and the
  texts between them;
* `placeholder?_eq_some`, `placeholder?_eq_none` — the reader finds a placeholder at the start of a text exactly when
  one stands there;
* `exists_cuts`, `Cuts.unique` — every query is cut in one way;
* `piecesFrom_of_cuts`, `render_eq` — and this is how it is rendered: the texts between the placeholders stay, and the
  placeholders give way to values;
* `render_single_pass` — what comes of a query, and which placeholder keeps it from being rendered.

No character of a key is blank or a brace, so that a placeholder is read in one way from where it begins.
-/
namespace Switchboard.Query

/-! ### Placeholders -/

/-- A text is that of a placeholder for a key. -/
inductive IsPlaceholder : List Char → List Char → Prop where
  | mk {front key back : List Char} (hfront : ∀ c ∈ front, Text.isBlank c = true) (hne : key ≠ [])
      (hkey : ∀ c ∈ key, isKeyChar c = true) (hback : ∀ c ∈ back, Text.isBlank c = true) :
      IsPlaceholder ('{' :: '{' :: (front ++ (key ++ (back ++ ['}', '}'])))) key

/-- A text holds no placeholder. -/
def Plain (cs : List Char) : Prop := ∀ m key, m <:+: cs → ¬ IsPlaceholder m key

/-- The first placeholder of a text, with what stands in front of it and behind it. -/
structure IsFirst (cs literal m key rest : List Char) : Prop where
  split : cs = literal ++ m ++ rest
  placeholder : IsPlaceholder m key
  first : ∀ before m' key' after, cs = before ++ m' ++ after → IsPlaceholder m' key' → literal.length ≤ before.length

/-- A text cut into its leftmost placeholders that do not overlap: in front of each of them the text since the last
one, and its key; and the text behind the last. -/
inductive Cuts : List Char → List (List Char × String) → List Char → Prop where
  | done {cs : List Char} (hplain : Plain cs) : Cuts cs [] cs
  | next {cs literal m key rest : List Char} {found : List (List Char × String)} {last : List Char}
      (hfirst : IsFirst cs literal m key rest) (hrest : Cuts rest found last) :
      Cuts cs ((literal, String.ofList key) :: found) last

/-- The characters of keys lie between the hyphen and the last small letter. -/
theorem isKeyChar_bounds {c : Char} (h : isKeyChar c = true) : 0x2D ≤ c.toNat ∧ c.toNat ≤ 0x7A := by
  have hle : ∀ {d e : Char}, d ≤ e ↔ d.toNat ≤ e.toNat := Iff.rfl
  simp only [isKeyChar, Text.isLetter, Text.isDigit, Bool.or_eq_true, Bool.and_eq_true, decide_eq_true_eq, hle] at h
  rcases h with (((((⟨hlow, hhigh⟩ | ⟨hlow, hhigh⟩) | ⟨hlow, hhigh⟩) | rfl) | rfl) | rfl)
  · exact ⟨le_trans (by decide) hlow, hhigh⟩
  · exact ⟨le_trans (by decide) hlow, le_trans hhigh (by decide)⟩
  · exact ⟨le_trans (by decide) hlow, le_trans hhigh (by decide)⟩
  · decide
  · decide
  · decide

theorem isBlank_bounds {c : Char} (h : Text.isBlank c = true) : c.toNat ≤ 0x20 ∨ 0x85 ≤ c.toNat := by
  simp only [Text.isBlank, Bool.or_eq_true, Bool.and_eq_true, decide_eq_true_eq, beq_iff_eq] at h
  omega

/-- What is blank belongs to no key. -/
theorem isKeyChar_of_isBlank {c : Char} (h : Text.isBlank c = true) : isKeyChar c = false := by
  by_contra hkey
  have hbounds := isKeyChar_bounds (by simpa using hkey)
  have hblank := isBlank_bounds h
  omega

theorem drop_length_takeWhile (p : Char → Bool) (cs : List Char) :
    cs.drop (cs.takeWhile p).length = cs.dropWhile p := by
  have hdrop : (cs.takeWhile p ++ cs.dropWhile p).drop (cs.takeWhile p).length = cs.dropWhile p := List.drop_left
  rwa [List.takeWhile_append_dropWhile] at hdrop

/-- The reader drops the braces and blanks, and keeps the key. -/
theorem placeholder?_eq {cs body : List Char} (hbody : cs.dropWhile Text.isBlank = body) :
    placeholder? ('{' :: '{' :: cs) =
      (Text.dropPrefix? ['}', '}'] ((body.dropWhile isKeyChar).dropWhile Text.isBlank)).bind fun rest =>
        if (body.takeWhile isKeyChar).isEmpty then none else some (body.takeWhile isKeyChar, rest) := by
  subst hbody
  simp only [placeholder?, drop_length_takeWhile]
  rfl

theorem placeholder?_of_isPlaceholder {m key : List Char} (h : IsPlaceholder m key) (rest : List Char) :
    placeholder? (m ++ rest) = some (key, rest) := by
  obtain @⟨front, key, back, hfront, hne, hkey, hback⟩ := h
  have hclose : ∀ c, ('}' :: '}' :: rest).head? = some c → Text.isBlank c = false ∧ isKeyChar c = false := by
    intro c hc
    obtain rfl := Option.some.inj hc
    decide
  -- the key ends where the blanks behind it begin, or the braces
  have hbehind : ∀ c, (back ++ '}' :: '}' :: rest).head? = some c → isKeyChar c = false := by
    intro c hc
    cases back with
    | nil => exact (hclose c hc).2
    | cons d back =>
      obtain rfl := Option.some.inj hc
      exact isKeyChar_of_isBlank (hback _ List.mem_cons_self)
  have hstart : ∀ c, (key ++ (back ++ '}' :: '}' :: rest)).head? = some c → Text.isBlank c = false := by
    intro c hc
    obtain ⟨d, others, rfl⟩ := List.exists_cons_of_ne_nil hne
    obtain rfl := Option.some.inj hc
    by_contra hblank
    simp [isKeyChar_of_isBlank (by simpa using hblank)] at hkey
  have hsplit : '{' :: '{' :: (front ++ (key ++ (back ++ ['}', '}']))) ++ rest
      = '{' :: '{' :: (front ++ (key ++ (back ++ '}' :: '}' :: rest))) := by simp
  rw [hsplit, placeholder?_eq (Text.dropWhile_append hfront hstart), Text.dropWhile_append hkey hbehind,
    Text.takeWhile_append hkey hbehind, Text.dropWhile_append hback fun c hc => (hclose c hc).1]
  simp [Text.dropPrefix?, hne]

/-- A placeholder is found at the start of a text exactly when one stands there. -/
theorem placeholder?_eq_some {cs key rest : List Char} :
    placeholder? cs = some (key, rest) ↔ ∃ m, IsPlaceholder m key ∧ cs = m ++ rest := by
  constructor
  · intro h
    have hbraces : ∃ inner, cs = '{' :: '{' :: inner := by
      obtain ⟨inner, hinner, -⟩ := Option.bind_eq_some_iff.mp h
      exact ⟨inner, Text.dropPrefix?_eq_some.mp hinner⟩
    obtain ⟨inner, rfl⟩ := hbraces
    generalize hbody : inner.dropWhile Text.isBlank = body
    rw [placeholder?_eq hbody] at h
    obtain ⟨behind, hbehind, h⟩ := Option.bind_eq_some_iff.mp h
    split at h
    · simp at h
    · next hne =>
      obtain ⟨rfl, rfl⟩ := Prod.mk.inj (Option.some.inj h)
      generalize hafter : body.dropWhile isKeyChar = after at hbehind
      have hinner : inner = inner.takeWhile Text.isBlank ++ (body.takeWhile isKeyChar ++
          (after.takeWhile Text.isBlank ++ '}' :: '}' :: behind)) := by
        have hend : '}' :: '}' :: behind = after.dropWhile Text.isBlank :=
          (Text.dropPrefix?_eq_some.mp hbehind).symm
        rw [hend, List.takeWhile_append_dropWhile, ← hafter, List.takeWhile_append_dropWhile, ← hbody,
          List.takeWhile_append_dropWhile]
      refine ⟨'{' :: '{' :: (inner.takeWhile Text.isBlank ++ (body.takeWhile isKeyChar ++
        (after.takeWhile Text.isBlank ++ ['}', '}']))), ?_, ?_⟩
      · exact .mk (fun _ hc => List.mem_takeWhile_imp hc) (by simpa using hne) (fun _ hc => List.mem_takeWhile_imp hc)
          fun _ hc => List.mem_takeWhile_imp hc
      · exact (congrArg (fun cs => '{' :: '{' :: cs) hinner).trans (by simp)
  · rintro ⟨m, hm, rfl⟩
    exact placeholder?_of_isPlaceholder hm rest

/-- Nothing is found exactly when none stands there. -/
theorem placeholder?_eq_none {cs : List Char} :
    placeholder? cs = none ↔ ∀ m key rest, cs = m ++ rest → ¬ IsPlaceholder m key := by
  constructor
  · rintro h m key rest rfl hm
    simp [placeholder?_of_isPlaceholder hm] at h
  · intro h
    by_contra hfound
    obtain ⟨⟨key, rest⟩, hfound⟩ := Option.ne_none_iff_exists'.mp hfound
    obtain ⟨m, hm, hsplit⟩ := placeholder?_eq_some.mp hfound
    exact h m key rest hsplit hm

theorem IsPlaceholder.length_pos {m key : List Char} (h : IsPlaceholder m key) : 0 < m.length := by
  cases h
  exact Nat.succ_pos _

/-- From where it begins a placeholder is read in one way. -/
theorem IsPlaceholder.unique {m key m' key' rest rest' : List Char} (h : IsPlaceholder m key)
    (h' : IsPlaceholder m' key') (hsplit : m ++ rest = m' ++ rest') : key = key' ∧ rest = rest' := by
  have hread := placeholder?_of_isPlaceholder h rest
  rw [hsplit, placeholder?_of_isPlaceholder h' rest'] at hread
  obtain ⟨rfl, rfl⟩ := Prod.mk.inj (Option.some.inj hread)
  exact ⟨rfl, rfl⟩

/-! ### Cutting a text -/

/-- A text without a placeholder at its start is plain if it is so behind its first character. -/
theorem Plain.cons {c : Char} {cs : List Char} (h : Plain cs) (hstart : placeholder? (c :: cs) = none) :
    Plain (c :: cs) := by
  rintro m key hin hm
  rcases List.infix_cons_iff.mp hin with ⟨rest, hsplit⟩ | hin
  · exact placeholder?_eq_none.mp hstart m key rest hsplit.symm hm
  · exact h m key hin hm

theorem plain_nil : Plain [] := by
  rintro m key hin hm
  have hlength := hin.length_le
  have hpos := hm.length_pos
  simp only [List.length_nil] at hlength
  omega

/-- A text has one first placeholder. -/
theorem IsFirst.unique {cs literal m key rest literal' m' key' rest' : List Char}
    (h : IsFirst cs literal m key rest) (h' : IsFirst cs literal' m' key' rest') :
    literal = literal' ∧ key = key' ∧ rest = rest' := by
  -- neither stands in front of the other, so that both begin at the same place
  have hlength : literal.length = literal'.length :=
    le_antisymm (h.first _ _ _ _ h'.split h'.placeholder) (h'.first _ _ _ _ h.split h.placeholder)
  have hsplit := h.split.symm.trans h'.split
  rw [List.append_assoc, List.append_assoc] at hsplit
  obtain ⟨rfl, hbehind⟩ := List.append_inj hsplit hlength
  exact ⟨rfl, h.placeholder.unique h'.placeholder hbehind⟩

/-- In a plain text there is none. -/
theorem Plain.not_isFirst {cs literal m key rest : List Char} (h : Plain cs) : ¬ IsFirst cs literal m key rest :=
  fun hfirst => h m key ⟨literal, rest, hfirst.split.symm⟩ hfirst.placeholder

theorem IsFirst.cons {c : Char} {cs literal m key rest : List Char} (h : IsFirst cs literal m key rest)
    (hstart : placeholder? (c :: cs) = none) : IsFirst (c :: cs) (c :: literal) m key rest := by
  obtain ⟨hsplit, hm, hfirst⟩ := h
  refine ⟨by rw [hsplit]; rfl, hm, fun before m' key' after hsplit' hm' => ?_⟩
  cases before with
  | nil => exact absurd hm' (placeholder?_eq_none.mp hstart m' key' after hsplit')
  | cons d before =>
    have hlength := hfirst before m' key' after (List.cons.inj hsplit').2 hm'
    exact Nat.succ_le_succ hlength

/-- A text has no placeholder, or a first one. -/
theorem plain_or_isFirst (cs : List Char) : Plain cs ∨ ∃ literal m key rest, IsFirst cs literal m key rest := by
  induction cs with
  | nil => exact .inl plain_nil
  | cons c cs ih =>
    cases hstart : placeholder? (c :: cs) with
    | some found =>
      obtain ⟨m, hm, hsplit⟩ := placeholder?_eq_some.mp hstart
      exact .inr ⟨[], m, found.1, found.2, by simpa using hsplit, hm, fun _ _ _ _ _ _ => Nat.zero_le _⟩
    | none =>
      rcases ih with hplain | ⟨literal, m, key, rest, hfirst⟩
      · exact .inl (hplain.cons hstart)
      · exact .inr ⟨c :: literal, m, key, rest, hfirst.cons hstart⟩

/-- Every text is cut. -/
theorem exists_cuts (cs : List Char) : ∃ found last, Cuts cs found last := by
  induction hlength : cs.length using Nat.strongRecOn generalizing cs with
  | _ n ih =>
    subst hlength
    rcases plain_or_isFirst cs with hplain | ⟨literal, m, key, rest, hfirst⟩
    · exact ⟨[], cs, .done hplain⟩
    · have hshorter : rest.length < cs.length := by
        have hpos := hfirst.placeholder.length_pos
        rw [hfirst.split, List.length_append, List.length_append]
        omega
      obtain ⟨found, last, hrest⟩ := ih rest.length hshorter rest rfl
      exact ⟨_, last, .next hfirst hrest⟩

/-- It is cut in one way. -/
theorem Cuts.unique {cs : List Char} {found found' : List (List Char × String)} {last last' : List Char}
    (h : Cuts cs found last) (h' : Cuts cs found' last') : found' = found ∧ last' = last := by
  induction h generalizing found' last' with
  | done hplain =>
    cases h' with
    | done => exact ⟨rfl, rfl⟩
    | next hfirst _ => exact absurd hfirst hplain.not_isFirst
  | next hfirst _ ih =>
    cases h' with
    | done hplain => exact absurd hfirst hplain.not_isFirst
    | next hfirst' hrest' =>
      obtain ⟨rfl, rfl, rfl⟩ := hfirst.unique hfirst'
      obtain ⟨rfl, rfl⟩ := ih hrest'
      exact ⟨rfl, rfl⟩

/-! ### Rendering what is cut -/

/-- The pieces of a text that is cut. -/
def cutPieces (found : List (List Char × String)) (last : List Char) : List Piece :=
  found.flatMap (fun p => p.1.map .literal ++ [.placeholder p.2]) ++ last.map .literal

theorem piecesFrom_drop (passed : Nat) (cs : List Char) : piecesFrom passed cs = piecesFrom 0 (cs.drop passed) := by
  induction passed generalizing cs with
  | zero => rfl
  | succ passed ih =>
    cases cs with
    | nil => rfl
    | cons c cs => rw [piecesFrom, ih, List.drop_succ_cons]

theorem piecesFrom_cons_of_none {c : Char} {cs : List Char} (h : placeholder? (c :: cs) = none) :
    piecesFrom 0 (c :: cs) = .literal c :: piecesFrom 0 cs := by
  rw [piecesFrom, h]

/-- Behind a placeholder the text is cut on. -/
theorem piecesFrom_placeholder {m key : List Char} (hm : IsPlaceholder m key) (rest : List Char) :
    piecesFrom 0 (m ++ rest) = .placeholder (String.ofList key) :: piecesFrom 0 rest := by
  have hread := placeholder?_of_isPlaceholder hm rest
  obtain ⟨c, tail, rfl⟩ := List.exists_cons_of_length_pos hm.length_pos
  rw [List.cons_append] at hread ⊢
  -- what is passed over is the placeholder without its first character
  have hpassed : (tail ++ rest).length - rest.length = tail.length := by simp
  rw [piecesFrom, hread]
  dsimp only
  rw [hpassed, piecesFrom_drop, List.drop_left]

theorem piecesFrom_of_plain {cs : List Char} (h : Plain cs) : piecesFrom 0 cs = cs.map .literal := by
  induction cs with
  | nil => rfl
  | cons c cs ih =>
    have hstart : placeholder? (c :: cs) = none :=
      placeholder?_eq_none.mpr fun m key rest hsplit => h m key ⟨[], rest, hsplit.symm⟩
    rw [piecesFrom_cons_of_none hstart, List.map_cons, ih fun m key hin => h m key (List.infix_cons hin)]

/-- What stands in front of the first placeholder stays. -/
theorem piecesFrom_of_isFirst {cs literal m key rest : List Char} (h : IsFirst cs literal m key rest) :
    piecesFrom 0 cs = literal.map .literal ++ .placeholder (String.ofList key) :: piecesFrom 0 rest := by
  obtain ⟨rfl, hm, hfirst⟩ := h
  induction literal with
  | nil => exact piecesFrom_placeholder hm rest
  | cons c literal ih =>
    have hstart : placeholder? (c :: (literal ++ m ++ rest)) = none :=
      placeholder?_eq_none.mpr fun m' key' rest' hsplit hm' =>
        absurd (hfirst [] m' key' rest' hsplit hm') (Nat.not_succ_le_zero _)
    have hbehind : ∀ before m' key' after, literal ++ m ++ rest = before ++ m' ++ after → IsPlaceholder m' key' →
        literal.length ≤ before.length := by
      intro before m' key' after hsplit hm'
      have hlength := hfirst (c :: before) m' key' after (congrArg (c :: ·) hsplit) hm'
      exact Nat.le_of_succ_le_succ hlength
    rw [List.cons_append, List.cons_append, piecesFrom_cons_of_none hstart, ih hbehind]
    rfl

theorem piecesFrom_of_cuts {cs : List Char} {found : List (List Char × String)} {last : List Char}
    (h : Cuts cs found last) : piecesFrom 0 cs = cutPieces found last := by
  induction h with
  | done hplain => exact piecesFrom_of_plain hplain
  | next hfirst _ ih =>
    rw [piecesFrom_of_isFirst hfirst, ih]
    simp [cutPieces]

/-- The text that stands for a value: a text itself, and the JSON text of anything else. -/
inductive StandsFor : Value → String → Prop where
  | text (s : String) : StandsFor (.str s) s
  | json {v : Value} {text : String} (hv : ∀ s, v ≠ .str s) (h : Json.text v = .ok text) : StandsFor v text

/-- The value under a key of a payload has a text. -/
def Shows (payload : Value) (key text : String) : Prop := ∃ v, payload.get? key = some v ∧ StandsFor v text

/-- The value under a key of a payload has no text. -/
def Refuses (payload : Value) (key : String) (e : Json.WriteError) : Prop :=
  ∃ v, payload.get? key = some v ∧ (∀ s, v ≠ .str s) ∧ Json.text v = .error e

theorem isText_or (v : Value) : (∃ s, v = .str s) ∨ ∀ s, v ≠ .str s := by
  cases v with
  | str s => exact .inl ⟨s, rfl⟩
  | _ => exact .inr nofun

theorem valueText_of_ne {v : Value} (hv : ∀ s, v ≠ .str s) : valueText v = (Json.text v).mapError .write := by
  cases v with
  | str s => exact absurd rfl (hv s)
  | _ => rfl

theorem valueText_eq_ok {v : Value} {text : String} : valueText v = .ok text ↔ StandsFor v text := by
  rcases isText_or v with ⟨s, rfl⟩ | hv
  · constructor
    · intro h
      obtain rfl := Except.ok.inj h
      exact .text s
    · rintro (_ | ⟨hne, -⟩)
      · rfl
      · exact absurd rfl (hne s)
  · rw [valueText_of_ne hv, mapError_eq_ok]
    constructor
    · exact .json hv
    · rintro (_ | ⟨-, h⟩)
      · exact absurd rfl (hv _)
      · exact h

theorem valueText_eq_error {v : Value} {e : RenderError} :
    valueText v = .error e ↔ (∀ s, v ≠ .str s) ∧ ∃ e', Json.text v = .error e' ∧ e = .write e' := by
  rcases isText_or v with ⟨s, rfl⟩ | hv
  · exact iff_of_false (by simp [valueText]) fun h => h.1 s rfl
  · rw [valueText_of_ne hv, mapError_eq_error]
    exact ⟨fun ⟨e', he, heq⟩ => ⟨hv, e', he, heq.symm⟩, fun ⟨_, e', he, heq⟩ => ⟨e', he, heq.symm⟩⟩

section
variable {payload : Value} {key : String}

theorem pieceText_placeholder_eq_ok {text : String} :
    pieceText payload (.placeholder key) = .ok text ↔ Shows payload key text := by
  rw [pieceText, Shows]
  cases payload.get? key with
  | none => simp
  | some v => simp [valueText_eq_ok]

theorem pieceText_placeholder_eq_error {e : RenderError} :
    pieceText payload (.placeholder key) = .error e ↔
      (payload.get? key = none ∧ e = .missing key) ∨ ∃ e', Refuses payload key e' ∧ e = .write e' := by
  simp only [pieceText, Refuses]
  cases payload.get? key with
  | none => simp [eq_comm]
  | some v => simp [valueText_eq_error, and_assoc]

end

/-- The texts between placeholders, with others in the place of these. -/
def filled : List (List Char × String) → List String → List Char → String
  | (literal, _) :: found, text :: texts, last => String.ofList literal ++ text ++ filled found texts last
  | _, _, last => String.ofList last

theorem mapM_literals (payload : Value) (cs : List Char) :
    (cs.map Piece.literal).mapM (pieceText payload) = .ok (cs.map String.singleton) := by
  induction cs with
  | nil => rfl
  | cons c cs ih =>
    rw [List.map_cons, List.mapM_cons, ih]
    rfl

theorem join_singletons (cs : List Char) : String.join (cs.map String.singleton) = String.ofList cs := by
  induction cs with
  | nil => rfl
  | cons c cs ih => rw [List.map_cons, String.join_cons, ih, ← String.ofList_cons]

/-- The pieces of a text that is cut have texts when the placeholders have. -/
theorem mapM_cutPieces (payload : Value) (found : List (List Char × String)) (last : List Char) :
    ((cutPieces found last).mapM (pieceText payload)).map String.join
      = (found.mapM fun p => pieceText payload (.placeholder p.2)).map fun texts => filled found texts last := by
  induction found with
  | nil =>
    have hpieces : cutPieces [] last = last.map .literal := rfl
    rw [hpieces, mapM_literals, Except.map, join_singletons]
    rfl
  | cons p found ih =>
    obtain ⟨literal, key⟩ := p
    have hpieces : cutPieces ((literal, key) :: found) last
        = literal.map .literal ++ .placeholder key :: cutPieces found last := by simp [cutPieces]
    rw [hpieces, List.mapM_append, mapM_literals, List.mapM_cons, List.mapM_cons]
    cases pieceText payload (.placeholder key) with
    | error e => rfl
    | ok text =>
      have hmore := ih
      generalize (cutPieces found last).mapM (pieceText payload) = more at hmore ⊢
      generalize (found.mapM fun p => pieceText payload (.placeholder p.2)) = others at hmore ⊢
      cases others with
      | error e =>
        obtain rfl := map_eq_error.mp hmore
        rfl
      | ok texts =>
        obtain ⟨parts, rfl, hparts⟩ := map_eq_ok.mp hmore
        have hjoin : String.join (literal.map String.singleton ++ text :: parts)
            = String.ofList literal ++ text ++ filled found texts last := by
          rw [String.join_append, join_singletons, String.join_cons, hparts, String.append_assoc]
        exact congrArg Except.ok hjoin

/-- **How a query is rendered.** Its placeholders are looked up one after the other. -/
theorem render_eq {query : String} {found : List (List Char × String)} {last : List Char}
    (h : Cuts query.toList found last) (payload : Value) :
    render query payload
      = (found.mapM fun p => pieceText payload (.placeholder p.2)).map fun texts => filled found texts last := by
  rw [render, pieces, piecesFrom_of_cuts h, mapM_cutPieces]

/-- A query is rendered when the values under all of its keys have texts. -/
theorem render_eq_ok {query : String} {found : List (List Char × String)} {last : List Char}
    (h : Cuts query.toList found last) {payload : Value} {text : String} :
    render query payload = .ok text ↔
      ∃ texts, List.Forall₂ (fun p t => Shows payload p.2 t) found texts ∧ text = filled found texts last := by
  rw [render_eq h, map_eq_ok]
  simp only [mapM_eq_ok, pieceText_placeholder_eq_ok, @eq_comm _ text]

/-- A query is not rendered when, behind keys whose values have texts, there is one without. -/
theorem render_eq_error {query : String} {found : List (List Char × String)} {last : List Char}
    (h : Cuts query.toList found last) {payload : Value} {e : RenderError} :
    render query payload = .error e ↔
      ∃ before literal key after, found = before ++ (literal, key) :: after ∧
        (∀ p ∈ before, ∃ text, Shows payload p.2 text) ∧
        ((payload.get? key = none ∧ e = .missing key) ∨ ∃ e', Refuses payload key e' ∧ e = .write e') := by
  rw [render_eq h, map_eq_error, mapM_eq_error]
  constructor
  · rintro ⟨before, ⟨literal, key⟩, after, texts, hfound, hbefore, hkey⟩
    refine ⟨before, literal, key, after, hfound, fun p hp => ?_, pieceText_placeholder_eq_error.mp hkey⟩
    obtain ⟨text, -, htext⟩ := exists_mem_of_mapM hbefore hp
    exact ⟨text, pieceText_placeholder_eq_ok.mp htext⟩
  · rintro ⟨before, literal, key, after, hfound, hbefore, hkey⟩
    have hshown : ∀ p ∈ before, ∃ text, pieceText payload (.placeholder p.2) = .ok text := by
      intro p hp
      obtain ⟨text, htext⟩ := hbefore p hp
      exact ⟨text, pieceText_placeholder_eq_ok.mpr htext⟩
    obtain ⟨texts, htexts⟩ := exists_mapM hshown
    exact ⟨before, (literal, key), after, texts, hfound, htexts, pieceText_placeholder_eq_error.mpr hkey⟩

/-- Payloads that agree on the keys of a query make no difference. -/
theorem render_congr {query : String} {found : List (List Char × String)} {last : List Char}
    (h : Cuts query.toList found last) {payload other : Value}
    (hagree : ∀ p ∈ found, payload.get? p.2 = other.get? p.2) : render query payload = render query other := by
  rw [render_eq h, render_eq h]
  refine congrArg _ (mapM_congr fun p hp => ?_)
  rw [pieceText, pieceText, hagree p hp]

/-- A payload that is no object holds nothing. -/
theorem get?_of_ne {payload : Value} (h : ∀ members, payload ≠ .object members) (key : String) :
    payload.get? key = none := by
  cases payload with
  | object members => exact absurd rfl (h members)
  | _ => rfl

/-- **Queries are rendered in a single pass.** A query is cut in one way into its leftmost placeholders that do not
overlap and the texts between them. It is rendered when the values under all of their keys have texts: the texts in
between stay, and these stand in the place of the placeholders, whatever is in them. Otherwise the first placeholder in
reading order decides whose key is missing or whose value has no JSON text. A payload that is no object misses the
first key; what a payload holds under other keys makes no difference; and a query without placeholders stays as it
is. -/
theorem render_single_pass (query : String) :
    ∃ found last, Cuts query.toList found last ∧
      (∀ found' last', Cuts query.toList found' last' → found' = found ∧ last' = last) ∧
      (∀ payload text, render query payload = .ok text ↔
        ∃ texts, List.Forall₂ (fun p t => Shows payload p.2 t) found texts ∧ text = filled found texts last) ∧
      (∀ payload key, render query payload = .error (.missing key) ↔
        ∃ before literal after, found = before ++ (literal, key) :: after ∧
          (∀ p ∈ before, ∃ text, Shows payload p.2 text) ∧ payload.get? key = none) ∧
      (∀ payload e, render query payload = .error (.write e) ↔
        ∃ before literal key after, found = before ++ (literal, key) :: after ∧
          (∀ p ∈ before, ∃ text, Shows payload p.2 text) ∧ Refuses payload key e) ∧
      (∀ key, (RenderError.missing key).message
        = "Missing value for query placeholder \x7b\x7b" ++ key ++ "\x7d\x7d.") ∧
      (∀ payload, (∀ members, payload ≠ .object members) → ∀ literal key after, found = (literal, key) :: after →
        render query payload = .error (.missing key)) ∧
      (∀ payload other : Value, (∀ p ∈ found, payload.get? p.2 = other.get? p.2) →
        render query payload = render query other) ∧
      (found = [] → ∀ payload, render query payload = .ok query) := by
  obtain ⟨found, last, h⟩ := exists_cuts query.toList
  have hmissing : ∀ payload key, render query payload = .error (.missing key) ↔
      ∃ before literal after, found = before ++ (literal, key) :: after ∧
        (∀ p ∈ before, ∃ text, Shows payload p.2 text) ∧ payload.get? key = none := by
    intro payload key
    rw [render_eq_error h]
    simp only [RenderError.missing.injEq, reduceCtorEq, and_false, exists_false, or_false]
    constructor
    · rintro ⟨before, literal, key', after, hfound, hbefore, hnone, rfl⟩
      exact ⟨before, literal, after, hfound, hbefore, hnone⟩
    · rintro ⟨before, literal, after, hfound, hbefore, hnone⟩
      exact ⟨before, literal, key, after, hfound, hbefore, hnone, rfl⟩
  refine ⟨found, last, h, fun _ _ h' => h.unique h', fun _ _ => render_eq_ok h, hmissing, fun payload e => ?_,
    fun _ => rfl, ?_, fun _ _ => render_congr h, ?_⟩
  · rw [render_eq_error h]
    simp only [reduceCtorEq, and_false, RenderError.write.injEq, false_or, exists_eq_right']
  · rintro payload hobject literal key after rfl
    exact (hmissing payload key).mpr ⟨[], literal, after, rfl, by simp, get?_of_ne hobject key⟩
  · rintro rfl payload
    cases h
    refine (render_eq_ok (.done ‹_›)).mpr ⟨[], .nil, ?_⟩
    simp [filled]

/-- A missing key is not reported when the value under an earlier one has no JSON text. -/
theorem render_unwritable_first :
    pieces "\x7b\x7bx\x7d\x7d \x7b\x7bb\x7d\x7d" = [.placeholder "x", .literal ' ', .placeholder "b"] ∧
    Value.get? (.object [(.text "x", .set [.int 1])]) "b" = none ∧
    render "\x7b\x7bx\x7d\x7d \x7b\x7bb\x7d\x7d" (.object [(.text "x", .set [.int 1])])
      = .error (.write (.unsupported "set")) ∧
    ∀ key, render "\x7b\x7bx\x7d\x7d \x7b\x7bb\x7d\x7d" (.object [(.text "x", .set [.int 1])])
      ≠ .error (.missing key) := by
  have hrender : render "\x7b\x7bx\x7d\x7d \x7b\x7bb\x7d\x7d" (.object [(.text "x", .set [.int 1])])
      = .error (.write (.unsupported "set")) := by rfl
  refine ⟨by decide, rfl, hrender, fun key => ?_⟩
  rw [hrender]
  simp

end Switchboard.Query
