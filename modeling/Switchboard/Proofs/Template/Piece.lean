import Switchboard.Proofs.Outcome
import Switchboard.Proofs.Text.Blank
import Switchboard.Template.Path

/-!
The pieces between the dots of a path.

* `Piece` — a name, which may be empty, and runs of digits in brackets behind it;
* `indexGroups_groups`, `indexGroups_append` — runs of digits in brackets in front of other text;
* `indexGroups_sound`, `splitSegment?_text`, `exists_piece` — the texts that are cut into a name and runs of
  digits are those of pieces;
* `readSegments_cases` — all that reading a piece can come to.

`indexGroups` reads from left to right and keeps what it has read of an index; `begun` is the text of that, so
that what has been read and what is left are together the text of the groups.
-/
namespace Switchboard.Template

/-! ### Runs of digits in brackets -/

/-- A run of digits as an index. -/
def bracketed (digits : List Char) : List Char := '[' :: (digits ++ [']'])

theorem isInfix_bracketed (digits : List Char) : digits <:+: bracketed digits :=
  ⟨['['], [']'], by simp [bracketed]⟩

/-- Some ASCII digits, one at least. -/
structure IsRun (digits : List Char) : Prop where
  ne_nil : digits ≠ []
  isDigit : ∀ c ∈ digits, Text.isDigit c = true

instance (digits : List Char) : Decidable (IsRun digits) :=
  decidable_of_iff (digits ≠ [] ∧ digits.all Text.isDigit = true)
    ⟨fun h => ⟨h.1, List.all_eq_true.mp h.2⟩, fun h => ⟨h.ne_nil, List.all_eq_true.mpr h.isDigit⟩⟩

/-- What has been read of an index, with its opening bracket. -/
def begun : Option (List Char) → List Char
  | none => []
  | some run => '[' :: run.reverse

/-- What is cut into runs of digits is these runs, each between brackets. -/
theorem indexGroups_sound {run : Option (List Char)} {cs : List Char} {groups : List (List Char)}
    (h : indexGroups run cs = some groups) (hrun : ∀ c ∈ run.getD [], Text.isDigit c = true) :
    begun run ++ cs = groups.flatMap bracketed ∧ ∀ g ∈ groups, IsRun g := by
  fun_induction indexGroups run cs generalizing groups with
  | case1 =>
    obtain rfl := Option.some.inj h
    exact ⟨rfl, by simp⟩
  | case2 rest ih => exact ih h (by simp)
  | case3 | case4 | case7 => simp at h
  | case5 run c rest hdigit ih =>
    have hmore : ∀ d ∈ c :: run, Text.isDigit d = true := List.forall_mem_cons.mpr ⟨hdigit, hrun⟩
    obtain ⟨htext, hgroups⟩ := ih h hmore
    exact ⟨by simpa [begun] using htext, hgroups⟩
  | case6 run c rest hdigit hclosed ih =>
    obtain ⟨others, hothers, rfl⟩ := Option.map_eq_some_iff.mp h
    obtain ⟨htext, hgroups⟩ := ih hothers (by simp)
    have hrest : rest = others.flatMap bracketed := htext
    obtain ⟨rfl, hne⟩ : c = ']' ∧ run ≠ [] := by simpa using hclosed
    refine ⟨by simp [begun, bracketed, hrest], List.forall_mem_cons.mpr ⟨⟨by simpa using hne, ?_⟩, hgroups⟩⟩
    intro d hd
    exact hrun d (by simpa using hd)

/-- A run of digits ends at the closing bracket. -/
theorem indexGroups_digits {run digits rest : List Char}
    (hdigits : ∀ c ∈ digits, Text.isDigit c = true) (hne : run ≠ [] ∨ digits ≠ []) :
    indexGroups (some run) (digits ++ ']' :: rest)
      = (indexGroups none rest).map ((run.reverse ++ digits) :: ·) := by
  induction digits generalizing run with
  | nil =>
    have hrun : run.isEmpty = false := by simpa using hne
    have hbracket : Text.isDigit ']' = false := by decide
    simp [indexGroups, hrun, hbracket]
  | cons d ds ih =>
    obtain ⟨hd, hds⟩ := List.forall_mem_cons.mp hdigits
    rw [List.cons_append, indexGroups, if_pos hd, ih hds (.inl (by simp))]
    simp

/-- Runs of digits in brackets are cut apart, in front of other text too. -/
theorem indexGroups_groups {groups : List (List Char)} (hgroups : ∀ g ∈ groups, IsRun g) (q : List Char) :
    indexGroups none (groups.flatMap bracketed ++ q) = (indexGroups none q).map (groups ++ ·) := by
  induction groups with
  | nil => simp
  | cons g rest ih =>
    obtain ⟨hg, hrest⟩ := List.forall_mem_cons.mp hgroups
    have htext : (g :: rest).flatMap bracketed ++ q
        = '[' :: (g ++ ']' :: (rest.flatMap bracketed ++ q)) := by
      simp [bracketed]
    rw [htext, indexGroups, if_pos rfl, indexGroups_digits hg.isDigit (.inr hg.ne_nil), ih hrest,
      Option.map_map]
    rfl

/-- An opening bracket does not stand inside an index, so that what is in front of it has indices of its
own. -/
theorem indexGroups_append (run : Option (List Char)) (cs : List Char) {q : List Char}
    (hq : ∀ c, q.head? = some c → c = '[') :
    indexGroups run (cs ++ q)
      = (indexGroups run cs).bind fun groups => (indexGroups none q).map (groups ++ ·) := by
  fun_induction indexGroups run cs with
  | case1 => simp
  | case2 rest ih => rw [List.cons_append, indexGroups, if_pos rfl, ih]
  | case3 c rest hc =>
    rw [List.cons_append, indexGroups, if_neg hc]
    rfl
  | case4 run =>
    -- the index that has been begun is not closed by a bracket that opens
    cases q with
    | nil => rfl
    | cons c rest =>
      obtain rfl := hq c rfl
      have hdigit : Text.isDigit '[' = false := by decide
      simp [indexGroups, hdigit]
  | case5 run c rest hdigit ih => rw [List.cons_append, indexGroups, if_pos hdigit, ih]
  | case6 run c rest hdigit hclosed ih =>
    rw [List.cons_append, indexGroups, if_neg hdigit, if_pos hclosed, ih]
    cases indexGroups none rest with
    | none => rfl
    | some groups => cases indexGroups none q <;> rfl
  | case7 run c rest hdigit hclosed =>
    rw [List.cons_append, indexGroups, if_neg hdigit, if_neg hclosed]
    rfl

/-! ### Names with indices -/

/-- What can stand between two dots of a path: a name without brackets, which may be empty, and runs of
digits for the indices behind it, but not nothing at all. -/
structure Piece where
  name : List Char
  groups : List (List Char)
  name_plain : ∀ c ∈ name, c ≠ '[' ∧ c ≠ ']'
  groups_runs : ∀ g ∈ groups, IsRun g
  ne_nil : name ≠ [] ∨ groups ≠ []

namespace Piece

/-- The characters of a piece. -/
def text (piece : Piece) : List Char := piece.name ++ piece.groups.flatMap bracketed

/-- The segments of a piece: its name, if it has one, and its indices. -/
def segments (piece : Piece) : List Segment :=
  (if piece.name.isEmpty then [] else [.name (String.ofList piece.name)])
    ++ piece.groups.map fun g => .index (Text.digitsValue g)

/-- All indices of a piece can be read. -/
def IsBrief (piece : Piece) : Prop := ∀ g ∈ piece.groups, g.length ≤ Json.maxDigits

theorem isBracket_of_mem_name {piece : Piece} : ∀ c ∈ piece.name, (!isBracket c) = true := by
  intro c hc
  obtain ⟨hopen, hclose⟩ := piece.name_plain c hc
  simp [isBracket, hopen, hclose]

/-- That a name has no brackets can be computed. -/
theorem plain_of_all {name : List Char} (h : name.all (!isBracket ·) = true) :
    ∀ c ∈ name, c ≠ '[' ∧ c ≠ ']' := by
  intro c hc
  simpa [isBracket] using List.all_eq_true.mp h c hc

theorem segments_ne_nil (piece : Piece) : piece.segments ≠ [] := by
  rw [segments]
  rcases piece.ne_nil with hname | hgroups
  · simp [hname]
  · simp [hgroups]

/-- A piece has one name at most. -/
theorem eq_name_of_mem (piece : Piece) {key : String} (hkey : .name key ∈ piece.segments) :
    key = String.ofList piece.name := by
  rw [segments] at hkey
  split at hkey <;> simp_all

theorem text_ne_nil (piece : Piece) : piece.text ≠ [] := by
  intro hnil
  obtain ⟨hname, hgroups⟩ := List.append_eq_nil_iff.mp hnil
  rcases piece.ne_nil with h | h
  · exact h hname
  · obtain ⟨g, rest, hcons⟩ := List.exists_cons_of_ne_nil h
    simp [hcons, bracketed] at hgroups

/-- The indices of a piece stand in it. -/
theorem bracketed_isInfix (piece : Piece) {g : List Char} (hg : g ∈ piece.groups) :
    bracketed g <:+: piece.text := by
  obtain ⟨before, after, hgroups⟩ := List.append_of_mem hg
  refine ⟨piece.name ++ before.flatMap bracketed, after.flatMap bracketed, ?_⟩
  rw [text, hgroups]
  simp

end Piece

/-- A name ends in front of an opening bracket. -/
theorem cut_of_head? {q : List Char} (hq : ∀ c, q.head? = some c → c = '[') :
    q.takeWhile (!isBracket ·) = [] ∧ q.dropWhile (!isBracket ·) = q := by
  cases q with
  | nil => exact ⟨rfl, rfl⟩
  | cons c rest =>
    obtain rfl := hq c rfl
    exact ⟨rfl, rfl⟩

theorem head?_groups {groups : List (List Char)} :
    ∀ c, (groups.flatMap bracketed).head? = some c → c = '[' := by
  cases groups <;> simp [bracketed, eq_comm]

/-- The text of a piece is cut into its name and its indices. -/
theorem splitSegment?_text (piece : Piece) :
    splitSegment? piece.text = some (piece.name, piece.groups) := by
  have hname := piece.isBracket_of_mem_name
  have hfirst : ∀ c, (piece.groups.flatMap bracketed).head? = some c → c = '[' := head?_groups
  obtain ⟨htake, hdrop⟩ := cut_of_head? hfirst
  have hcut : piece.text.takeWhile (!isBracket ·) = piece.name ∧
      piece.text.dropWhile (!isBracket ·) = piece.groups.flatMap bracketed := by
    rw [Piece.text, List.takeWhile_append_of_pos hname, List.dropWhile_append_of_pos hname, htake, hdrop,
      List.append_nil]
    exact ⟨rfl, rfl⟩
  have hgroups : indexGroups none (piece.groups.flatMap bracketed) = some piece.groups := by
    have happend := indexGroups_groups piece.groups_runs []
    simpa [indexGroups] using happend
  have hne : (piece.name.isEmpty && piece.groups.isEmpty) = false := by
    rcases piece.ne_nil with h | h <;> simp [h]
  simp only [splitSegment?, hcut.1, hcut.2, hgroups, hne]
  rfl

/-- What is cut into a name and indices is the text of a piece. -/
theorem exists_piece {cs name : List Char} {groups : List (List Char)}
    (h : splitSegment? cs = some (name, groups)) :
    ∃ piece : Piece, piece.name = name ∧ piece.groups = groups ∧ piece.text = cs := by
  rw [splitSegment?] at h
  cases hgroups : indexGroups none (cs.dropWhile (!isBracket ·)) with
  | none => simp [hgroups] at h
  | some found =>
    simp only [hgroups] at h
    split at h
    · simp at h
    · next hne =>
      obtain ⟨rfl, rfl⟩ := Prod.mk.inj (Option.some.inj h)
      obtain ⟨htext, hruns⟩ := indexGroups_sound hgroups (by simp)
      have hrest : cs.dropWhile (!isBracket ·) = found.flatMap bracketed := htext
      have hplain : ∀ c ∈ cs.takeWhile (!isBracket ·), c ≠ '[' ∧ c ≠ ']' := by
        intro c hc
        simpa [isBracket] using List.mem_takeWhile_imp hc
      refine ⟨⟨_, found, hplain, hruns, ?_⟩, rfl, rfl, ?_⟩
      · rw [Bool.and_eq_true, not_and_or] at hne
        simpa using hne
      · rw [Piece.text, ← hrest, List.takeWhile_append_dropWhile]

/-- What begins with a bracket is indices of the piece that stands in front of it. -/
theorem splitSegment?_append {cs q : List Char} (hne : cs ≠ []) (hq : ∀ c, q.head? = some c → c = '[') :
    splitSegment? (cs ++ q)
      = (splitSegment? cs).bind fun parts =>
          (indexGroups none q).map fun more => (parts.1, parts.2 ++ more) := by
  obtain ⟨htake, hdrop⟩ := cut_of_head? hq
  have hcut : (cs ++ q).takeWhile (!isBracket ·) = cs.takeWhile (!isBracket ·) ∧
      (cs ++ q).dropWhile (!isBracket ·) = cs.dropWhile (!isBracket ·) ++ q := by
    rw [List.takeWhile_append, List.dropWhile_append, htake, hdrop]
    constructor
    · split
      · next hall => rw [List.append_nil, (List.takeWhile_prefix _).eq_of_length hall]
      · rfl
    · split
      · next hempty => rw [List.isEmpty_iff.mp hempty, List.nil_append]
      · rfl
  rw [splitSegment?, splitSegment?, hcut.1, hcut.2, indexGroups_append none _ hq]
  cases hgroups : indexGroups none (cs.dropWhile (!isBracket ·)) with
  | none => rfl
  | some groups =>
    -- there is a piece in front, since something stands there
    have hpiece : ((cs.takeWhile (!isBracket ·)).isEmpty && groups.isEmpty) = false := by
      by_contra hempty
      rw [Bool.not_eq_false, Bool.and_eq_true, List.isEmpty_iff, List.isEmpty_iff] at hempty
      obtain ⟨hname, rfl⟩ := hempty
      have hrest : cs.dropWhile (!isBracket ·) = [] := (indexGroups_sound hgroups (by simp)).1
      exact hne (by rw [← List.takeWhile_append_dropWhile (p := (!isBracket ·)) (l := cs), hname, hrest]; rfl)
    cases indexGroups none q with
    | none => simp [hpiece]
    | some more =>
      have hboth : ((cs.takeWhile (!isBracket ·)).isEmpty && (groups ++ more).isEmpty) = false := by
        rw [Bool.and_eq_false_iff] at hpiece ⊢
        exact hpiece.imp_right fun hgroups => by simp_all
      simp [hpiece, hboth]

/-! ### Reading pieces -/

/-- Runs of digits that are short enough are read as the numbers that they write. -/
theorem mapM_readIndex_of_brief {groups : List (List Char)} (h : ∀ g ∈ groups, g.length ≤ Json.maxDigits) :
    groups.mapM readIndex = .ok (groups.map Text.digitsValue) := by
  refine mapM_eq_ok.mpr (List.forall₂_map_right_iff.mpr (List.forall₂_same.mpr fun g hg => ?_))
  have hlength := h g hg
  rw [readIndex, if_neg (by omega)]

/-- A run of digits that is too long is reported. -/
theorem mapM_readIndex_of_not_brief {groups : List (List Char)}
    (h : ∃ g ∈ groups, Json.maxDigits < g.length) :
    ∃ g ∈ groups, Json.maxDigits < g.length ∧ groups.mapM readIndex = .error (.tooManyDigits g.length) := by
  have hfails : ∀ indices, groups.mapM readIndex ≠ .ok indices := by
    intro indices hok
    obtain ⟨g, hg, hlong⟩ := h
    obtain ⟨n, -, hn⟩ := exists_mem_of_mapM hok hg
    simp [readIndex, hlong] at hn
  cases hread : groups.mapM readIndex with
  | ok indices => exact absurd hread (hfails indices)
  | error e =>
    obtain ⟨g, hg, he⟩ := exists_of_mapM_error hread
    rw [readIndex] at he
    split at he
    · next hlong =>
      obtain rfl := Except.error.inj he
      exact ⟨g, hg, hlong, rfl⟩
    · simp at he

/-- What reading a piece comes to: its segments, or an index of it that is too long to be read; and what is
not the text of a piece is refused. -/
theorem readSegments_cases (path : String) (raw : List Char) :
    (∃ piece : Piece, Text.strip raw = piece.text ∧ piece.IsBrief ∧
      readSegments path raw = .ok piece.segments) ∨
    (∃ piece : Piece, Text.strip raw = piece.text ∧ ∃ g ∈ piece.groups, Json.maxDigits < g.length ∧
      readSegments path raw = .error (.tooManyDigits g.length)) ∨
    ((∀ piece : Piece, Text.strip raw ≠ piece.text) ∧
      readSegments path raw = .error (.unresolved path (.invalidSegment (String.ofList raw)))) := by
  cases hsplit : splitSegment? (Text.strip raw) with
  | none =>
    refine .inr (.inr ⟨fun piece htext => ?_, by simp only [readSegments, hsplit]⟩)
    rw [htext, splitSegment?_text] at hsplit
    simp at hsplit
  | some parts =>
    obtain ⟨piece, hname, hgroups, htext⟩ := exists_piece hsplit
    rw [readSegments, hsplit]
    simp only [← hname, ← hgroups]
    by_cases hbrief : piece.IsBrief
    · refine .inl ⟨piece, htext.symm, hbrief, ?_⟩
      rw [mapM_readIndex_of_brief hbrief]
      simp [Piece.segments, bind, Except.bind, pure, Except.pure, Function.comp_def]
    · have hlong : ∃ g ∈ piece.groups, Json.maxDigits < g.length := by simpa [Piece.IsBrief] using hbrief
      obtain ⟨g, hg, hlength, hread⟩ := mapM_readIndex_of_not_brief hlong
      exact .inr (.inl ⟨piece, htext.symm, g, hg, hlength, by rw [hread]; rfl⟩)

/-- A text is that of one piece only. -/
theorem Piece.text_injective {piece piece' : Piece} (h : piece.text = piece'.text) : piece = piece' := by
  have hsplit := splitSegment?_text piece
  rw [h, splitSegment?_text] at hsplit
  obtain ⟨hname, hgroups⟩ := Prod.mk.inj (Option.some.inj hsplit)
  cases piece
  cases piece'
  subst hname hgroups
  rfl

/-- A piece is read when all of its indices can be. -/
theorem readSegments_eq_ok {path : String} {raw : List Char} {segments : List Segment} :
    readSegments path raw = .ok segments ↔
      ∃ piece : Piece, Text.strip raw = piece.text ∧ piece.IsBrief ∧ piece.segments = segments := by
  constructor
  · intro h
    rcases readSegments_cases path raw with ⟨piece, htext, hbrief, hread⟩ | ⟨_, -, _, -, -, hread⟩ | ⟨-, hread⟩
    · exact ⟨piece, htext, hbrief, Except.ok.inj (hread.symm.trans h)⟩
    · simp [hread] at h
    · simp [hread] at h
  · rintro ⟨piece, htext, hbrief, rfl⟩
    rcases readSegments_cases path raw with ⟨piece', htext', -, hread⟩ | ⟨piece', htext', g, hg, hlong, -⟩ |
      ⟨hnone, -⟩
    · rw [hread, Piece.text_injective (htext.symm.trans htext')]
    · obtain rfl := Piece.text_injective (htext.symm.trans htext')
      have := hbrief g hg
      omega
    · exact absurd htext (hnone piece)

end Switchboard.Template
