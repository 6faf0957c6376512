import Switchboard.Proofs.Template.Piece
import Switchboard.Proofs.Template.Written

/-!
The grammar of paths.

* `Spells` — texts that are pieces with dots between neighbours, the first of which has a name;
* `Reads`, `Path.parse_iff_reads` — the segments of a text, and of an expression with this text inside;
* `Path.parse_eq_ok` — an expression is read as a path exactly when its text spells pieces with indices that can be
  read, and the path then has the segments of these pieces;
* `Path.parse_eq_error` — what is no path is missing, as long as no index is too long to be read;
* `parse_grammar` — both together.

Design notes: `Spells` says what a path looks like without saying how it is read. A piece is determined by its
text (`Piece.text_injective`) and the pieces by the dots (`Text.splitOn_eq_iff`), so a text spells one list of
pieces at most.
-/
namespace Switchboard.Template

/-! ### Paths -/

/-- A text between two dots is that of a piece, with blanks around it. -/
def IsRaw (raw : List Char) (piece : Piece) : Prop := Text.strip raw = piece.text

/-- A piece between the dots of an expression stands in the expression. -/
theorem IsRaw.isInfix {cs raw : List Char} {piece : Piece} (htext : IsRaw raw piece)
    (hraw : raw ∈ Text.splitOn (· = '.') (unwrap cs)) : piece.text <:+: cs :=
  calc piece.text = Text.strip raw := htext.symm
    _ <:+: raw := Text.strip_isInfix raw
    _ <:+: unwrap cs := Text.mem_splitOn_isInfix hraw
    _ <:+: cs := unwrap_isInfix cs

/-- A text is a path: pieces with dots between neighbours, and a name to begin with. -/
structure Spells (body : List Char) (pieces : List Piece) : Prop where
  dotted : ∃ raws, body = ['.'].intercalate raws ∧ (∀ raw ∈ raws, '.' ∉ raw) ∧
    List.Forall₂ IsRaw raws pieces
  named : ∃ first others, pieces = first :: others ∧ first.name ≠ []

/-- A piece with a name begins with it, and one without a name with an index. -/
theorem Piece.name_ne_nil_iff (piece : Piece) :
    piece.name ≠ [] ↔ ∃ key rest, piece.segments = .name key :: rest := by
  rw [Piece.segments]
  by_cases hname : piece.name = []
  · have hgroups := piece.ne_nil.resolve_left (fun h => h hname)
    obtain ⟨g, rest, hcons⟩ := List.exists_cons_of_ne_nil hgroups
    simp [hname, hcons]
  · simp [hname]

/-- A text that spells pieces is cut at its dots into their texts. -/
theorem Spells.splitOn_eq {body : List Char} {pieces : List Piece} (h : Spells body pieces) :
    List.Forall₂ IsRaw (Text.splitOn (· = '.') body) pieces := by
  obtain ⟨⟨raws, hbody, hdots, hraws⟩, first, others, hpieces, -⟩ := h
  have hne : raws ≠ [] := by
    rintro rfl
    cases hraws
    simp at hpieces
  rwa [Text.splitOn_eq_iff.mpr ⟨hbody, hne, hdots⟩]

/-- Texts between dots are read when they are pieces all of whose indices can be read. -/
theorem mapM_readSegments_eq_ok {path : String} {raws : List (List Char)}
    {segments : List (List Segment)} :
    raws.mapM (readSegments path) = .ok segments ↔
      ∃ pieces, List.Forall₂ IsRaw raws pieces ∧ (∀ piece ∈ pieces, piece.IsBrief) ∧
        pieces.map Piece.segments = segments := by
  rw [mapM_eq_ok]
  constructor
  · intro hall
    induction hall with
    | nil => exact ⟨[], .nil, by simp, rfl⟩
    | cons hfirst hrest ih =>
      obtain ⟨piece, htext, hbrief, rfl⟩ := readSegments_eq_ok.mp hfirst
      obtain ⟨pieces, hraws, hothers, rfl⟩ := ih
      exact ⟨piece :: pieces, .cons htext hraws, List.forall_mem_cons.mpr ⟨hbrief, hothers⟩, rfl⟩
  · rintro ⟨pieces, hraws, hbrief, rfl⟩
    induction hraws with
    | nil => exact .nil
    | cons htext hraws ih =>
      obtain ⟨hfirst, hothers⟩ := List.forall_mem_cons.mp hbrief
      exact .cons (readSegments_eq_ok.mpr ⟨_, htext, hfirst, rfl⟩) (ih hothers)

/-- The segments that the pieces of a text are read as. -/
def Reads (body : List Char) (segments : List Segment) : Prop :=
  ∃ pieces, (Text.splitOn (· = '.') body).mapM (readSegments "") = .ok pieces ∧ pieces.flatten = segments

namespace Path

/-- A path is made of segments exactly when it has them, the word for its root included. -/
theorem ofSegments_eq_ok {text : String} {segments : List Segment} {p : Path} :
    ofSegments text segments = .ok p ↔ p.Begins ∧ p.inFull = segments ∧ p.text = text := by
  constructor
  · intro h
    obtain ⟨hbegins, hfull⟩ := begins_of_ofSegments h
    have hof := ofSegments_inFull hbegins text
    rw [hfull, h] at hof
    exact ⟨hbegins, hfull, congrArg Path.text (Except.ok.inj hof)⟩
  · rintro ⟨hbegins, rfl, rfl⟩
    exact ofSegments_inFull hbegins p.text

/-- Segments make a path exactly when the first of them is a name. -/
theorem exists_ofSegments {text : String} {segments : List Segment} :
    (∃ p, ofSegments text segments = .ok p) ↔ ∃ key rest, segments = .name key :: rest := by
  rw [ofSegments.eq_def]
  split
  · next key rest =>
    refine iff_of_true ?_ ⟨key, rest, rfl⟩
    cases Root.ofWord? key <;> exact ⟨_, rfl⟩
  · next hnot =>
    refine iff_of_false (by simp) ?_
    rintro ⟨key, rest, rfl⟩
    exact hnot key rest rfl

/-- An expression is read as a path when the text inside it is read as the segments of the path in full. -/
theorem parse_iff_reads {expression : String} {body : List Char} (hinside : Inside expression.toList body)
    {p : Path} :
    parse expression = .ok p ↔ Reads body p.inFull ∧ p.Begins ∧ p.text = String.ofList body := by
  obtain rfl := unwrap_iff.mpr hinside
  have hpath : ∀ {pieces}, (Text.splitOn (· = '.') (unwrap expression.toList)).mapM
      (readSegments (String.ofList (unwrap expression.toList))) = .ok pieces ↔
        (Text.splitOn (· = '.') (unwrap expression.toList)).mapM (readSegments "") = .ok pieces :=
    mapM_readSegments_eq_ok.trans mapM_readSegments_eq_ok.symm
  rw [parse_eq]
  constructor
  · intro h
    split at h
    · simp at h
    · obtain ⟨pieces, hpieces, hof⟩ := bind_eq_ok.mp h
      obtain ⟨hbegins, hfull, htext⟩ := ofSegments_eq_ok.mp hof
      exact ⟨⟨pieces, hpath.mp hpieces, hfull.symm⟩, hbegins, htext⟩
  · rintro ⟨⟨pieces, hpieces, hflat⟩, hbegins, htext⟩
    have hne : unwrap expression.toList ≠ [] := by
      intro hnil
      rw [hnil] at hpieces
      cases hpieces
    rw [if_neg (by simpa using hne), hpath.mpr hpieces]
    exact ofSegments_eq_ok.mpr ⟨hbegins, hflat.symm, htext⟩

/-- **What is read as a path.** An expression is read exactly when its text spells pieces and none of their
indices is too long. The segments of the path, with the word for its root in front if the path begins with
one, are those of the pieces in order. -/
theorem parse_eq_ok {expression : String} {p : Path} :
    parse expression = .ok p ↔
      ∃ body pieces, Inside expression.toList body ∧ Spells body pieces ∧
        (∀ piece ∈ pieces, piece.IsBrief) ∧ p.Begins ∧ p.inFull = pieces.flatMap Piece.segments ∧
        p.text = String.ofList body := by
  constructor
  · intro h
    have hinside : Inside expression.toList (unwrap expression.toList) := unwrap_iff.mp rfl
    obtain ⟨⟨segments, hsegments, hflat⟩, hbegins, htext⟩ := (parse_iff_reads hinside).mp h
    obtain ⟨pieces, hraws, hbrief, rfl⟩ := mapM_readSegments_eq_ok.mp hsegments
    obtain ⟨hbody, -, hdots⟩ := Text.splitOn_eq_iff.mp
      (rfl : Text.splitOn (· = '.') (unwrap expression.toList) = _)
    have hnamed : ∃ first others, pieces = first :: others ∧ first.name ≠ [] := by
      obtain ⟨key, rest, hkey⟩ := hbegins.inFull_eq
      rw [← hflat] at hkey
      cases pieces with
      | nil => simp at hkey
      | cons first others =>
        refine ⟨first, others, rfl, first.name_ne_nil_iff.mpr ?_⟩
        obtain ⟨segment, more, hfirst⟩ := List.exists_cons_of_ne_nil first.segments_ne_nil
        rw [List.map_cons, List.flatten_cons, hfirst] at hkey
        exact ⟨key, more, hfirst.trans (by rw [(List.cons.inj hkey).1])⟩
    exact ⟨_, pieces, hinside, ⟨⟨_, hbody, hdots, hraws⟩, hnamed⟩, hbrief, hbegins,
      hflat.symm.trans List.flatMap_def.symm, htext⟩
  · rintro ⟨body, pieces, hinside, hspells, hbrief, hbegins, hfull, htext⟩
    have hsegments : (Text.splitOn (· = '.') body).mapM (readSegments "") = .ok (pieces.map Piece.segments) :=
      mapM_readSegments_eq_ok.mpr ⟨pieces, hspells.splitOn_eq, hbrief, rfl⟩
    exact (parse_iff_reads hinside).mpr ⟨⟨_, hsegments, (hfull.trans List.flatMap_def).symm⟩, hbegins, htext⟩

end Path

/-! ### What is not read -/

/-- No index in a text is too long to be read. -/
def BriefIndices (cs : List Char) : Prop :=
  ∀ digits, IsRun digits → bracketed digits <:+: cs → digits.length ≤ Json.maxDigits

/-- A text without long runs of digits has no long indices. -/
theorem Brief.briefIndices {cs : List Char} (h : Brief cs) : BriefIndices cs := by
  intro digits hrun hpart
  exact h digits ((isInfix_bracketed digits).trans hpart) hrun.isDigit

/-- The first pieces of an expression are as they should be, and one of them has an index that is too long to
be read. -/
def LongIndex (expression : String) : Prop :=
  ∃ body first rest pieces, Inside expression.toList body ∧ body = ['.'].intercalate (first ++ rest) ∧
    (∀ raw ∈ first ++ rest, '.' ∉ raw) ∧ List.Forall₂ IsRaw first pieces ∧
    ∃ piece ∈ pieces, ∃ g ∈ piece.groups, Json.maxDigits < g.length

/-- An index that is too long stands in the expression. -/
theorem LongIndex.not_briefIndices {expression : String} (h : LongIndex expression) :
    ¬ BriefIndices expression.toList := by
  obtain ⟨body, first, rest, pieces, hinside, hbody, hdots, hraws, piece, hpiece, g, hg, hlong⟩ := h
  intro hbrief
  obtain rfl := unwrap_iff.mpr hinside
  obtain ⟨raw, hraw, htext⟩ := exists_of_mem_right hraws hpiece
  have hne : first ++ rest ≠ [] := List.append_ne_nil_of_left_ne_nil (List.ne_nil_of_mem hraw) rest
  have hmem : raw ∈ Text.splitOn (· = '.') (unwrap expression.toList) := by
    rw [Text.splitOn_eq_iff.mpr ⟨hbody, hne, hdots⟩]
    exact List.mem_append_left _ hraw
  have hlength := hbrief g (piece.groups_runs g hg) ((piece.bracketed_isInfix hg).trans (htext.isInfix hmem))
  omega

namespace Path

/-- What is no path is missing, or else an index is too long to be read. -/
theorem parse_eq_error {expression : String} {e : Error} (h : parse expression = .error e) :
    (∃ path cause, e = .unresolved path cause ∧ cause.reason = .missing) ∨
      ∃ digits, e = .tooManyDigits digits ∧ LongIndex expression := by
  rw [parse_eq] at h
  split at h
  · obtain rfl := Except.error.inj h
    exact .inl ⟨_, _, rfl, rfl⟩
  · rcases bind_eq_error.mp h with hread | ⟨segments, -, hof⟩
    · obtain ⟨before, raw, after, segments, hsplit, hbefore, hraw⟩ := mapM_eq_error.mp hread
      rcases readSegments_cases (String.ofList (unwrap expression.toList)) raw with
        ⟨_, -, -, hok⟩ | ⟨piece, htext, g, hg, hlong, hfails⟩ | ⟨-, hfails⟩
      · simp [hok] at hraw
      · -- the pieces in front have been read, and this one has the index
        obtain rfl := Except.error.inj (hfails.symm.trans hraw)
        obtain ⟨pieces, hraws, -, -⟩ := mapM_readSegments_eq_ok.mp hbefore
        obtain ⟨hbody, -, hdots⟩ := Text.splitOn_eq_iff.mp hsplit
        have htogether : before ++ raw :: after = (before ++ [raw]) ++ after := by simp
        rw [htogether] at hbody hdots
        have hfirst : List.Forall₂ IsRaw (before ++ [raw]) (pieces ++ [piece]) :=
          List.rel_append hraws (.cons htext .nil)
        exact .inr ⟨_, rfl, _, _, after, _, unwrap_iff.mp rfl, hbody, hdots, hfirst, piece, by simp, g, hg,
          hlong⟩
      · obtain rfl := Except.error.inj (hfails.symm.trans hraw)
        exact .inl ⟨_, _, rfl, rfl⟩
    · rw [ofSegments.eq_def] at hof
      split at hof
      · split at hof <;> simp at hof
      · obtain rfl := Except.error.inj hof
        exact .inl ⟨_, _, rfl, rfl⟩

end Path

/-- **The grammar of paths.** Take an expression without an index that is too long to be read. It is read
exactly when the text inside it is pieces with dots between neighbours, each of them a name without brackets,
or digits in brackets, or a name with such indices behind it, and the first with a name. The segments of the
path are then the names and the numbers in reading order, but for a first name that is the word for a root.
Everything else is reported as missing. -/
theorem parse_grammar {expression : String} (hbrief : BriefIndices expression.toList) :
    (∀ p, Path.parse expression = .ok p ↔
      ∃ body pieces, Inside expression.toList body ∧ Spells body pieces ∧ p.Begins ∧
        p.inFull = pieces.flatMap Piece.segments ∧ p.text = String.ofList body) ∧
    ((∃ p, Path.parse expression = .ok p) ↔
      ∃ body pieces, Inside expression.toList body ∧ Spells body pieces) ∧
    ((¬ ∃ body pieces, Inside expression.toList body ∧ Spells body pieces) →
      ∃ path cause, Path.parse expression = .error (.unresolved path cause) ∧ cause.reason = .missing) := by
  have hshort : ∀ {body pieces}, Inside expression.toList body → Spells body pieces →
      ∀ piece ∈ pieces, piece.IsBrief := by
    intro body pieces hinside hspells piece hpiece g hg
    by_contra hlong
    obtain ⟨raws, hbody, hdots, hraws⟩ := hspells.dotted
    refine LongIndex.not_briefIndices ⟨body, raws, [], pieces, hinside, ?_, ?_, hraws, piece, hpiece, g, hg, ?_⟩
      hbrief
    · rw [List.append_nil, hbody]
    · rwa [List.append_nil]
    · omega
  have hread : ∀ p, Path.parse expression = .ok p ↔
      ∃ body pieces, Inside expression.toList body ∧ Spells body pieces ∧ p.Begins ∧
        p.inFull = pieces.flatMap Piece.segments ∧ p.text = String.ofList body := by
    intro p
    rw [Path.parse_eq_ok]
    constructor
    · rintro ⟨body, pieces, hinside, hspells, -, hrest⟩
      exact ⟨body, pieces, hinside, hspells, hrest⟩
    · rintro ⟨body, pieces, hinside, hspells, hrest⟩
      exact ⟨body, pieces, hinside, hspells, hshort hinside hspells, hrest⟩
  have hexists : (∃ p, Path.parse expression = .ok p) ↔
      ∃ body pieces, Inside expression.toList body ∧ Spells body pieces := by
    constructor
    · rintro ⟨p, hp⟩
      obtain ⟨body, pieces, hinside, hspells, -⟩ := (hread p).mp hp
      exact ⟨body, pieces, hinside, hspells⟩
    · rintro ⟨body, pieces, hinside, hspells⟩
      -- the first piece has a name, so that its segments make a path
      obtain ⟨first, others, rfl, hname⟩ := hspells.named
      obtain ⟨key, rest, hkey⟩ := first.name_ne_nil_iff.mp hname
      obtain ⟨p, hp⟩ : ∃ p, Path.ofSegments (String.ofList body)
          (first.segments ++ others.flatMap Piece.segments) = .ok p :=
        Path.exists_ofSegments.mpr ⟨key, rest ++ others.flatMap Piece.segments, by rw [hkey, List.cons_append]⟩
      exact ⟨p, (hread p).mpr ⟨body, _, hinside, hspells,
        by simpa [List.flatMap_cons] using Path.ofSegments_eq_ok.mp hp⟩⟩
  refine ⟨hread, hexists, fun hnone => ?_⟩
  cases hparse : Path.parse expression with
  | ok p => exact absurd (hexists.mp ⟨p, hparse⟩) hnone
  | error e =>
    rcases Path.parse_eq_error hparse with ⟨path, cause, rfl, hreason⟩ | ⟨_, -, hlong⟩
    · exact ⟨path, cause, rfl, hreason⟩
    · exact absurd hbrief hlong.not_briefIndices

/-- A name with a blank behind it and an index, and a name with two indices. -/
def rowsPieces : List Piece :=
  [⟨"rows ".toList, ["007".toList], Piece.plain_of_all (by decide), by decide, .inl (by decide)⟩,
    ⟨"x".toList, ["1".toList, "2".toList], Piece.plain_of_all (by decide), by decide, .inl (by decide)⟩]

/-- Blanks around dots are no part of a path, but one between a name and its index is part of the name; nothing
may stand behind an index. -/
theorem rows_grammar :
    BriefIndices " \x7b\x7b rows [007] . x[1][2] \x7d\x7d".toList ∧
      Path.parse " \x7b\x7b rows [007] . x[1][2] \x7d\x7d"
        = .ok ⟨"rows [007] . x[1][2]", .stepsByName,
            [.name "rows ", .index 7, .name "x", .index 1, .index 2], false⟩ ∧
      BriefIndices "input[1]x".toList ∧
      ∃ path cause, Path.parse "input[1]x" = .error (.unresolved path cause) ∧ cause.reason = .missing := by
  have hbrief : BriefIndices " \x7b\x7b rows [007] . x[1][2] \x7d\x7d".toList ∧
      BriefIndices "input[1]x".toList :=
    ⟨(brief_of_length_le (by decide)).briefIndices, (brief_of_length_le (by decide)).briefIndices⟩
  have hinside : Inside " \x7b\x7b rows [007] . x[1][2] \x7d\x7d".toList "rows [007] . x[1][2]".toList :=
    unwrap_iff.mp (by decide)
  have hspells : Spells "rows [007] . x[1][2]".toList rowsPieces := by
    refine ⟨⟨["rows [007] ".toList, " x[1][2]".toList], rfl, by decide, ?_⟩, _, _, rfl, by decide⟩
    exact .cons (by decide : Text.strip _ = _) (.cons (by decide : Text.strip _ = _) .nil)
  refine ⟨hbrief.1, ((parse_grammar hbrief.1).1 _).mpr ⟨_, _, hinside, hspells, ?_, by decide, by decide⟩,
    hbrief.2, ?_⟩
  · exact .inr ⟨rfl, rfl, "rows ", _, rfl, by decide⟩
  · obtain ⟨-, hread, hfails⟩ := parse_grammar hbrief.2
    refine hfails fun hspelled => ?_
    obtain ⟨p, hp⟩ := hread.mpr hspelled
    have hnot : Path.parse "input[1]x"
        = .error (.unresolved "input[1]x" (.invalidSegment "input[1]x")) := by decide
    simp [hnot] at hp

end Switchboard.Template
