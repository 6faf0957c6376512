import Switchboard.Proofs.Template.Digits
import Switchboard.Proofs.Template.Pointwise
import Switchboard.Proofs.Template.Reason
import Mathlib.Algebra.Group.Nat.Defs

/-!
Paths that are written and read again.

* `writtenPiece`, `readSegments_written` — a name with indices behind it is a piece, and read as it was
  written, whatever stands behind them;
* `Settled` — segments that come back from writing: those that were read (`settled_of_parse`), and those
  with plain keys (`Path.IsPlain.settled`);
* `onwardSegments` — the segments with which a path goes on behind written ones, or the reason why it is
  not read;
* `read_written`, `parse_of_settled` — the pieces of a written path have the segments of the path, and then
  those with which it goes on;
* `parse_written` — writing and reading are inverse to each other.

A name that was read may end with a blank, since only whole pieces are stripped: in `{{a [0]}}` it is
"a ". Then an index stands behind it in the same piece, so that it is not stripped again.
-/
namespace Switchboard

/-! ### Numbers in digits -/

namespace Text

theorem digitValue_le {c : Char} (h : isDigit c = true) : digitValue c ≤ 9 := by
  have hle : c ≤ '9' := by
    rw [isDigit, Bool.and_eq_true] at h
    simpa using h.2
  have hval : c.toNat ≤ '9'.toNat := hle
  have h9 : '9'.toNat = 57 := rfl
  have h0 : '0'.toNat = 48 := rfl
  rw [digitValue]
  omega

/-- A number is smaller than the power of ten with one more digit than it is written with. -/
theorem digitsValue_lt {ds : List Char} (h : ∀ c ∈ ds, isDigit c = true) :
    digitsValue ds < 10 ^ ds.length := by
  induction ds using List.reverseRecOn with
  | nil => simp [digitsValue]
  | append_singleton ds c ih =>
    have hds := ih fun d hd => h d (by simp [hd])
    have hc := digitValue_le (h c (by simp))
    have hvalue : digitsValue (ds ++ [c]) = 10 * digitsValue ds + digitValue c := by
      simp [digitsValue, List.foldl_append]
    rw [hvalue, List.length_append, List.length_singleton, Nat.pow_succ]
    omega

end Text

namespace Template

/-! ### Indices -/

/-- The characters of a written index. -/
def indexText (n : Nat) : List Char := '[' :: (Nat.toDigits 10 n ++ [']'])

theorem toList_written_index (n : Nat) : (Segment.index n).written.toList = indexText n := by
  have hbrackets : "[".toList = ['['] ∧ "]".toList = [']'] := ⟨rfl, rfl⟩
  rw [Segment.written, String.toList_append, String.toList_append, hbrackets.1, hbrackets.2,
    Nat.toString_eq_repr, Nat.toList_repr, indexText]
  simp

theorem getLast?_indexText (n : Nat) : (indexText n).getLast? = some ']' := by
  rw [indexText, ← List.cons_append, List.getLast?_concat]

theorem isDigit_of_mem_toDigits {n : Nat} : ∀ c ∈ Nat.toDigits 10 n, Text.isDigit c = true :=
  fun _ hc => Nat.isDigit_of_mem_toDigits (by decide) (by decide) hc

theorem isRun_toDigits (n : Nat) : IsRun (Nat.toDigits 10 n) := ⟨Nat.toDigits_ne_nil, isDigit_of_mem_toDigits⟩

theorem length_toDigits_le {n : Nat} (hn : n < 10 ^ Json.maxDigits) :
    (Nat.toDigits 10 n).length ≤ Json.maxDigits :=
  (Nat.length_toDigits_le_iff (by decide) (by decide)).mpr hn

theorem digitsValue_toDigits (n : Nat) : Text.digitsValue (Nat.toDigits 10 n) = n :=
  Nat.ofDigitChars_ten_toDigits

/-- The digits of a number that is not too long are read as that number. -/
theorem readIndex_toDigits {n : Nat} (hn : n < 10 ^ Json.maxDigits) :
    readIndex (Nat.toDigits 10 n) = .ok n := by
  have hlength := length_toDigits_le hn
  rw [readIndex, if_neg (by omega), digitsValue_toDigits]

theorem mapM_readIndex {indices : List Nat} (h : ∀ n ∈ indices, n < 10 ^ Json.maxDigits)
    (groups : List (List Char)) :
    (indices.map (Nat.toDigits 10) ++ groups).mapM readIndex
      = (groups.mapM readIndex).map (indices ++ ·) := by
  induction indices with
  | nil => cases hgroups : groups.mapM readIndex <;> simp [hgroups, Except.map]
  | cons n rest ih =>
    obtain ⟨hn, hrest⟩ := List.forall_mem_cons.mp h
    rw [List.map_cons, List.cons_append, List.mapM_cons, readIndex_toDigits hn, ih hrest]
    cases groups.mapM readIndex <;> rfl

/-! ### Pieces -/

/-- A key as it can stand in front of indices: not empty, free of the characters that paths are cut at,
and without a blank at its beginning. -/
structure IsName (key : String) : Prop where
  ne_nil : key.toList ≠ []
  plain : ∀ c ∈ key.toList, c ≠ '.' ∧ isBracket c = false
  head : ∀ c, key.toList.head? = some c → Text.isBlank c = false

/-- A key that does not end with a blank. -/
def EndsPlainly (key : String) : Prop := ∀ c, key.toList.getLast? = some c → Text.isBlank c = false

/-- The characters of a name with indices behind it. -/
def pieceText (key : String) (indices : List Nat) : List Char :=
  key.toList ++ indices.flatMap indexText

theorem pieceText_append (key : String) (indices more : List Nat) :
    pieceText key (indices ++ more) = pieceText key indices ++ more.flatMap indexText := by
  simp [pieceText]

/-- The digits of a number mean nothing else in a path. -/
theorem plain_of_mem_toDigits {n : Nat} :
    ∀ c ∈ Nat.toDigits 10 n, c ≠ '.' ∧ c ≠ '[' ∧ c ≠ ']' ∧ Text.isBlank c = false := by
  intro c hc
  have hdigit := isDigit_of_mem_toDigits c hc
  refine ⟨?_, ?_, ?_, ?_⟩
  · rintro rfl
    exact absurd hdigit (by decide)
  · rintro rfl
    exact absurd hdigit (by decide)
  · rintro rfl
    exact absurd hdigit (by decide)
  · rw [Text.isDigit, Bool.and_eq_true, decide_eq_true_iff, decide_eq_true_iff] at hdigit
    have hlow : '0'.toNat ≤ c.toNat := hdigit.1
    have hhigh : c.toNat ≤ '9'.toNat := hdigit.2
    have hvalues : '0'.toNat = 48 ∧ '9'.toNat = 57 := ⟨rfl, rfl⟩
    simp only [Text.isBlank, Bool.or_eq_false_iff, Bool.and_eq_false_iff, decide_eq_false_iff_not,
      beq_eq_false_iff_ne]
    omega

/-- No dot stands in an index. -/
theorem ne_dot_of_mem_indexText {n : Nat} : ∀ c ∈ indexText n, decide (c = '.') = false := by
  intro c hc
  simp only [indexText, List.mem_cons, List.mem_append, List.not_mem_nil, or_false] at hc
  rcases hc with rfl | hc | rfl
  · decide
  · exact decide_eq_false (plain_of_mem_toDigits c hc).1
  · decide

/-- No dot stands in a piece. -/
theorem ne_dot_of_mem_pieceText {key : String} (hkey : IsName key) (indices : List Nat) :
    ∀ c ∈ pieceText key indices, (decide (c = '.')) = false := by
  intro c hc
  rcases List.mem_append.mp hc with hc | hc
  · simpa using (hkey.plain c hc).1
  · obtain ⟨n, -, hc⟩ := List.mem_flatMap.mp hc
    exact ne_dot_of_mem_indexText c hc

theorem head?_pieceText {key : String} (hkey : IsName key) (indices : List Nat) :
    (pieceText key indices).head? = key.toList.head? := by
  rw [pieceText, List.head?_append]
  cases hhead : key.toList.head? with
  | none => exact absurd (List.head?_eq_none_iff.mp hhead) hkey.ne_nil
  | some c => rfl

/-- A piece ends with its name, which is then plain, or with a closing bracket. -/
theorem getLast?_pieceText {key : String} {indices : List Nat}
    (hend : indices = [] → EndsPlainly key) {c : Char}
    (hc : (pieceText key indices).getLast? = some c) : Text.isBlank c = false := by
  rcases List.eq_nil_or_concat indices with rfl | ⟨before, n, rfl⟩
  · exact hend rfl c (by simpa [pieceText] using hc)
  · rw [List.concat_eq_append, pieceText_append, List.flatMap_singleton, List.getLast?_append,
      getLast?_indexText] at hc
    obtain rfl := Option.some.inj hc
    decide

/-- A name with indices behind it, as a piece. -/
def writtenPiece {key : String} (hkey : IsName key) (indices : List Nat) : Piece where
  name := key.toList
  groups := indices.map (Nat.toDigits 10)
  name_plain := fun c hc => by simpa [isBracket] using (hkey.plain c hc).2
  groups_runs := by
    intro g hg
    obtain ⟨n, -, rfl⟩ := List.mem_map.mp hg
    exact isRun_toDigits n
  ne_nil := .inl hkey.ne_nil

theorem text_writtenPiece {key : String} (hkey : IsName key) (indices : List Nat) :
    (writtenPiece hkey indices).text = pieceText key indices := by
  rw [Piece.text, writtenPiece, pieceText, List.flatMap_map]
  rfl

/-- A name with indices behind it is cut into both, in front of more indices too. -/
theorem splitSegment?_written {key : String} (hkey : IsName key) (indices : List Nat) {q : List Char}
    (hq : ∀ c, q.head? = some c → c = '[') :
    splitSegment? (pieceText key indices ++ q)
      = (indexGroups none q).map fun groups =>
          (key.toList, indices.map (Nat.toDigits 10) ++ groups) := by
  rw [← text_writtenPiece hkey, splitSegment?_append (Piece.text_ne_nil _) hq, splitSegment?_text]
  rfl

/-- The indices with which a piece goes on that has been begun. -/
def onwardIndices (q : List Char) : Except (Option Reason) (List Nat) :=
  match indexGroups none (Text.stripEnd q) with
  | some groups => byReason (groups.mapM readIndex)
  | none => .error (some .missing)

/-- A name with indices behind it is read as it was written, and what stands behind it as more indices. -/
theorem readSegments_written (path : String) {key : String} {indices : List Nat}
    (hkey : IsName key) (hindices : ∀ n ∈ indices, n < 10 ^ Json.maxDigits)
    (hend : indices = [] → EndsPlainly key) {q : List Char}
    (hq : ∀ c, q.head? = some c → c = '[') :
    byReason (readSegments path (pieceText key indices ++ q))
      = (onwardIndices q).map fun more => .name key :: (indices ++ more).map .index := by
  have hne : pieceText key indices ≠ [] := by simp [pieceText, hkey.ne_nil]
  obtain ⟨c, hc⟩ := Option.ne_none_iff_exists'.mp (mt List.getLast?_eq_none_iff.mp hne)
  have hstrip : Text.strip (pieceText key indices ++ q) = pieceText key indices ++ Text.stripEnd q :=
    Text.strip_append (fun c hc => hkey.head c (head?_pieceText hkey indices ▸ hc)) hc
      (getLast?_pieceText hend hc) q
  rw [readSegments, hstrip, splitSegment?_written hkey indices fun c hc => hq c (Text.head?_stripEnd hc),
    onwardIndices]
  cases indexGroups none (Text.stripEnd q) with
  | none => rfl
  | some groups =>
    simp only [Option.map_some, mapM_readIndex hindices]
    cases groups.mapM readIndex with
    | error e => rfl
    | ok more => simp [Except.map, bind, Except.bind, pure, Except.pure, hkey.ne_nil]

/-! ### Settled segments -/

/-- Segments that come back when they are written and read: the indices are not too long, and each name
can stand where it stands. One that ends with a blank needs an index behind it. -/
def Settled : List Segment → Prop
  | [] => True
  | .index n :: rest => n < 10 ^ Json.maxDigits ∧ Settled rest
  | .name key :: rest =>
    IsName key ∧ (EndsPlainly key ∨ ∃ n after, rest = .index n :: after) ∧ Settled rest

theorem Settled.append {before after : List Segment} (hbefore : Settled before)
    (hafter : Settled after) : Settled (before ++ after) := by
  induction before with
  | nil => exact hafter
  | cons segment rest ih =>
    cases segment with
    | index n => exact ⟨hbefore.1, ih hbefore.2⟩
    | name key =>
      obtain ⟨hkey, hend, hrest⟩ := hbefore
      refine ⟨hkey, hend.imp_right ?_, ih hrest⟩
      rintro ⟨n, others, rfl⟩
      exact ⟨n, others ++ after, rfl⟩

theorem Settled.flatten {pieces : List (List Segment)} (h : ∀ piece ∈ pieces, Settled piece) :
    Settled pieces.flatten := by
  induction pieces with
  | nil => trivial
  | cons piece rest ih =>
    obtain ⟨hpiece, hrest⟩ := List.forall_mem_cons.mp h
    exact hpiece.append (ih hrest)

theorem settled_indices {indices : List Nat} (h : ∀ n ∈ indices, n < 10 ^ Json.maxDigits) :
    Settled (indices.map .index) := by
  induction indices with
  | nil => trivial
  | cons n rest ih =>
    obtain ⟨hn, hrest⟩ := List.forall_mem_cons.mp h
    exact ⟨hn, ih hrest⟩

/-- The indices in front of settled segments are not too long, and what follows them is settled. -/
theorem Settled.of_indices {indices : List Nat} {rest : List Segment}
    (h : Settled (indices.map .index ++ rest)) :
    (∀ n ∈ indices, n < 10 ^ Json.maxDigits) ∧ Settled rest := by
  induction indices with
  | nil => exact ⟨by simp, h⟩
  | cons n others ih =>
    obtain ⟨hn, h⟩ := h
    obtain ⟨hothers, hrest⟩ := ih h
    exact ⟨List.forall_mem_cons.mpr ⟨hn, hothers⟩, hrest⟩

namespace Piece

variable {piece : Piece} {raw : List Char}

/-- The name of a stripped piece can stand in front of indices. -/
theorem isName_of_strip (htext : Text.strip raw = piece.text) (hdots : ∀ c ∈ raw, decide (c = '.') = false)
    (hne : piece.name ≠ []) : IsName (String.ofList piece.name) := by
  refine ⟨by simpa using hne, fun c hc => ?_, fun c hc => ?_⟩
  · rw [String.toList_ofList] at hc
    have hmem : c ∈ Text.strip raw := htext ▸ List.mem_append_left _ hc
    exact ⟨by simpa using hdots c ((Text.strip_isInfix raw).subset hmem),
      by simpa using piece.isBracket_of_mem_name c hc⟩
  · rw [String.toList_ofList] at hc
    have hfirst : (Text.strip raw).head? = some c := by
      rw [htext, Piece.text, List.head?_append, hc]
      rfl
    exact Text.head?_strip hfirst

/-- Without indices behind it, the name is all of a stripped piece, and so it does not end with a blank. -/
theorem endsPlainly_of_strip (htext : Text.strip raw = piece.text) (hgroups : piece.groups = []) :
    EndsPlainly (String.ofList piece.name) := by
  have hwhole : Text.strip raw = piece.name := by simp [htext, Piece.text, hgroups]
  intro c hc
  rw [String.toList_ofList, ← hwhole] at hc
  exact Text.getLast?_strip hc

end Piece

/-- The segments of a piece without dots are settled. -/
theorem settled_of_readSegments {path : String} {raw : List Char} {segments : List Segment}
    (hdots : ∀ c ∈ raw, decide (c = '.') = false) (h : readSegments path raw = .ok segments) :
    Settled segments := by
  obtain ⟨piece, htext, hbrief, rfl⟩ := readSegments_eq_ok.mp h
  have hindices : Settled (piece.groups.map fun g => .index (Text.digitsValue g)) := by
    have hshort : ∀ n ∈ piece.groups.map Text.digitsValue, n < 10 ^ Json.maxDigits := by
      intro n hn
      obtain ⟨g, hg, rfl⟩ := List.mem_map.mp hn
      calc Text.digitsValue g < 10 ^ g.length := Text.digitsValue_lt (piece.groups_runs g hg).isDigit
        _ ≤ 10 ^ Json.maxDigits := Nat.pow_le_pow_right (by decide) (hbrief g hg)
    simpa [Function.comp_def] using settled_indices hshort
  by_cases hname : piece.name = []
  · simpa [Piece.segments, hname] using hindices
  · rw [Piece.segments, if_neg (by simpa using hname), List.singleton_append]
    refine ⟨piece.isName_of_strip htext hdots hname, ?_, hindices⟩
    cases hgroups : piece.groups with
    | nil => exact .inl (piece.endsPlainly_of_strip htext hgroups)
    | cons g rest => exact .inr ⟨_, _, rfl⟩

/-! ### Writing and reading -/

/-- The characters of written segments. -/
def writtenText (segments : List Segment) : List Char := segments.flatMap (·.written.toList)

theorem toList_join_written (segments : List Segment) :
    (String.join (segments.map Segment.written)).toList = writtenText segments := by
  rw [String.toList_join, List.flatMap_map, writtenText]

/-- A name with its indices, behind which no index follows, is read as it was written, and what stands
behind it as more indices. -/
theorem Settled.read_piece (path : String) {key : String} {indices : List Nat}
    {rest : List Segment} (h : Settled (.name key :: (indices.map .index ++ rest)))
    (hrest : ∀ n after, rest ≠ .index n :: after) :
    IsName key ∧ Settled rest ∧ ∀ q : List Char, (∀ c, q.head? = some c → c = '[') →
      byReason (readSegments path (pieceText key indices ++ q))
        = (onwardIndices q).map fun more => .name key :: (indices ++ more).map .index := by
  obtain ⟨hkey, hend, hindices⟩ := h
  obtain ⟨hshort, hothers⟩ := hindices.of_indices
  have hends : indices = [] → EndsPlainly key := by
    rintro rfl
    rcases hend with hend | ⟨n, after, hcons⟩
    · exact hend
    · exact absurd hcons (hrest n after)
  exact ⟨hkey, hothers, fun q => readSegments_written path hkey hshort hends⟩

/-- The text that a piece stands in is named in messages only. -/
theorem readSegments_agree (path path' : String) (raw : List Char) :
    Agree (readSegments path raw) (readSegments path' raw) := by
  rw [Agree, readSegments, readSegments]
  split <;> rfl

/-- What a path can go on with: nothing, a dot, or the bracket of an index. -/
def GoesOn (q : List Char) : Prop := ∀ c, q.head? = some c → c = '.' ∨ c = '['

/-- The segments with which a path goes on: the indices up to the first dot, and then whole pieces. -/
def onwardSegments (q : List Char) : Except (Option Reason) (List Segment) :=
  match Text.splitOn (· = '.') q with
  | [] => .ok []
  | first :: others => do
    let indices ← onwardIndices first
    let pieces ← others.mapM fun raw => byReason (readSegments "" raw)
    return indices.map .index ++ pieces.flatten

/-- The pieces of written segments, the first of which has been begun, are read as these segments, and
what stands behind them as those with which the path goes on. -/
theorem read_written (path : String) {key : String} {indices : List Nat} {segments : List Segment}
    (h : Settled (.name key :: (indices.map .index ++ segments))) {q : List Char} (hq : GoesOn q) :
    byReason (((Text.splitOn (· = '.') (pieceText key indices ++ (writtenText segments ++ q))).mapM
      (readSegments path)).map List.flatten)
        = (onwardSegments q).map (.name key :: (indices.map .index ++ segments) ++ ·) := by
  -- by induction on the segments that are still to come, for any piece that has been begun
  induction segments generalizing key indices with
  | nil =>
    obtain ⟨hkey, -, hread⟩ := h.read_piece path (by simp)
    obtain ⟨first, others, hsplit, hprefix, -⟩ := Text.splitOn_spec (· = '.') q
    have hfirst : ∀ c, first.head? = some c → c = '[' := by
      intro c hc
      have hnot : decide (c = '.') = false :=
        Text.isSep_of_mem_splitOn (hsplit ▸ List.mem_cons_self) c (List.mem_of_head? hc)
      obtain ⟨after, rfl⟩ := hprefix
      rcases hq c (by rw [List.head?_append, hc]; rfl) with hdot | hbracket
      · simp [hdot] at hnot
      · exact hbracket
    have hothers : (fun raw => byReason (readSegments path raw))
        = fun raw => byReason (readSegments "" raw) := funext (readSegments_agree path "")
    rw [writtenText, List.flatMap_nil, List.nil_append,
      Text.splitOn_prepend (ne_dot_of_mem_pieceText hkey indices) hsplit, List.mapM_cons, byReason_map,
      byReason_bind, hread first hfirst, onwardSegments, hsplit]
    simp only [byReason_bind, byReason_mapM, hothers]
    cases onwardIndices first with
    | error e => rfl
    | ok more =>
      cases others.mapM fun raw => byReason (readSegments "" raw) <;>
        simp [Except.map, bind, Except.bind, pure, Except.pure]
  | cons segment rest ih =>
    cases segment with
    | index n =>
      -- the index belongs to the piece that has been begun
      have hmore : indices.map Segment.index ++ .index n :: rest
          = (indices ++ [n]).map .index ++ rest := by simp
      have htext : pieceText key indices ++ (writtenText (.index n :: rest) ++ q)
          = pieceText key (indices ++ [n]) ++ (writtenText rest ++ q) := by
        simp [pieceText_append, writtenText, toList_written_index]
      rw [hmore] at h ⊢
      rw [htext]
      exact ih h
    | name other =>
      -- the dot in front of the name ends the piece, and the name begins the next one
      obtain ⟨hkey, hothers, hread⟩ := h.read_piece path (by simp)
      have hpiece : readSegments path (pieceText key indices)
          = .ok (.name key :: indices.map .index) := by
        have hnil := hread [] (by simp)
        rw [List.append_nil] at hnil
        exact byReason_eq_ok.mp (hnil.trans (by simp [onwardIndices, Text.stripEnd, indexGroups,
          Except.map, pure, Except.pure]))
      have hdot : ".".toList = ['.'] := rfl
      have htext : pieceText key indices ++ (writtenText (.name other :: rest) ++ q)
          = pieceText key indices ++ '.' :: (pieceText other [] ++ (writtenText rest ++ q)) := by
        simp [writtenText, Segment.written, pieceText, hdot]
      have hbegun : Settled (.name other :: (([] : List Nat).map .index ++ rest)) := hothers
      have hflat : ∀ pieces : Except Error (List (List Segment)),
          (do let others ← pieces; return (Segment.name key :: indices.map .index) :: others).map List.flatten
            = (pieces.map List.flatten).map (.name key :: indices.map .index ++ ·) := by
        rintro (e | others) <;> rfl
      rw [htext, Text.splitOn_append (ne_dot_of_mem_pieceText hkey indices) (by decide),
        List.mapM_cons, hpiece]
      refine (congrArg byReason (hflat _)).trans ?_
      rw [byReason_map, ih hbegun]
      cases onwardSegments q <;> simp [Except.map]

/-- The characters of a path that begins with a name. -/
def bodyText (key : String) (rest : List Segment) : List Char := key.toList ++ writtenText rest

/-- What is written of settled segments does not end with a blank, unless nothing is written. -/
theorem Settled.getLast?_writtenText {segments : List Segment} (h : Settled segments) {c : Char}
    (hc : (writtenText segments).getLast? = some c) : Text.isBlank c = false := by
  induction segments with
  | nil => simp [writtenText] at hc
  | cons segment rest ih =>
    have hsplit : writtenText (segment :: rest) = segment.written.toList ++ writtenText rest := rfl
    rw [hsplit, List.getLast?_append] at hc
    have hrest : Settled rest := by
      cases segment with
      | index n => exact h.2
      | name key => exact h.2.2
    cases hlast : (writtenText rest).getLast? with
    | some d =>
      obtain rfl : d = c := by simpa [hlast] using hc
      exact ih hrest hlast
    | none =>
      rw [hlast, Option.none_or] at hc
      cases segment with
      | index n =>
        rw [toList_written_index, getLast?_indexText] at hc
        obtain rfl := Option.some.inj hc
        decide
      | name key =>
        obtain ⟨hkey, hend, -⟩ := h
        rcases hend with hend | ⟨n, after, rfl⟩
        · refine hend c ?_
          have hdot : ".".toList = ['.'] := rfl
          rw [Segment.written, String.toList_append, hdot, List.getLast?_append] at hc
          cases hlast : key.toList.getLast? with
          | none => exact absurd (List.getLast?_eq_none_iff.mp hlast) hkey.ne_nil
          | some d => simpa [hlast] using hc
        · -- the index behind the name has been written, so what is written does not end here
          have hnil := List.getLast?_eq_none_iff.mp hlast
          simp [writtenText, toList_written_index, indexText] at hnil

/-- A written path begins with no blank and ends with none, so that it stays when what follows is
stripped. -/
theorem strip_bodyText {key : String} {rest : List Segment} (h : Settled (.name key :: rest))
    (q : List Char) : Text.strip (bodyText key rest ++ q) = bodyText key rest ++ Text.stripEnd q := by
  obtain ⟨first, others, hkey⟩ := List.exists_cons_of_ne_nil h.1.ne_nil
  have hne : bodyText key rest ≠ [] := by simp [bodyText, hkey]
  obtain ⟨last, hlast⟩ := Option.ne_none_iff_exists'.mp (mt List.getLast?_eq_none_iff.mp hne)
  refine Text.strip_append (fun c hc => ?_) hlast ?_ q
  · rw [bodyText, List.head?_append, hkey] at hc
    exact h.1.head c (by simpa [hkey] using hc)
  · have hdot : writtenText (.name key :: rest) = '.' :: bodyText key rest := by
      simp [writtenText, bodyText, Segment.written]
    refine h.getLast?_writtenText ?_
    rw [hdot, List.getLast?_cons, hlast]
    rfl

/-- Settled segments that begin with a name are read as the path of these segments, and of those with
which the path goes on. -/
theorem parse_of_settled {key : String} {rest : List Segment} (h : Settled (.name key :: rest))
    {q : List Char} (hq : GoesOn q) {expression : String}
    (he : expression.toList = opening ++ (bodyText key rest ++ q) ++ closing) :
    byReason (Path.parse expression) = onwardSegments (Text.stripEnd q) >>= fun more =>
      byReason (Path.ofSegments (String.ofList (bodyText key rest ++ Text.stripEnd q))
        (.name key :: (rest ++ more))) := by
  have hne : (bodyText key rest ++ Text.stripEnd q).isEmpty = false := by
    simp [bodyText, h.1.ne_nil]
  have hpiece : bodyText key rest ++ Text.stripEnd q
      = pieceText key [] ++ (writtenText rest ++ Text.stripEnd q) := by
    simp [bodyText, pieceText]
  have hbegun : Settled (.name key :: (([] : List Nat).map .index ++ rest)) := h
  have hpieces := read_written (String.ofList (bodyText key rest ++ Text.stripEnd q)) hbegun
    fun c hc => hq c (Text.head?_stripEnd hc)
  rw [← hpiece, byReason_map] at hpieces
  rw [Path.parse_eq, he, unwrap_braced, strip_bodyText h, hne, if_neg (by simp)]
  refine (byReason_bind _ _).trans ?_
  have hflat : ∀ (pieces : Except (Option Reason) (List (List Segment)))
      (f : List Segment → Except (Option Reason) Path),
      (pieces >>= fun pieces => f pieces.flatten) = pieces.map List.flatten >>= f := by
    rintro (e | pieces) f <;> rfl
  refine (hflat _ fun segments => byReason (Path.ofSegments _ segments)).trans ?_
  rw [hpieces]
  cases onwardSegments (Text.stripEnd q) <;> rfl

theorem Root.ofWord?_word (root : Root) : Root.ofWord? root.word = some root := by
  cases root <;> rfl

namespace Path

/-- A path begins with a root, or else with a key that is reserved for none. -/
def Begins (p : Path) : Prop :=
  p.explicitRoot = true ∨
    p.explicitRoot = false ∧ p.root = .stepsByName ∧
      ∃ key rest, p.segments = .name key :: rest ∧ Root.ofWord? key = none

/-- The segments of a path, with the word for its root in front if it is written. -/
def inFull (p : Path) : List Segment :=
  if p.explicitRoot then .name p.root.word :: p.segments else p.segments

/-- What a path is written as, without its braces. -/
def body (p : Path) : String :=
  match p.inFull with
  | [] => ""
  | first :: rest => first.text ++ String.join (rest.map Segment.written)

theorem written_eq (p : Path) : p.written = "\x7b\x7b" ++ p.body ++ "\x7d\x7d" := by
  obtain ⟨text, root, segments, explicitRoot⟩ := p
  cases explicitRoot with
  | true => rfl
  | false => cases segments <;> rfl

/-- The segments that a path is made of, written in full, are those that it was made from. -/
theorem begins_of_ofSegments {text : String} {segments : List Segment} {p : Path}
    (h : ofSegments text segments = .ok p) : p.Begins ∧ p.inFull = segments := by
  rw [ofSegments.eq_def] at h
  split at h
  · next key rest =>
    cases hword : Root.ofWord? key with
    | none =>
      rw [hword] at h
      obtain rfl := Except.ok.inj h
      exact ⟨.inr ⟨rfl, rfl, key, rest, rfl, hword⟩, rfl⟩
    | some root =>
      rw [hword] at h
      obtain rfl := Except.ok.inj h
      have hroot : root.word = key := by simpa using List.find?_some hword
      exact ⟨.inl rfl, by rw [inFull, if_pos rfl, hroot]⟩
  · simp at h

/-- A path is made of its segments in full. -/
theorem ofSegments_inFull {p : Path} (h : p.Begins) (text : String) :
    ofSegments text p.inFull = .ok { p with text := text } := by
  obtain ⟨_, root, segments, explicitRoot⟩ := p
  rcases h with rfl | ⟨rfl, rfl, key, rest, rfl, hword⟩
  · simp only [inFull, if_true, ofSegments, Root.ofWord?_word]
  · simp only [inFull, Bool.false_eq_true, if_false, ofSegments, hword]

/-- A path begins with a name. -/
theorem Begins.inFull_eq {p : Path} (h : p.Begins) : ∃ key rest, p.inFull = .name key :: rest := by
  rcases h with h | ⟨h, -, key, rest, hsegments, -⟩
  · exact ⟨p.root.word, p.segments, by rw [inFull, if_pos h]⟩
  · exact ⟨key, rest, by rw [inFull, h, if_neg (by simp), hsegments]⟩

/-- A path with settled segments comes back when it is written and read. -/
theorem parse_written_of_settled {p : Path} (hbegins : p.Begins) (hsettled : Settled p.inFull) :
    parse p.written = .ok { p with text := p.body } := by
  obtain ⟨key, rest, hfull⟩ := hbegins.inFull_eq
  have hbody : p.body.toList = bodyText key rest := by
    rw [body, hfull]
    dsimp only
    rw [String.toList_append, toList_join_written, Segment.text, bodyText]
  have hwritten : p.written.toList = opening ++ (bodyText key rest ++ []) ++ closing := by
    rw [written_eq, String.toList_append, String.toList_append, hbody, List.append_nil]
    rfl
  have htext : String.ofList (bodyText key rest ++ Text.stripEnd []) = p.body := by
    rw [← hbody]
    simp [Text.stripEnd]
  rw [hfull] at hsettled
  refine byReason_eq_ok.mp ((parse_of_settled hsettled (fun c hc => by simp at hc) hwritten).trans ?_)
  -- nothing stands behind the written segments
  change byReason (ofSegments _ (.name key :: (rest ++ []))) = _
  rw [List.append_nil, htext, ← hfull, ofSegments_inFull hbegins, byReason_ok]

/-- The segments of a path that was read are settled. -/
theorem settled_of_parse {expression : String} {p : Path} (h : parse expression = .ok p) :
    p.Begins ∧ Settled p.inFull := by
  rw [parse_eq] at h
  split at h
  · simp at h
  · obtain ⟨pieces, hpieces, hof⟩ := bind_eq_ok.mp h
    obtain ⟨hbegins, hfull⟩ := begins_of_ofSegments hof
    refine ⟨hbegins, hfull ▸ Settled.flatten fun piece hpiece => ?_⟩
    obtain ⟨raw, hraw, hread⟩ := mem_of_mapM hpieces hpiece
    exact settled_of_readSegments (Text.isSep_of_mem_splitOn hraw) hread

/-- A path with plain parts: its keys are not empty, hold neither dots nor brackets and have no blanks at
their ends, and its indices are not too long to be read. -/
structure IsPlain (p : Path) : Prop where
  keys : ∀ key, .name key ∈ p.segments →
    key ≠ "" ∧ (∀ c ∈ key.toList, c ≠ '.' ∧ c ≠ '[' ∧ c ≠ ']') ∧ Text.stripped key = key
  indices : ∀ n, .index n ∈ p.segments → n < 10 ^ Json.maxDigits

/-- That a key has none of the characters that mean something can be computed. -/
theorem plain_of_all {key : String}
    (h : key.toList.all (fun c => c != '.' && c != '[' && c != ']') = true) :
    ∀ c ∈ key.toList, c ≠ '.' ∧ c ≠ '[' ∧ c ≠ ']' := by
  intro c hc
  simpa [and_assoc] using List.all_eq_true.mp h c hc

/-- A plain key can stand anywhere. -/
theorem isName_of_plain {key : String} (hne : key ≠ "")
    (hplain : ∀ c ∈ key.toList, c ≠ '.' ∧ c ≠ '[' ∧ c ≠ ']') (hstrip : Text.stripped key = key) :
    IsName key ∧ EndsPlainly key := by
  have htext : Text.strip key.toList = key.toList := by
    have := congrArg String.toList hstrip
    rwa [Text.stripped, String.toList_ofList] at this
  refine ⟨⟨by simpa using hne, fun c hc => ?_, fun c hc => ?_⟩, fun c hc => ?_⟩
  · obtain ⟨hdot, hopen, hclose⟩ := hplain c hc
    exact ⟨hdot, by simp [isBracket, hopen, hclose]⟩
  · rw [← htext] at hc
    exact Text.head?_strip hc
  · rw [← htext] at hc
    exact Text.getLast?_strip hc

theorem isName_word (root : Root) : IsName root.word ∧ EndsPlainly root.word := by
  cases root <;> exact isName_of_plain (by decide) (plain_of_all (by decide)) (by decide)

/-- Plain parts are settled. -/
theorem IsPlain.settled {p : Path} (h : p.IsPlain) : Settled p.inFull := by
  have hsegments : ∀ segments : List Segment, (∀ s ∈ segments, s ∈ p.segments) →
      Settled segments := by
    intro segments
    induction segments with
    | nil => exact fun _ => trivial
    | cons segment rest ih =>
      intro hmem
      obtain ⟨hsegment, hrest⟩ := List.forall_mem_cons.mp hmem
      cases segment with
      | index n => exact ⟨h.indices n hsegment, ih hrest⟩
      | name key =>
        obtain ⟨hne, hplain, hstrip⟩ := h.keys key hsegment
        obtain ⟨hname, hend⟩ := isName_of_plain hne hplain hstrip
        exact ⟨hname, .inl hend, ih hrest⟩
  rw [inFull]
  split
  · exact ⟨(isName_word p.root).1, .inl (isName_word p.root).2, hsegments _ fun _ hs => hs⟩
  · exact hsegments _ fun _ hs => hs

end Path

/-- **Writing and reading paths.** A path that was read from whatever expression comes back when it is
written and read again: with its root, its segments and whether the root was named; its text is then what
was written. So does every path that begins with a root or with a key reserved for none, and has plain
parts. -/
theorem parse_written :
    (∀ (expression : String) (p : Path), Path.parse expression = .ok p →
      Path.parse p.written = .ok { p with text := p.body }) ∧
    ∀ p : Path, p.Begins → p.IsPlain → Path.parse p.written = .ok { p with text := p.body } := by
  refine ⟨fun expression p h => ?_, fun p hbegins hplain => ?_⟩
  · obtain ⟨hbegins, hsettled⟩ := Path.settled_of_parse h
    exact Path.parse_written_of_settled hbegins hsettled
  · exact Path.parse_written_of_settled hbegins hplain.settled

/-- A key with a blank in front of its index, leading zeros and an index between dots come back in their
usual form; so does a path with braces in a key. -/
theorem parse_written_first :
    Path.parse " \x7b\x7b first [007] .[1]. x\x7d\x7d "
        = .ok ⟨"first [007] .[1]. x", .stepsByName,
            [.name "first ", .index 7, .index 1, .name "x"], false⟩ ∧
      Path.parse "\x7b\x7bfirst [7][1].x\x7d\x7d"
        = .ok ⟨"first [7][1].x", .stepsByName,
            [.name "first ", .index 7, .index 1, .name "x"], false⟩ ∧
      Path.parse "\x7b\x7binput[12].\x7ba\x7d\x7d\x7d"
        = .ok ⟨"input[12].\x7ba\x7d", .input, [.index 12, .name "\x7ba\x7d"], true⟩ := by
  have hread : Path.parse " \x7b\x7b first [007] .[1]. x\x7d\x7d "
      = .ok ⟨"first [007] .[1]. x", .stepsByName,
          [.name "first ", .index 7, .index 1, .name "x"], false⟩ := by decide
  have hfirst := parse_written.1 _ _ hread
  have hplain : Path.IsPlain ⟨"", .input, [.index 12, .name "\x7ba\x7d"], true⟩ := by
    constructor
    · intro key hkey
      obtain rfl : key = "\x7ba\x7d" := by simpa using hkey
      exact ⟨by decide, Path.plain_of_all (by decide), by decide⟩
    · intro n hn
      obtain rfl : n = 12 := by simpa using hn
      calc 12 < 10 ^ 2 := by decide
        _ ≤ 10 ^ Json.maxDigits := Nat.pow_le_pow_right (by decide) (by decide)
  have hinput := parse_written.2 _ (.inl rfl) hplain
  have hwritten :
      Path.written ⟨"first [007] .[1]. x", .stepsByName,
          [.name "first ", .index 7, .index 1, .name "x"], false⟩
        = "\x7b\x7bfirst [7][1].x\x7d\x7d" ∧
      Path.written ⟨"", .input, [.index 12, .name "\x7ba\x7d"], true⟩
        = "\x7b\x7binput[12].\x7ba\x7d\x7d\x7d" := by decide
  rw [hwritten.1] at hfirst
  rw [hwritten.2] at hinput
  exact ⟨hread, hfirst, hinput⟩

end Template

end Switchboard
