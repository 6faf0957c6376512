import Switchboard.Proofs.Template.Grammar
import Switchboard.Proofs.Template.Walk
import Mathlib.Logic.Relation

/-!
Numbers in paths, behind dots and between brackets.

* `Follows`, `reads_append` — what can follow a segment, and the segments of a text with this behind it;
* `SpellsNumber`, `onwardSegments_number` — the spellings of a number, and the one segment that each is read as;
* `Respells` — a text with a number in another spelling; `reads_of_respells` — its segments are the same up to
  that number;
* `respelling_agrees` — the spelling of numbers makes no difference to what an expression comes to.

Design notes: a number behind a dot begins a piece of its own, and one between brackets belongs to the piece in
front of it. So a text is not respelled piece by piece, but cut in front of the number and behind it: what stands
in front is read alone, and what follows by `onwardSegments`.
-/
namespace Switchboard.Template

/-! ### Texts and what follows them -/

/-- A text is read as one segment at least. -/
theorem Reads.ne_nil {body : List Char} {segments : List Segment} (h : Reads body segments) : segments ≠ [] := by
  obtain ⟨pieces, hpieces, rfl⟩ := h
  obtain ⟨first, others, hsplit, -, -⟩ := Text.splitOn_spec (· = '.') body
  rw [hsplit, List.mapM_cons] at hpieces
  obtain ⟨found, hfound, hpieces⟩ := bind_eq_ok.mp hpieces
  obtain ⟨more, -, hcons⟩ := bind_eq_ok.mp hpieces
  obtain ⟨piece, -, -, rfl⟩ := readSegments_eq_ok.mp hfound
  obtain rfl : piece.segments :: more = pieces := Except.ok.inj hcons
  simp [piece.segments_ne_nil]

/-- What follows a segment: another one, with a bracket or with a dot, or the end of the path. There may be
blanks in front of the dot, and at the end. -/
inductive Follows : List Char → Prop where
  | bracket (rest : List Char) : Follows ('[' :: rest)
  | dot {blanks : List Char} (hblanks : ∀ c ∈ blanks, Text.isBlank c = true) (rest : List Char) :
      Follows (blanks ++ '.' :: rest)
  | ends {blanks : List Char} (hblanks : ∀ c ∈ blanks, Text.isBlank c = true) : Follows blanks

theorem ne_dot_of_isBlank {c : Char} (hc : Text.isBlank c = true) : decide (c = '.') = false := by
  have hdot : Text.isBlank '.' = false := by decide
  refine decide_eq_false fun heq => ?_
  simp [heq, hdot] at hc

/-- Up to the first dot, what follows a segment is blank, or begins with a bracket. -/
theorem Follows.splitOn {q : List Char} (hq : Follows q) :
    ∃ first others, Text.splitOn (· = '.') q = first :: others ∧
      ∀ c, (Text.stripEnd first).head? = some c → c = '[' := by
  cases hq with
  | bracket rest =>
    obtain ⟨first, others, hsplit, -, -⟩ := Text.splitOn_spec (· = '.') rest
    refine ⟨'[' :: first, others, by simp [Text.splitOn_cons, hsplit], fun c hc => ?_⟩
    exact (Option.some.inj (Text.head?_stripEnd hc)).symm
  | dot hblanks rest =>
    refine ⟨_, _, Text.splitOn_append (fun c hc => ne_dot_of_isBlank (hblanks c hc)) rfl, fun c hc => ?_⟩
    simp [Text.stripEnd_blanks hblanks] at hc
  | ends hblanks =>
    refine ⟨_, _, Text.splitOn_of_forall fun c hc => ne_dot_of_isBlank (hblanks c hc), fun c hc => ?_⟩
    simp [Text.stripEnd_blanks hblanks] at hc

/-- A piece with more indices behind it is read when both are. -/
theorem readSegments_append_eq_ok {path : String} {raw q : List Char} {c : Char}
    (hlast : raw.getLast? = some c) (hc : Text.isBlank c = false)
    (hq : ∀ d, (Text.stripEnd q).head? = some d → d = '[') {segments : List Segment} :
    readSegments path (raw ++ q) = .ok segments ↔
      ∃ before indices, readSegments path raw = .ok before ∧ onwardIndices q = .ok indices ∧
        before ++ indices.map .index = segments := by
  obtain ⟨hend, hstrip⟩ := Text.strip_append_stripEnd hlast hc q
  have hne : Text.strip raw ≠ [] := by
    intro hnil
    simp [hnil] at hend
  -- what follows begins with a bracket, so that it is cut off as more indices
  rw [readSegments, hstrip, splitSegment?_append hne hq, readSegments, onwardIndices]
  cases splitSegment? (Text.strip raw) with
  | none => simp
  | some parts =>
    obtain ⟨name, groups⟩ := parts
    cases indexGroups none (Text.stripEnd q) with
    | none => simp
    | some more =>
      simp only [Option.bind_some, Option.map_some, List.mapM_append]
      cases groups.mapM readIndex with
      | error e => simp [bind, Except.bind]
      | ok indices =>
        cases more.mapM readIndex with
        | error e => simp [bind, Except.bind]
        | ok others => simp [bind, Except.bind, pure, Except.pure]

/-- What a path goes on with is indices up to the first dot, and pieces from there on. -/
theorem onwardSegments_eq_ok {q first : List Char} {others : List (List Char)}
    (hsplit : Text.splitOn (· = '.') q = first :: others) {segments : List Segment} :
    onwardSegments q = .ok segments ↔
      ∃ indices pieces, onwardIndices first = .ok indices ∧ others.mapM (readSegments "") = .ok pieces ∧
        indices.map .index ++ pieces.flatten = segments := by
  rw [onwardSegments, hsplit]
  simp only [← byReason_mapM]
  constructor
  · intro h
    obtain ⟨indices, hindices, h⟩ := bind_eq_ok.mp h
    obtain ⟨pieces, hpieces, h⟩ := bind_eq_ok.mp h
    exact ⟨indices, pieces, hindices, byReason_eq_ok.mp hpieces, Except.ok.inj h⟩
  · rintro ⟨indices, pieces, hindices, hpieces, rfl⟩
    rw [hindices, byReason_eq_ok.mpr hpieces]
    rfl

/-- A text without dots is one piece. -/
theorem reads_of_forall {raw : List Char} (hdots : ∀ c ∈ raw, decide (c = '.') = false)
    {segments : List Segment} : Reads raw segments ↔ readSegments "" raw = .ok segments := by
  rw [Reads, Text.splitOn_of_forall hdots]
  constructor
  · rintro ⟨pieces, hpieces, rfl⟩
    obtain ⟨piece, hpiece, hnothing⟩ := bind_eq_ok.mp hpieces
    obtain rfl : [piece] = pieces := Except.ok.inj hnothing
    simpa using hpiece
  · intro hread
    exact ⟨[segments], by rw [List.mapM_cons, hread]; rfl, by simp⟩

/-- What stands behind a dot is read like any text. -/
theorem onwardSegments_dot {blanks : List Char} (hblanks : ∀ c ∈ blanks, Text.isBlank c = true)
    {rest : List Char} {segments : List Segment} :
    onwardSegments (blanks ++ '.' :: rest) = .ok segments ↔ Reads rest segments := by
  have hnone : onwardIndices blanks = .ok [] := by
    rw [onwardIndices, Text.stripEnd_blanks hblanks]
    rfl
  rw [onwardSegments_eq_ok (Text.splitOn_append (fun c hc => ne_dot_of_isBlank (hblanks c hc)) (by simp)),
    hnone]
  constructor
  · rintro ⟨_, pieces, ⟨⟩, hpieces, rfl⟩
    exact ⟨pieces, hpieces, rfl⟩
  · rintro ⟨pieces, hpieces, rfl⟩
    exact ⟨[], pieces, rfl, hpieces, rfl⟩

/-- A text that ends neither with a dot nor with a blank is read alone, and what stands behind it as that with
which it goes on. -/
theorem reads_append {body q : List Char} {c : Char} (hlast : body.getLast? = some c) (hdot : c ≠ '.')
    (hblank : Text.isBlank c = false) (hq : Follows q) {segments : List Segment} :
    Reads (body ++ q) segments ↔
      ∃ before after, Reads body before ∧ onwardSegments q = .ok after ∧ before ++ after = segments := by
  -- the last piece of the text and the first one of what follows are one piece, and the others stay
  obtain ⟨first, others, hsplit, hfirst⟩ := hq.splitOn
  obtain ⟨front, last, hbody, happend⟩ := Text.splitOn_append_of_splitOn (· = '.') body
  have hend : last.getLast? = some c := Text.getLast?_of_splitOn hbody hlast (by simpa using hdot)
  rw [Reads, happend q first others hsplit]
  constructor
  · rintro ⟨pieces, hpieces, rfl⟩
    obtain ⟨found, piece, more, rfl, hfront, hpiece, hothers⟩ := mapM_append_cons_eq_ok.mp hpieces
    obtain ⟨begun, indices, hbegun, hindices, rfl⟩ :=
      (readSegments_append_eq_ok hend hblank hfirst).mp hpiece
    refine ⟨(found ++ [begun]).flatten, indices.map .index ++ more.flatten, ⟨_, ?_, rfl⟩, ?_, by simp⟩
    · rw [hbody]
      exact mapM_append_cons_eq_ok.mpr ⟨found, begun, [], rfl, hfront, hbegun, rfl⟩
    · exact (onwardSegments_eq_ok hsplit).mpr ⟨indices, more, hindices, hothers, rfl⟩
  · rintro ⟨before, after, ⟨pieces, hpieces, rfl⟩, honward, rfl⟩
    rw [hbody] at hpieces
    obtain ⟨found, begun, nothing, rfl, hfront, hbegun, hnothing⟩ := mapM_append_cons_eq_ok.mp hpieces
    obtain rfl : [] = nothing := Except.ok.inj hnothing
    obtain ⟨indices, more, hindices, hothers, rfl⟩ := (onwardSegments_eq_ok hsplit).mp honward
    have hpiece := (readSegments_append_eq_ok hend hblank hfirst).mpr ⟨begun, indices, hbegun, hindices, rfl⟩
    refine ⟨found ++ (begun ++ indices.map .index) :: more, ?_, by simp⟩
    exact mapM_append_cons_eq_ok.mpr ⟨found, _, more, rfl, hfront, hpiece, hothers⟩

/-- Behind a dot, a text without dots that is read as one segment is this segment of the path. -/
theorem onwardSegments_dot_append {blanks raw q : List Char} {segment : Segment} {c : Char}
    (hblanks : ∀ c ∈ blanks, Text.isBlank c = true) (hraw : ∀ c ∈ raw, decide (c = '.') = false)
    (hlast : raw.getLast? = some c) (hblank : Text.isBlank c = false)
    (hread : readSegments "" raw = .ok [segment]) (hq : Follows q) {segments : List Segment} :
    onwardSegments (blanks ++ '.' :: (raw ++ q)) = .ok segments ↔
      ∃ more, onwardSegments q = .ok more ∧ segment :: more = segments := by
  have hdot : c ≠ '.' := by simpa using hraw c (List.mem_of_getLast? hlast)
  rw [onwardSegments_dot hblanks, reads_append hlast hdot hblank hq]
  constructor
  · rintro ⟨found, more, hfound, hmore, rfl⟩
    obtain rfl := Except.ok.inj (hread.symm.trans ((reads_of_forall hraw).mp hfound))
    exact ⟨more, hmore, rfl⟩
  · rintro ⟨more, hmore, rfl⟩
    exact ⟨[segment], more, (reads_of_forall hraw).mpr hread, hmore, rfl⟩

/-! ### Numbers -/

/-- The spellings of a number behind other segments, and the segment that each is read as: behind a dot, between
brackets, or both. There may be blanks around the dot. -/
inductive SpellsNumber (n : Nat) : List Char → Segment → Prop where
  | dotted {before behind : List Char} (hbefore : ∀ c ∈ before, Text.isBlank c = true)
      (hbehind : ∀ c ∈ behind, Text.isBlank c = true) :
      SpellsNumber n (before ++ '.' :: (behind ++ Nat.toDigits 10 n)) (.name (toString n))
  | bracketed : SpellsNumber n (indexText n) (.index n)
  | both {before behind : List Char} (hbefore : ∀ c ∈ before, Text.isBlank c = true)
      (hbehind : ∀ c ∈ behind, Text.isBlank c = true) :
      SpellsNumber n (before ++ '.' :: (behind ++ indexText n)) (.index n)

theorem SpellsNumber.follows {n : Nat} {s : List Char} {segment : Segment} (hs : SpellsNumber n s segment)
    (q : List Char) : Follows (s ++ q) := by
  cases hs with
  | dotted hbefore _ =>
    rw [List.append_assoc]
    exact .dot hbefore _
  | bracketed => exact .bracket _
  | both hbefore _ =>
    rw [List.append_assoc]
    exact .dot hbefore _

/-- An index between brackets is one of those with which a piece goes on. -/
theorem onwardIndices_indexText {n : Nat} (hn : n < 10 ^ Json.maxDigits) (q : List Char) :
    onwardIndices (indexText n ++ q) = (onwardIndices q).map (n :: ·) := by
  have hend : Text.stripEnd (indexText n ++ q) = indexText n ++ Text.stripEnd q :=
    Text.stripEnd_append (getLast?_indexText n) (by decide) q
  have hrun : ∀ g ∈ [Nat.toDigits 10 n], IsRun g := List.forall_mem_singleton.mpr (isRun_toDigits n)
  have hgroups := indexGroups_groups hrun (Text.stripEnd q)
  rw [List.flatMap_singleton] at hgroups
  rw [onwardIndices, onwardIndices, hend, indexText, ← bracketed, hgroups]
  cases indexGroups none (Text.stripEnd q) with
  | none => rfl
  | some groups =>
    have hread := mapM_readIndex (List.forall_mem_singleton.mpr hn) groups
    rw [List.map_singleton] at hread
    simp only [Option.map_some, hread, byReason_map]
    rfl

/-- The digits of a number are read as a name, with blanks in front of them too. -/
theorem readSegments_digits {blanks : List Char} (hblanks : ∀ c ∈ blanks, Text.isBlank c = true) (n : Nat) :
    readSegments "" (blanks ++ Nat.toDigits 10 n) = .ok [.name (toString n)] := by
  have hplain : ∀ c ∈ Nat.toDigits 10 n, c ≠ '[' ∧ c ≠ ']' := by
    intro c hc
    obtain ⟨-, hopen, hclose, -⟩ := plain_of_mem_toDigits c hc
    exact ⟨hopen, hclose⟩
  have hblank : ∀ c ∈ Nat.toDigits 10 n, Text.isBlank c = false := by
    intro c hc
    obtain ⟨-, -, -, hblank⟩ := plain_of_mem_toDigits c hc
    exact hblank
  have hstrip : Text.strip (Nat.toDigits 10 n) = Nat.toDigits 10 n :=
    Text.strip_of_ends (fun c hc => hblank c (List.mem_of_head? hc))
      fun c hc => hblank c (List.mem_of_getLast? hc)
  let piece : Piece := ⟨Nat.toDigits 10 n, [], hplain, by simp, .inl Nat.toDigits_ne_nil⟩
  have hname : String.ofList (Nat.toDigits 10 n) = toString n := by
    rw [Nat.toString_eq_repr, ← Nat.toList_repr, String.ofList_toList]
  refine readSegments_eq_ok.mpr ⟨piece, ?_, by simp [piece, Piece.IsBrief], ?_⟩
  · rw [Text.strip_blanks_append hblanks, hstrip]
    simp [piece, Piece.text]
  · simp [piece, Piece.segments, hname]

/-- A number between brackets is read as an index, with blanks in front of it too. -/
theorem readSegments_indexText {blanks : List Char} (hblanks : ∀ c ∈ blanks, Text.isBlank c = true) {n : Nat}
    (hn : n < 10 ^ Json.maxDigits) : readSegments "" (blanks ++ indexText n) = .ok [.index n] := by
  have hstrip : Text.strip (indexText n) = indexText n := by
    refine Text.strip_of_ends (fun c hc => ?_) fun c hc => ?_
    · obtain rfl : '[' = c := Option.some.inj hc
      decide
    · obtain rfl : ']' = c := Option.some.inj ((getLast?_indexText n).symm.trans hc)
      decide
  let piece : Piece := ⟨[], [Nat.toDigits 10 n], by simp, by simpa using isRun_toDigits n, by simp⟩
  refine readSegments_eq_ok.mpr ⟨piece, ?_, by simpa [piece, Piece.IsBrief] using length_toDigits_le hn, ?_⟩
  · rw [Text.strip_blanks_append hblanks, hstrip]
    simp [piece, Piece.text, bracketed, indexText]
  · simp [piece, Piece.segments, digitsValue_toDigits]

/-- However a number is spelled, it is read as one segment, and what follows it as if it were not there. -/
theorem onwardSegments_number {n : Nat} (hn : n < 10 ^ Json.maxDigits) {s : List Char} {segment : Segment}
    (hs : SpellsNumber n s segment) {q : List Char} (hq : Follows q) {segments : List Segment} :
    onwardSegments (s ++ q) = .ok segments ↔
      ∃ more, onwardSegments q = .ok more ∧ segment :: more = segments := by
  cases hs with
  | dotted hbefore hbehind =>
    obtain ⟨c, hlast⟩ := Option.ne_none_iff_exists'.mp
      (mt List.getLast?_eq_none_iff.mp (Nat.toDigits_ne_nil : Nat.toDigits 10 n ≠ []))
    obtain ⟨-, -, -, hblank⟩ := plain_of_mem_toDigits c (List.mem_of_getLast? hlast)
    rw [List.append_assoc]
    refine onwardSegments_dot_append hbefore (List.forall_mem_append.mpr ⟨?_, ?_⟩) ?_ hblank
      (readSegments_digits hbehind n) hq
    · exact fun c hc => ne_dot_of_isBlank (hbehind c hc)
    · exact fun c hc => decide_eq_false (plain_of_mem_toDigits c hc).1
    · rw [List.getLast?_append, hlast, Option.some_or]
  | both hbefore hbehind =>
    have hblank : Text.isBlank ']' = false := by decide
    rw [List.append_assoc]
    refine onwardSegments_dot_append hbefore (List.forall_mem_append.mpr ⟨?_, ne_dot_of_mem_indexText⟩) ?_
      hblank (readSegments_indexText hbehind hn) hq
    · exact fun c hc => ne_dot_of_isBlank (hbehind c hc)
    · rw [List.getLast?_append, getLast?_indexText, Option.some_or]
  | bracketed =>
    obtain ⟨first, others, hsplit, -⟩ := hq.splitOn
    have hboth : Text.splitOn (· = '.') (indexText n ++ q) = (indexText n ++ first) :: others :=
      Text.splitOn_prepend ne_dot_of_mem_indexText hsplit
    rw [onwardSegments_eq_ok hboth, onwardIndices_indexText hn]
    constructor
    · rintro ⟨_, pieces, hmap, hpieces, rfl⟩
      obtain ⟨indices, hindices, rfl⟩ := map_eq_ok.mp hmap
      exact ⟨_, (onwardSegments_eq_ok hsplit).mpr ⟨indices, pieces, hindices, hpieces, rfl⟩, rfl⟩
    · rintro ⟨_, honward, rfl⟩
      obtain ⟨indices, pieces, hindices, hpieces, rfl⟩ := (onwardSegments_eq_ok hsplit).mp honward
      exact ⟨n :: indices, pieces, map_eq_ok.mpr ⟨indices, hindices, rfl⟩, hpieces, rfl⟩

/-- A number in a text is spelled in another way. It is not the first segment: in front of it stands something that
ends neither with a blank nor with a dot. -/
inductive Respells : List Char → List Char → Prop where
  | number {n : Nat} (hn : n < 10 ^ Json.maxDigits) {front : List Char} {c : Char}
      (hlast : front.getLast? = some c) (hdot : c ≠ '.') (hblank : Text.isBlank c = false)
      {s s' : List Char} {segment segment' : Segment} (hs : SpellsNumber n s segment)
      (hs' : SpellsNumber n s' segment') {q : List Char} (hq : Follows q) :
      Respells (front ++ (s ++ q)) (front ++ (s' ++ q))

/-- A number makes the same sense in all spellings. -/
theorem SpellsNumber.sense_eq {n : Nat} (hn : n < 10 ^ Json.maxDigits) {s : List Char} {segment : Segment}
    (hs : SpellsNumber n s segment) : segment.sense = (toString n, .ok (some n)) := by
  have hname : position? (.name (toString n)) = .ok (some n) := by
    have htext : (toString n).toList = Nat.toDigits 10 n := by rw [Nat.toString_eq_repr, Nat.toList_repr]
    have hne : (toString n).isEmpty = false := by
      rw [← Bool.not_eq_true, String.isEmpty_iff, ← String.toList_eq_nil_iff, htext]
      exact Nat.toDigits_ne_nil
    have hall : (Nat.toDigits 10 n).all Text.isDigit = true :=
      List.all_eq_true.mpr isDigit_of_mem_toDigits
    rw [position?, htext, hne, hall, if_pos (by decide), readIndex_toDigits hn]
    rfl
  cases hs with
  | dotted => rw [Segment.sense, hname, Segment.text]
  | bracketed | both => rfl

/-! ### Respelled texts -/

variable {body body' : List Char} {segments : List Segment}

/-- A text with a number in another spelling is read too, as segments that make the same sense and begin alike. -/
theorem Respells.reads (hrespells : Respells body body') (hreads : Reads body segments) :
    ∃ segments', Reads body' segments' ∧ segments'.head? = segments.head? ∧
      segments.map Segment.sense = segments'.map Segment.sense := by
  cases hrespells with
  | @number n hn front c hlast hdot hblank s s' segment segment' hs hs' q hq =>
    -- the text is cut in front of the number, and then behind it
    obtain ⟨before, after, hbefore, hafter, rfl⟩ := (reads_append hlast hdot hblank (hs.follows q)).mp hreads
    obtain ⟨more, hmore, rfl⟩ := (onwardSegments_number hn hs hq).mp hafter
    have hafter' := (onwardSegments_number hn hs' hq).mpr ⟨more, hmore, rfl⟩
    have hreads' := (reads_append hlast hdot hblank (hs'.follows q)).mpr ⟨before, _, hbefore, hafter', rfl⟩
    refine ⟨_, hreads', ?_, ?_⟩
    · rw [List.head?_append_of_ne_nil _ hbefore.ne_nil, List.head?_append_of_ne_nil _ hbefore.ne_nil]
    · simp [hs.sense_eq hn, hs'.sense_eq hn]

/-- So is a text with any numbers in other spellings. -/
theorem reads_of_respells (hrespells : Relation.ReflTransGen Respells body body') (hreads : Reads body segments) :
    ∃ segments', Reads body' segments' ∧ segments'.head? = segments.head? ∧
      segments.map Segment.sense = segments'.map Segment.sense := by
  induction hrespells with
  | refl => exact ⟨segments, hreads, rfl, rfl⟩
  | tail _ hlast ih =>
    obtain ⟨found, hfound, hhead, hsense⟩ := ih
    obtain ⟨segments', hreads', hhead', hsense'⟩ := hlast.reads hfound
    exact ⟨segments', hreads', hhead'.trans hhead, hsense.trans hsense'⟩

/-- Segments that begin with the same name make a path with the same root. -/
theorem Path.exists_ofSegments_of_sense {p : Path} (hbegins : p.Begins) {segments' : List Segment}
    (hhead : segments'.head? = p.inFull.head?)
    (hsense : p.inFull.map Segment.sense = segments'.map Segment.sense) (text : String) :
    ∃ p', Path.ofSegments text segments' = .ok p' ∧ p'.root = p.root ∧
      p.segments.map Segment.sense = p'.segments.map Segment.sense := by
  obtain ⟨key, rest, hfull⟩ := hbegins.inFull_eq
  rw [hfull] at hhead hsense
  obtain ⟨rest', rfl⟩ : ∃ rest', segments' = .name key :: rest' := by
    cases segments' with
    | nil => simp at hhead
    | cons segment rest' => exact ⟨rest', by simpa using hhead⟩
  have hrest : rest.map Segment.sense = rest'.map Segment.sense := by simpa using hsense
  -- the first name is the word for the root, or else reserved for none
  rcases hbegins with hroot | ⟨hroot, hstart, key', others, hsegments, hword⟩
  · rw [inFull, if_pos hroot] at hfull
    obtain ⟨hkey, rfl⟩ := List.cons.inj hfull
    obtain rfl := Segment.name.inj hkey
    exact ⟨⟨text, p.root, rest', true⟩, by simp [ofSegments, Root.ofWord?_word], rfl, hrest⟩
  · rw [inFull, hroot, if_neg (by simp), hsegments] at hfull
    obtain ⟨hkey, rfl⟩ := List.cons.inj hfull
    obtain rfl := Segment.name.inj hkey
    exact ⟨⟨text, .stepsByName, .name key' :: rest', false⟩, by simp [ofSegments, hword], hstart.symm,
      by rw [hsegments]; exact hsense⟩

/-- **Numbers in other spellings.** Take an expression that is read as a path, and another one whose text differs
from that of the first in the spelling of some numbers behind the first segment: behind a dot, between brackets,
or both. None of these numbers has more digits than can be read. Then the other expression is read as a path too,
and in every run both have the same value, or fail for the same reason. -/
theorem respelling_agrees {expression expression' : String} (hinside : Inside expression.toList body)
    (hinside' : Inside expression'.toList body') (hrespells : Relation.ReflTransGen Respells body body') {p : Path}
    (hparse : Path.parse expression = .ok p) :
    (∃ p', Path.parse expression' = .ok p') ∧
      ∀ h run, Agree (evaluate h run expression) (evaluate h run expression') := by
  obtain ⟨hreads, hbegins, -⟩ := (Path.parse_iff_reads hinside).mp hparse
  obtain ⟨segments', hreads', hhead, hsense⟩ := reads_of_respells hrespells hreads
  obtain ⟨p', hof, hroot, hsegments⟩ :=
    Path.exists_ofSegments_of_sense hbegins hhead hsense (String.ofList body')
  obtain ⟨hbegins', hfull', htext'⟩ := Path.ofSegments_eq_ok.mp hof
  have hparse' : Path.parse expression' = .ok p' :=
    (Path.parse_iff_reads hinside').mpr ⟨hfull'.symm ▸ hreads', hbegins', htext'⟩
  refine ⟨⟨p', hparse'⟩, fun h run => ?_⟩
  rw [evaluate_of_parse hparse, evaluate_of_parse hparse']
  exact path_agree h run hroot hsegments

/-- A position behind a dot can be put between brackets, and an index behind a dot, one after the other. -/
theorem shelf_respelled :
    Inside "\x7b\x7binput.rows.1[0]\x7d\x7d".toList "input.rows.1[0]".toList ∧
      Inside "\x7b\x7b input.rows[1].0\x7d\x7d".toList "input.rows[1].0".toList ∧
      Relation.ReflTransGen Respells "input.rows.1[0]".toList "input.rows[1].0".toList ∧
      Path.parse "\x7b\x7binput.rows.1[0]\x7d\x7d"
        = .ok ⟨"input.rows.1[0]", .input, [.name "rows", .name "1", .index 0], true⟩ ∧
      evaluate shelf 0 "\x7b\x7b input.rows[1].0\x7d\x7d" = .ok (.int 5) := by
  have hinside : Inside "\x7b\x7binput.rows.1[0]\x7d\x7d".toList "input.rows.1[0]".toList :=
    unwrap_iff.mp (by decide)
  have hinside' : Inside "\x7b\x7b input.rows[1].0\x7d\x7d".toList "input.rows[1].0".toList :=
    unwrap_iff.mp (by decide)
  have hparse : Path.parse "\x7b\x7binput.rows.1[0]\x7d\x7d"
      = .ok ⟨"input.rows.1[0]", .input, [.name "rows", .name "1", .index 0], true⟩ := by decide
  have hshort : ∀ n ≤ 1, n < 10 ^ Json.maxDigits := fun n hn =>
    calc n < 10 ^ 1 := by omega
      _ ≤ 10 ^ Json.maxDigits := Nat.pow_le_pow_right (by decide) (by decide)
  have hdotted : ∀ n, SpellsNumber n ([] ++ '.' :: ([] ++ Nat.toDigits 10 n)) (.name (toString n)) :=
    fun n => .dotted (by simp) (by simp)
  have hone : Respells ("input.rows".toList ++ (['.', '1'] ++ "[0]".toList))
      ("input.rows".toList ++ (indexText 1 ++ "[0]".toList)) :=
    .number (hshort 1 (by decide)) rfl (by decide) (by decide) (hdotted 1) .bracketed (.bracket _)
  have hzero : Respells ("input.rows[1]".toList ++ (indexText 0 ++ []))
      ("input.rows[1]".toList ++ (['.', '0'] ++ [])) :=
    .number (hshort 0 (by decide)) rfl (by decide) (by decide) .bracketed (hdotted 0) (.ends (by simp))
  have hrespells : Relation.ReflTransGen Respells "input.rows.1[0]".toList "input.rows[1].0".toList :=
    (Relation.ReflTransGen.single hone).tail hzero
  obtain ⟨-, hagree⟩ := respelling_agrees hinside hinside' hrespells hparse
  exact ⟨hinside, hinside', hrespells, hparse, (hagree shelf 0).symm.eq_ok rfl⟩

/-- A number with a leading zero is another key than the number without. -/
example :
    evaluate [.start (.ofFields [("01", .int 5)])] 0 "\x7b\x7binput.01\x7d\x7d" = .ok (.int 5) ∧
      evaluate [.start (.ofFields [("01", .int 5)])] 0 "\x7b\x7binput[01]\x7d\x7d"
        = .error (.unresolved "input[01]" (.noProperty "1" "input" ["01"])) :=
  ⟨rfl, rfl⟩

end Switchboard.Template
