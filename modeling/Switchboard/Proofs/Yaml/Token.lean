import Switchboard.Proofs.Yaml.Lexeme

/-!
The tokens of a text that both notations know.

* `Spelled` — the tokens of a part of a document;
* `Scanner.At` — where the scanner stands: inside some brackets, with no block open and nothing that has to be a key;
* `Scanner.At.step` — one step passes over a gap and takes the token behind it;
* `Scanner.At.open`, `close`, `comma`, `quoted`, `plain`, `name` — the tokens, and where the scanner stands behind them;
* `Common.Writes.isScanned` — whole parts, by induction on how they are written;
* `Common.IsDocument.tokens_eq` — the tokens of a document.

A name is a string until its colon is met, and the mark of a key is put in front of it only then. For this its place is
remembered, on the same line and not too far back, which is what `Scanner.Reaches.key` says of a step.
-/
namespace Switchboard.Yaml

open Json (Part)

/-- The tokens of a part of a document, all of whose collections stand in brackets. -/
inductive Spelled : List Token → Part → Prop where
  | plain {text : String} {v : Value} (h : (classify text).Means text v) : Spelled [.scalar text true] (.value v)
  | quoted {text : String} : Spelled [.scalar text false] (.value (.str text))
  | emptyList : Spelled [.flowSequenceStart, .flowSequenceEnd] (.value (.list []))
  | list {ts : List Token} {vs : List Value} (h : Spelled ts (.items vs)) :
      Spelled (.flowSequenceStart :: (ts ++ [.flowSequenceEnd])) (.value (.list vs))
  | emptyObject : Spelled [.flowMappingStart, .flowMappingEnd] (.value (.object []))
  | object {ts : List Token} {ms : List (Key × Value)} (h : Spelled ts (.members ms)) :
      Spelled (.flowMappingStart :: (ts ++ [.flowMappingEnd])) (.value (.object (Members.ofList ms)))
  | lastItem {ts : List Token} {v : Value} (h : Spelled ts (.value v)) : Spelled ts (.items [v])
  | item {ts rest : List Token} {v : Value} {vs : List Value} (h : Spelled ts (.value v))
      (hrest : Spelled rest (.items vs)) :
      Spelled (ts ++ .comma :: rest) (.items (v :: vs))
  | lastMember {key : String} {ts : List Token} {v : Value} (h : Spelled ts (.value v)) :
      Spelled (.key :: .scalar key false :: .value :: ts) (.members [(.text key, v)])
  | member {key : String} {ts rest : List Token} {v : Value} {ms : List (Key × Value)} (h : Spelled ts (.value v))
      (hrest : Spelled rest (.members ms)) :
      Spelled (.key :: .scalar key false :: .value :: (ts ++ .comma :: rest)) (.members ((.text key, v) :: ms))

namespace Scanner

/-- A scanner stands in front of a text inside some brackets. No block is open, and nothing has to be a key. -/
structure At (level : Nat) (cs : List Char) (s : Scanner) : Prop where
  rest : s.cursor.rest = cs
  level : s.level = level
  spaced : s.cursor.dialect = .spaced
  indent : s.indent = -1
  outer : s.outer = []
  optional : ∀ k ∈ s.keys, k.2.required = false

/-- A scanner takes some tokens, at least one character for each step, and stands where another one does. -/
def Runs (s s' : Scanner) : Prop :=
  ∃ k, k + s'.cursor.rest.length ≤ s.cursor.rest.length ∧ ∀ fuel, run (fuel + k) s = run fuel s'

/-- Between two states of a scanner some tokens were added. -/
structure Scans (ts : List Token) (s s' : Scanner) : Prop where
  runs : Runs s s'
  tokens : s'.tokens = s.tokens ++ ts

section
variable {s s' s'' t : Scanner} {level : Nat} {cs gap rest : List Char} {d : Char} {ts ts' : List Token}

theorem Runs.trans (h : Runs s s') (h' : Runs s' s'') : Runs s s'' := by
  obtain ⟨k, hk, hrun⟩ := h
  obtain ⟨k', hk', hrun'⟩ := h'
  exact ⟨k' + k, by omega, fun fuel => by rw [← Nat.add_assoc, hrun, hrun']⟩

theorem Scans.trans (h : Scans ts s s') (h' : Scans ts' s' s'') : Scans (ts ++ ts') s s'' where
  runs := h.runs.trans h'.runs
  tokens := by rw [h'.tokens, h.tokens, List.append_assoc]

/-! ### One step -/

/-- Where nothing has to be a key, no key is missing its colon. -/
theorem At.dropKey (h : s.At level cs) :
    ∃ keys, s.dropKey = .ok { s with keys } ∧ ∀ k ∈ keys, k.2.required = false := by
  rw [Scanner.dropKey]
  cases hkey : s.keys.lookup s.level with
  | none => exact ⟨s.keys, rfl, h.optional⟩
  | some k =>
    obtain ⟨before, after, hkeys, -⟩ := List.lookup_eq_some_iff.mp hkey
    have hrequired : k.required = false := h.optional (s.level, k) (by simp [hkeys])
    refine ⟨s.keys.filter fun key => key.1 != s.level, ?_, fun key hmem => ?_⟩
    · simp only [hrequired]
      rfl
    · exact h.optional key (List.mem_of_mem_filter hmem)

/-- A key that is remembered stands in front of the others. -/
theorem At.saveKey (h : s.At level cs) :
    ∃ keys, s.saveKey = .ok { s with keys } ∧ (∀ k ∈ keys, k.2.required = false) ∧
      (s.keyAllowed = true → ∃ k more, keys = (s.level, k) :: more ∧ k.position = s.tokens.length ∧
        k.index = s.cursor.index ∧ k.line = s.cursor.line) := by
  rw [Scanner.saveKey]
  split
  · obtain ⟨keys, hdrop, hoptional⟩ := h.dropKey
    have hcolumn : decide (s.indent = s.column) = false := by
      rw [h.indent, column]
      exact decide_eq_false (by omega)
    simp only [hdrop]
    refine ⟨_, rfl, ?_, fun _ => ⟨_, keys, rfl, rfl, rfl, rfl⟩⟩
    refine List.forall_mem_cons.mpr ⟨?_, hoptional⟩
    exact (congrArg (s.inBlock && ·) hcolumn).trans (Bool.and_false _)
  · next hnot => exact ⟨s.keys, rfl, h.optional, fun hallowed => absurd hallowed hnot⟩

/-- A scanner has passed over a gap. A key on this line that is not too far away is still one. -/
structure Reaches (s s' : Scanner) : Prop where
  tokens : s'.tokens = s.tokens
  allowed : s.level ≠ 0 → s'.keyAllowed = s.keyAllowed
  shorter : s'.cursor.rest.length ≤ s.cursor.rest.length
  key : ∀ {k : PossibleKey} {more : List (Nat × PossibleKey)}, s.keys = (s.level, k) :: more →
    k.line = s'.cursor.line → s'.cursor.index - k.index ≤ keyLimit → ∃ more', s'.keys = (s.level, k) :: more'

theorem At.closeBlocks (h : s.At level cs) (column : Int) : s.closeBlocks column = s := by
  rw [Scanner.closeBlocks, h.outer, unwind]
  split
  · dsimp only
    rw [List.append_nil, ← h.outer]
  · rfl

theorem At.dropStaleKeys (h : s.At level cs) : ∃ keys, s.dropStaleKeys = .ok { s with keys } ∧
    (∀ k ∈ keys, k ∈ s.keys) ∧ ∀ {k : PossibleKey} {more : List (Nat × PossibleKey)}, s.keys = (s.level, k) :: more →
      k.line = s.cursor.line → s.cursor.index - k.index ≤ keyLimit → ∃ more', keys = (s.level, k) :: more' := by
  rw [Scanner.dropStaleKeys, if_neg fun hstale => by
    obtain ⟨k, hk, hrequired⟩ := List.any_eq_true.mp hstale
    simp [h.optional k hk] at hrequired]
  -- a key goes stale with its line or with the distance
  refine ⟨_, rfl, fun k hk => List.mem_of_mem_filter hk, fun {k more} hkeys hline hnear => ?_⟩
  rw [hkeys, List.filter_cons_of_pos]
  · exact ⟨_, rfl⟩
  · simp [hline, hnear]

/-- Up to the next token a gap is passed over. -/
theorem At.skip (h : s.At level (gap ++ rest)) (hgap : Common.IsGap gap)
    (hends : ∀ d, rest.head? = some d → EndsGap d) :
    ∃ s₁ s₂, skipToToken (s.cursor.rest.length + 1) s = s₁ ∧ s₁.dropStaleKeys = .ok s₂ ∧
      s₂.closeBlocks s₂.column = s₂ ∧ s₂.At level rest ∧ Reaches s s₂ ∧ Cursor.Past gap s.cursor s₂.cursor := by
  have hfuel : gap.length < s.cursor.rest.length + 1 := by
    rw [h.rest, List.length_append]
    omega
  obtain ⟨c, allowed, hskip, hc, hpast, hallowed⟩ := skipToToken_gap hgap h.rest h.spaced hends hfuel
  have h₁ : ({ s with cursor := c, keyAllowed := allowed } : Scanner).At level rest :=
    { rest := hc, level := h.level, spaced := hpast.dialect.trans h.spaced, indent := h.indent, outer := h.outer,
      optional := h.optional }
  obtain ⟨keys, hdrop, hmem, hkey⟩ := h₁.dropStaleKeys
  have h₂ : ({ s with cursor := c, keyAllowed := allowed, keys } : Scanner).At level rest :=
    { h₁ with optional := fun k hk => h.optional k (hmem k hk) }
  refine ⟨_, _, hskip, hdrop, h₂.closeBlocks _, h₂, ⟨rfl, hallowed, ?_, hkey⟩, hpast⟩
  simp only [hc, h.rest, List.length_append]
  omega

theorem run_succ (fuel : Nat) (s : Scanner) : run (fuel + 1) s =
    match (skipToToken (s.cursor.rest.length + 1) s).dropStaleKeys with
    | .error e => ((skipToToken (s.cursor.rest.length + 1) s).tokens, some e)
    | .ok s =>
      if (s.closeBlocks s.column).cursor.rest.isEmpty then
        match (s.closeBlocks s.column).finish with
        | .error e => ((s.closeBlocks s.column).tokens, some e)
        | .ok s => (s.tokens, none)
      else
        match (s.closeBlocks s.column).takeToken with
        | .error e => ((s.closeBlocks s.column).tokens, some e)
        | .ok s => run fuel s := by
  -- the equation that `rw [run]` would derive unfolds the taking of tokens as well
  delta run
  exact rfl

/-- A step passes over a gap and takes the token behind it. -/
theorem At.step (h : s.At level (gap ++ d :: rest)) (hgap : Common.IsGap gap) (hd : EndsGap d) :
    ∃ s', s'.At level (d :: rest) ∧ Reaches s s' ∧ Cursor.Past gap s.cursor s'.cursor ∧
      ∀ t, s'.takeToken = .ok t → t.cursor.rest.length < s'.cursor.rest.length → Runs s t := by
  have hends : ∀ e, (d :: rest).head? = some e → EndsGap e := fun e he => Option.some.inj he ▸ hd
  obtain ⟨s₁, s', hskip, hdrop, hclose, h', hreaches, hpast⟩ := h.skip hgap hends
  refine ⟨s', h', hreaches, hpast, fun t htoken hshorter => ⟨1, ?_, fun fuel => ?_⟩⟩
  · have := hreaches.shorter
    omega
  · have hempty : s'.cursor.rest.isEmpty = false := by rw [h'.rest]; rfl
    rw [run_succ, hskip, hdrop]
    simp only [hclose, hempty, htoken]
    rfl

/-- Behind a document only blanks are left. -/
theorem At.run_end (h : s.At level gap) (hgap : Common.IsGap gap) (fuel : Nat) :
    run (fuel + 1) s = (s.tokens, none) := by
  have h : s.At level (gap ++ []) := by rwa [List.append_nil]
  obtain ⟨s₁, s', hskip, hdrop, hclose, h', hreaches, -⟩ := h.skip hgap (by simp)
  obtain ⟨keys, hkeys, -⟩ := h'.dropKey
  have hempty : s'.cursor.rest.isEmpty = true := by rw [h'.rest]; rfl
  have hfinish : s'.finish = .ok { s' with keys } := by rw [finish, h'.closeBlocks, hkeys]
  rw [run_succ, hskip, hdrop]
  simp only [hclose, hempty, hfinish, hreaches.tokens]
  rfl

/-! ### Marks -/

/-- The opening brackets. -/
def openers : List (Char × Token) := [('[', .flowSequenceStart), ('\x7b', .flowMappingStart)]

/-- The closing brackets. -/
def enders : List (Char × Token) := [(']', .flowSequenceEnd), ('\x7d', .flowMappingEnd)]

theorem isAtMark_of_ne {c : Cursor} {m : Char} (h : c.rest = d :: rest) (hd : d ≠ m) :
    c.isAtMark [m, m, m] = false := by
  refine Cursor.isAtMark_eq_false fun e he => ?_
  rw [h] at he
  exact Option.some.inj he ▸ hd

theorem takeToken_opener {token : Token} (hrest : s.cursor.rest = d :: rest) (hmark : (d, token) ∈ openers) :
    s.takeToken = s.openFlow token := by
  simp only [openers, List.mem_cons, Prod.mk.injEq, List.not_mem_nil, or_false] at hmark
  obtain ⟨rfl, rfl⟩ | ⟨rfl, rfl⟩ := hmark <;>
    simp [takeToken, Cursor.here_of_rest hrest, isAtMark_of_ne hrest]

theorem takeToken_ender {token : Token} (hrest : s.cursor.rest = d :: rest) (hmark : (d, token) ∈ enders) :
    s.takeToken = s.closeFlow token := by
  simp only [enders, List.mem_cons, Prod.mk.injEq, List.not_mem_nil, or_false] at hmark
  obtain ⟨rfl, rfl⟩ | ⟨rfl, rfl⟩ := hmark <;>
    simp [takeToken, Cursor.here_of_rest hrest, isAtMark_of_ne hrest]

theorem takeToken_comma (hrest : s.cursor.rest = ',' :: rest) : s.takeToken = s.takeComma := by
  simp [takeToken, Cursor.here_of_rest hrest, isAtMark_of_ne hrest]

theorem takeToken_colon (hrest : s.cursor.rest = ':' :: rest) (hlevel : s.level ≠ 0) :
    s.takeToken = s.takeColon := by
  have hblock : s.inBlock = false := decide_eq_false hlevel
  simp [takeToken, Cursor.here_of_rest hrest, isAtMark_of_ne hrest, hblock]

theorem takeToken_quote (hrest : s.cursor.rest = '"' :: rest) :
    s.takeToken = s.takeKeyPart takeQuoted fun text => .scalar text false := by
  simp [takeToken, Cursor.here_of_rest hrest, isAtMark_of_ne hrest]

/-- A mark is passed over; nothing has to be a key behind it. -/
theorem At.mark {keys : List (Nat × PossibleKey)} (h : s.At level (d :: rest))
    (hoptional : ∀ k ∈ keys, k.2.required = false) (token : Token) (allowed : Bool) (level' : Nat) :
    ({ ({ s with keys } : Scanner).mark 1 allowed token with level := level' } : Scanner).At level' rest ∧
      (s.cursor.forward 1).rest.length < s.cursor.rest.length := by
  obtain ⟨hpast, hnext⟩ := Cursor.past_next h.rest
  refine ⟨?_, (congrArg List.length hnext).trans_lt (by simp [h.rest])⟩
  exact { rest := hnext, level := rfl, spaced := hpast.dialect.trans h.spaced, indent := h.indent, outer := h.outer,
          optional := hoptional }

/-- An opening bracket leads one level down, where a key can start. -/
theorem At.open {token : Token} (h : s.At level (gap ++ d :: rest)) (hgap : Common.IsGap gap)
    (hmark : (d, token) ∈ openers) : ∃ s', Scans [token] s s' ∧ s'.At (level + 1) rest ∧ s'.keyAllowed = true := by
  obtain ⟨s₁, h₁, hreaches, -, hruns⟩ := h.step hgap ((by decide : ∀ p ∈ openers, EndsGap p.1) _ hmark)
  obtain ⟨keys, hsave, hoptional, -⟩ := h₁.saveKey
  have htoken : s₁.takeToken = .ok { ({ s₁ with keys } : Scanner).mark 1 true token with level := s₁.level + 1 } := by
    rw [takeToken_opener h₁.rest hmark, openFlow, hsave]
    rfl
  obtain ⟨hlast, hshorter⟩ := h₁.mark hoptional token true (s₁.level + 1)
  exact ⟨_, ⟨hruns _ htoken hshorter, congrArg (· ++ [token]) hreaches.tokens⟩, h₁.level ▸ hlast, rfl⟩

/-- A closing bracket leads one level up. -/
theorem At.close {token : Token} (h : s.At (level + 1) (gap ++ d :: rest)) (hgap : Common.IsGap gap)
    (hmark : (d, token) ∈ enders) : ∃ s', Scans [token] s s' ∧ s'.At level rest := by
  obtain ⟨s₁, h₁, hreaches, -, hruns⟩ := h.step hgap ((by decide : ∀ p ∈ enders, EndsGap p.1) _ hmark)
  obtain ⟨keys, hdrop, hoptional⟩ := h₁.dropKey
  have hblock : ({ s₁ with keys } : Scanner).inBlock = false := by simp [inBlock, h₁.level]
  have htoken : s₁.takeToken = .ok { ({ s₁ with keys } : Scanner).mark 1 false token with level := s₁.level - 1 } := by
    rw [takeToken_ender h₁.rest hmark, closeFlow, hdrop]
    simp only [bind, Except.bind, hblock]
    rfl
  obtain ⟨hlast, hshorter⟩ := h₁.mark hoptional token false (s₁.level - 1)
  have hlevel : s₁.level - 1 = level := congrArg (· - 1) h₁.level
  exact ⟨_, ⟨hruns _ htoken hshorter, congrArg (· ++ [token]) hreaches.tokens⟩, hlevel ▸ hlast⟩

/-- Behind a comma a key can start. -/
theorem At.comma (h : s.At level (gap ++ ',' :: rest)) (hgap : Common.IsGap gap) :
    ∃ s', Scans [.comma] s s' ∧ s'.At level rest ∧ s'.keyAllowed = true := by
  obtain ⟨s₁, h₁, hreaches, -, hruns⟩ := h.step hgap (by decide)
  obtain ⟨keys, hdrop, hoptional⟩ := h₁.dropKey
  have htoken : s₁.takeToken = .ok (({ s₁ with keys } : Scanner).mark 1 true .comma) := by
    rw [takeToken_comma h₁.rest, takeComma, hdrop]
    rfl
  obtain ⟨hlast, hshorter⟩ := h₁.mark hoptional .comma true s₁.level
  exact ⟨_, ⟨hruns _ htoken hshorter, congrArg (· ++ [Token.comma]) hreaches.tokens⟩, h₁.level ▸ hlast, rfl⟩

/-! ### Scalars and names -/

/-- A string. Where it may be a key, its place is remembered. -/
theorem At.quoted {body key : List Char} (h : s.At level (gap ++ '"' :: (body ++ '"' :: rest)))
    (hgap : Common.IsGap gap) (hbody : Common.Body body key) :
    ∃ s', Scans [.scalar (String.ofList key) false] s s' ∧ s'.At level rest ∧
      (level ≠ 0 → s.keyAllowed = true → ∃ k more, s'.keys = (s'.level, k) :: more ∧ k.position = s.tokens.length ∧
        k.line = s'.cursor.line ∧ s'.cursor.index = k.index + (body.length + 2)) := by
  obtain ⟨s₁, h₁, hreaches, -, hruns⟩ := h.step hgap (by decide)
  obtain ⟨keys, hsave, hoptional, hkey⟩ := h₁.saveKey
  obtain ⟨c, htake, hc, hpast⟩ := takeQuoted_body hbody h₁.spaced h₁.rest
  have htoken : s₁.takeToken = .ok { ({ s₁ with keys } : Scanner).push (.scalar (String.ofList key) false) with
      cursor := c, keyAllowed := false } := by
    rw [takeToken_quote h₁.rest, takeKeyPart, hsave]
    simp only [bind, Except.bind, htake]
    rfl
  have hshorter : c.rest.length < s₁.cursor.rest.length := by
    simp only [hc, h₁.rest, List.length_cons, List.length_append]
    omega
  refine ⟨_, ⟨hruns _ htoken hshorter, congrArg (· ++ [Token.scalar (String.ofList key) false]) hreaches.tokens⟩, ?_, ?_⟩
  · exact { rest := hc, level := h₁.level, spaced := hpast.dialect.trans h₁.spaced, indent := h₁.indent,
            outer := h₁.outer, optional := hoptional }
  · intro hlevel hallowed
    have hallowed₁ : s₁.keyAllowed = true := (hreaches.allowed (h.level ▸ hlevel)).trans hallowed
    obtain ⟨k, more, hkeys, hposition, hindex, hline⟩ := hkey hallowed₁
    have hplace : k.position = s.tokens.length := hposition.trans (congrArg List.length hreaches.tokens)
    refine ⟨k, more, hkeys, hplace, hline.trans (hpast.line ?_).symm, ?_⟩
    · simp only [List.forall_mem_cons, List.forall_mem_append]
      exact ⟨rfl, fun d hd => (hbody.inLine d hd).2, rfl, by simp⟩
    · exact hpast.index.trans (by rw [hindex]; simp)

/-- A name with its colon. The mark of the key is put in front of it when the colon is met. -/
theorem At.name {name gap₁ key : List Char}
    (h : s.At (level + 1) (gap ++ '"' :: (name ++ '"' :: (gap₁ ++ ':' :: rest))))
    (hgap : Common.IsGap gap) (hname : Common.IsName name gap₁ key) (hallowed : s.keyAllowed = true) :
    ∃ s', Scans [.key, .scalar (String.ofList key) false, .value] s s' ∧ s'.At (level + 1) rest := by
  obtain ⟨s₁, hscans, h₁, hkey⟩ := h.quoted hgap hname.body
  obtain ⟨k, more, hkeys, hposition, hline, hindex⟩ := hkey (Nat.succ_ne_zero level) hallowed
  have hgap₁ : Common.IsGap gap₁ := fun d hd => .inl (hname.spaces d hd)
  obtain ⟨s₂, h₂, hreaches, hpast, hruns⟩ := h₁.step hgap₁ (by decide)
  -- the colon is on the line of the name, and near
  have hline₂ : s₂.cursor.line = s₁.cursor.line :=
    hpast.line fun d hd => by rw [hname.spaces d hd]; rfl
  have hnear : s₂.cursor.index - k.index ≤ keyLimit := by
    have := hname.near
    rw [hpast.index, hindex]
    omega
  obtain ⟨more', hkeys₂⟩ := hreaches.key hkeys (hline.trans hline₂.symm) hnear
  have hlookup : s₂.keys.lookup s₂.level = some k := by
    rw [hkeys₂, h₁.level, h₂.level]
    simp
  let keyed : Scanner :=
    ({ s₂ with keys := s₂.keys.filter fun key => key.1 != s₂.level } : Scanner).insertAt k.position .key
  have hkeyed : keyed.At (level + 1) (':' :: rest) :=
    { h₂ with optional := fun key hmem => h₂.optional key (List.mem_of_mem_filter hmem) }
  have hblock : keyed.inBlock = false := by simp [inBlock, hkeyed.level]
  have htoken : s₂.takeToken = .ok (keyed.mark 1 false .value) := by
    rw [takeToken_colon h₂.rest (by simp [h₂.level]), takeColon, hlookup]
    show Except.ok ((if keyed.inBlock then _ else keyed).mark 1 false .value) = _
    rw [hblock]
    rfl
  obtain ⟨hlast, hshorter⟩ := hkeyed.mark hkeyed.optional .value false keyed.level
  refine ⟨_, ⟨hscans.runs.trans (hruns _ htoken hshorter), ?_⟩, hkeyed.level ▸ hlast⟩
  have htokens : s₂.tokens = s.tokens ++ [.scalar (String.ofList key) false] := hreaches.tokens.trans hscans.tokens
  have hinsert : keyed.tokens = s.tokens ++ [.key, .scalar (String.ofList key) false] := by
    show s₂.tokens.take k.position ++ Token.key :: s₂.tokens.drop k.position = _
    rw [htokens, hposition, List.take_left, List.drop_left]
  exact (congrArg (· ++ [Token.value]) hinsert).trans (List.append_assoc _ _ _)

/-- A text that is taken as a plain scalar between brackets. -/
structure IsPlainScalar (cs : List Char) : Prop where
  plain : ∀ d ∈ cs, IsPlain d
  head : ∃ d rest, d ∉ ['-', '&', '*', '!', '|', '>', '\x27', '"', '%', '@', '\x60', '.'] ∧
    (cs = d :: rest ∨ cs = '-' :: d :: rest)

theorem isAtMark_of_second {c : Cursor} {m e : Char} (h : c.rest = d :: e :: rest) (he : e ≠ m) :
    c.isAtMark [m, m, m] = false := by
  refine Bool.eq_false_iff.mpr fun hmark => ?_
  obtain ⟨more, hmore⟩ := Text.startsWith_iff.mp (Bool.and_eq_true_iff.mp hmark).1
  rw [h] at hmore
  exact he (List.cons.inj (List.cons.inj hmore).2).1.symm

theorem takeToken_plain (hrest : s.cursor.rest = cs ++ rest) (h : IsPlainScalar cs) :
    s.takeToken = s.takePlainToken := by
  obtain ⟨d, more, hd, rfl | rfl⟩ := h.head
  · obtain ⟨hword, hmarks⟩ := h.plain d List.mem_cons_self
    simp only [List.mem_cons, List.not_mem_nil, or_false, not_or] at hd hmarks
    have hstart : s.startsPlain = true := by
      simp [startsPlain, Cursor.here_of_rest hrest, hword, hd, hmarks]
    simp [takeToken, Cursor.here_of_rest hrest, isAtMark_of_ne hrest, hd, hmarks, hstart]
  · obtain ⟨hword, -⟩ := h.plain d (by simp)
    simp only [List.mem_cons, List.not_mem_nil, or_false, not_or] at hd
    have hpeek : s.cursor.peek 1 = d := Cursor.peek_one_of_rest hrest
    have hstart : s.startsPlain = true := by
      simp [startsPlain, Cursor.here_of_rest hrest, hpeek, hword]
    have hdash : s.cursor.isAtMark ['-', '-', '-'] = false := isAtMark_of_second hrest hd.1
    have hdot : s.cursor.isAtMark ['.', '.', '.'] = false := isAtMark_of_ne hrest (by decide)
    simp [takeToken, Cursor.here_of_rest hrest, hdash, hdot, hpeek, hword, hstart]

/-- A plain scalar, with the blanks behind it. -/
theorem At.plain {gap' : List Char} (h : s.At (level + 1) (gap ++ (cs ++ (gap' ++ d :: rest))))
    (hgap : Common.IsGap gap) (hcs : IsPlainScalar cs) (hgap' : Common.IsGap gap') (hd : d ∈ closers) :
    ∃ s', Scans [.scalar (String.ofList cs) true] s s' ∧ s'.At (level + 1) (d :: rest) := by
  have hne : cs ≠ [] := by
    obtain ⟨f, others, -, rfl | rfl⟩ := hcs.head <;> simp
  have hstep : ∃ s', s'.At (level + 1) (cs ++ (gap' ++ d :: rest)) ∧ Reaches s s' ∧
      Cursor.Past gap s.cursor s'.cursor ∧
      ∀ t, s'.takeToken = .ok t → t.cursor.rest.length < s'.cursor.rest.length → Runs s t := by
    obtain ⟨e, more, rfl⟩ := List.exists_cons_of_ne_nil hne
    exact h.step hgap (hcs.plain e List.mem_cons_self).endsGap
  obtain ⟨s₁, h₁, hreaches, -, hruns⟩ := hstep
  obtain ⟨keys, hsave, hoptional, -⟩ := h₁.saveKey
  obtain ⟨c, broken, htake, hc, hpast⟩ := takePlain_append h₁.spaced hne hcs.plain hgap' h₁.rest hd s₁.indent
  have hblock : ({ s₁ with keys } : Scanner).inBlock = false := by simp [inBlock, h₁.level]
  have htoken : s₁.takeToken = .ok { ({ s₁ with keys } : Scanner).push (.scalar (String.ofList cs) true) with
      cursor := c, keyAllowed := broken } := by
    rw [takeToken_plain h₁.rest hcs, takePlainToken, hsave]
    simp only [bind, Except.bind, hblock, Bool.not_false, htake]
    rfl
  have hshorter : c.rest.length < s₁.cursor.rest.length := by
    have hpos : 0 < cs.length := List.length_pos_of_ne_nil hne
    simp only [hc, h₁.rest, List.length_cons, List.length_append]
    omega
  refine ⟨_, ⟨hruns _ htoken hshorter, congrArg (· ++ [Token.scalar (String.ofList cs) true]) hreaches.tokens⟩, ?_⟩
  exact { rest := hc, level := h₁.level, spaced := hpast.dialect.trans h₁.spaced, indent := h₁.indent,
          outer := h₁.outer, optional := hoptional }

/-- Brackets around nothing but blanks. -/
theorem At.empty {opening closing : Token} {d' : Char} {inner : List Char}
    (h : s.At level (gap ++ d :: (inner ++ d' :: rest)))
    (hgap : Common.IsGap gap) (hinner : Common.IsGap inner) (hopening : (d, opening) ∈ openers)
    (hclosing : (d', closing) ∈ enders) : ∃ s', Scans [opening, closing] s s' ∧ s'.At level rest := by
  obtain ⟨s₁, hopen, h₁, -⟩ := h.open hgap hopening
  obtain ⟨s₂, hclose, h₂⟩ := h₁.close hinner hclosing
  exact ⟨s₂, hopen.trans hclose, h₂⟩

/-- Brackets around a part that can be taken. -/
theorem At.enclosed {opening closing : Token} {d d' : Char} {inner : List Char} {P : List Token → Prop}
    (h : s.At level (gap ++ d :: (inner ++ d' :: rest))) (hgap : Common.IsGap gap) (hopening : (d, opening) ∈ openers)
    (hclosing : (d', closing) ∈ enders)
    (hinner : ∀ {s' : Scanner}, s'.At (level + 1) (inner ++ d' :: rest) → s'.keyAllowed = true →
      ∃ ts s'' gap', P ts ∧ Scans ts s' s'' ∧ Common.IsGap gap' ∧ s''.At (level + 1) (gap' ++ d' :: rest)) :
    ∃ ts s', P ts ∧ Scans (opening :: (ts ++ [closing])) s s' ∧ s'.At level rest := by
  obtain ⟨s₁, hopen, h₁, hallowed⟩ := h.open hgap hopening
  obtain ⟨ts, s₂, gap', hts, hscans, hgap', h₂⟩ := hinner h₁ hallowed
  obtain ⟨s₃, hclose, h₃⟩ := h₂.close hgap' hclosing
  exact ⟨ts, s₃, hts, hopen.trans (hscans.trans hclose), h₃⟩

end

end Scanner

/-! ### Whole parts -/

open Scanner (openers enders)

section
variable {cs : List Char} {v : Value} {part : Part}

theorem isPlainScalar_number {n : Json.Numeral} (h : Number n cs) : Scanner.IsPlainScalar cs where
  plain d hd := by
    have hnumeric : ∀ d ∈ numeric, IsPlain d := List.all_iff_forall_prop.mp (by decide)
    exact hnumeric d (mem_numeric h.written d hd)
  head := by
    have hnumeric : ∀ d ∈ numeric, Text.isDigit d = true →
        d ∉ ['-', '&', '*', '!', '|', '>', '\x27', '"', '%', '@', '\x60', '.'] :=
      List.all_iff_forall_prop.mp (by decide)
    obtain ⟨d, rest, hd, hcs⟩ := h.written.head
    exact ⟨d, rest, hnumeric d (mem_numeric_of_isDigit hd) hd, hcs⟩

theorem isPlainScalar_word {word : String} (h : (word, v) ∈ Common.words) : Scanner.IsPlainScalar word.toList := by
  simp only [Common.words, List.mem_cons, Prod.mk.injEq, List.not_mem_nil, or_false] at h
  obtain ⟨rfl, -⟩ | ⟨rfl, -⟩ | ⟨rfl, -⟩ := h
  · exact ⟨List.all_iff_forall_prop.mp (by decide), 'n', "ull".toList, by decide, .inl rfl⟩
  · exact ⟨List.all_iff_forall_prop.mp (by decide), 't', "rue".toList, by decide, .inl rfl⟩
  · exact ⟨List.all_iff_forall_prop.mp (by decide), 'f', "alse".toList, by decide, .inl rfl⟩

/-- The words mean the same in both notations. -/
theorem means_word {word : String} (h : (word, v) ∈ Common.words) : (classify word).Means word v := by
  simp only [Common.words, List.mem_cons, Prod.mk.injEq, List.not_mem_nil, or_false] at h
  obtain ⟨rfl, rfl⟩ | ⟨rfl, rfl⟩ | ⟨rfl, rfl⟩ := h
  · exact .null
  · exact .bool rfl
  · exact .bool rfl

/-- How a part of a document is taken between brackets: a value in front of what can stand behind it, the items and
the members in front of the bracket that closes them. -/
def IsScanned (cs : List Char) : Part → Prop
  | .value v => ∀ {level : Nat} {gap gap' rest : List Char} {d : Char} {s : Scanner},
      s.At (level + 1) (gap ++ (cs ++ (gap' ++ d :: rest))) → Common.IsGap gap → Common.IsGap gap' → d ∈ closers →
      ∃ ts s' gap'', Spelled ts (.value v) ∧ Scanner.Scans ts s s' ∧ Common.IsGap gap'' ∧
        s'.At (level + 1) (gap'' ++ d :: rest)
  | .items vs => ∀ {level : Nat} {gap rest : List Char} {s : Scanner},
      s.At (level + 1) (gap ++ (cs ++ ']' :: rest)) → Common.IsGap gap →
      ∃ ts s' gap', Spelled ts (.items vs) ∧ Scanner.Scans ts s s' ∧ Common.IsGap gap' ∧
        s'.At (level + 1) (gap' ++ ']' :: rest)
  | .members ms => ∀ {level : Nat} {gap rest : List Char} {s : Scanner},
      s.At (level + 1) (gap ++ (cs ++ '}' :: rest)) → Common.IsGap gap → s.keyAllowed = true →
      ∃ ts s' gap', Spelled ts (.members ms) ∧ Scanner.Scans ts s s' ∧ Common.IsGap gap' ∧
        s'.At (level + 1) (gap' ++ '}' :: rest)

section
variable {level : Nat} {gap inner rest : List Char} {s : Scanner}

theorem IsScanned.list {vs : List Value} (h : IsScanned cs (.items vs)) (hinner : Common.IsGap inner)
    (hs : s.At level (gap ++ ('[' :: (inner ++ cs ++ [']']) ++ rest))) (hgap : Common.IsGap gap) :
    ∃ ts s', Spelled ts (.value (.list vs)) ∧ Scanner.Scans ts s s' ∧ s'.At level rest := by
  simp only [List.cons_append, List.append_assoc, List.nil_append] at hs
  rw [← List.append_assoc inner] at hs
  obtain ⟨ts, s', hts, hscans, hs'⟩ := hs.enclosed (P := fun ts => Spelled ts (.items vs)) hgap
    (by decide : ('[', Token.flowSequenceStart) ∈ openers) (by decide : (']', Token.flowSequenceEnd) ∈ enders)
    fun {s'} hs' _ => h (List.append_assoc inner cs _ ▸ hs') hinner
  exact ⟨_, s', .list hts, hscans, hs'⟩

theorem IsScanned.object {ms : List (Key × Value)} (h : IsScanned cs (.members ms)) (hinner : Common.IsGap inner)
    (hs : s.At level (gap ++ ('{' :: (inner ++ cs ++ ['}']) ++ rest))) (hgap : Common.IsGap gap) :
    ∃ ts s', Spelled ts (.value (.object (Members.ofList ms))) ∧ Scanner.Scans ts s s' ∧ s'.At level rest := by
  simp only [List.cons_append, List.append_assoc, List.nil_append] at hs
  rw [← List.append_assoc inner] at hs
  obtain ⟨ts, s', hts, hscans, hs'⟩ := hs.enclosed (P := fun ts => Spelled ts (.members ms)) hgap
    (by decide : ('\x7b', Token.flowMappingStart) ∈ openers) (by decide : ('\x7d', Token.flowMappingEnd) ∈ enders)
    fun {s'} hs' hallowed => h (List.append_assoc inner cs _ ▸ hs') hinner hallowed
  exact ⟨_, s', .object hts, hscans, hs'⟩

theorem exists_spelled_emptyObject (hinner : Common.IsGap inner)
    (hs : s.At level (gap ++ ('{' :: (inner ++ ['}']) ++ rest))) (hgap : Common.IsGap gap) :
    ∃ ts s', Spelled ts (.value (.object [])) ∧ Scanner.Scans ts s s' ∧ s'.At level rest := by
  simp only [List.cons_append, List.append_assoc, List.nil_append] at hs
  obtain ⟨s', hscans, hs'⟩ := hs.empty hgap hinner (by decide : ('\x7b', Token.flowMappingStart) ∈ openers)
    (by decide : ('\x7d', Token.flowMappingEnd) ∈ enders)
  exact ⟨_, s', .emptyObject, hscans, hs'⟩

end

/-- A part that both notations know is cut into the tokens of what it stands for. -/
theorem Common.Writes.isScanned (h : Common.Writes cs part) : IsScanned cs part := by
  have hnil : Common.IsGap [] := by simp [Common.IsGap]
  induction h with
  | word hword =>
    intro level gap gap' rest d s hs hgap hgap' hd
    obtain ⟨s', hscans, hs'⟩ := hs.plain hgap (isPlainScalar_word hword) hgap' hd
    rw [String.ofList_toList] at hscans
    exact ⟨_, s', [], .plain (means_word hword), hscans, hnil, hs'⟩
  | number hn hshort hv =>
    intro level gap gap' rest d s hs hgap hgap' hd
    obtain ⟨s', hscans, hs'⟩ := hs.plain hgap (isPlainScalar_number hn) hgap' hd
    exact ⟨_, s', [], .plain (hn.means hv hshort), hscans, hnil, hs'⟩
  | string hbody =>
    intro level gap gap' rest d s hs hgap hgap' hd
    simp only [List.cons_append, List.append_assoc, List.nil_append] at hs
    obtain ⟨s', hscans, hs', -⟩ := hs.quoted hgap hbody
    exact ⟨_, s', gap', .quoted, hscans, hgap', hs'⟩
  | emptyList hinner =>
    intro level gap gap' rest d s hs hgap hgap' hd
    simp only [List.cons_append, List.append_assoc, List.nil_append] at hs
    obtain ⟨s', hscans, hs'⟩ := hs.empty hgap hinner (by decide : ('[', Token.flowSequenceStart) ∈ openers)
      (by decide : (']', Token.flowSequenceEnd) ∈ enders)
    exact ⟨_, s', gap', .emptyList, hscans, hgap', hs'⟩
  | list hinner _ ih =>
    intro level gap gap' rest d s hs hgap hgap' hd
    obtain ⟨ts, s', hts, hscans, hs'⟩ := ih.list hinner hs hgap
    exact ⟨ts, s', gap', hts, hscans, hgap', hs'⟩
  | emptyObject hinner =>
    intro level gap gap' rest d s hs hgap hgap' hd
    obtain ⟨ts, s', hts, hscans, hs'⟩ := exists_spelled_emptyObject hinner hs hgap
    exact ⟨ts, s', gap', hts, hscans, hgap', hs'⟩
  | object hinner _ ih =>
    intro level gap gap' rest d s hs hgap hgap' hd
    obtain ⟨ts, s', hts, hscans, hs'⟩ := ih.object hinner hs hgap
    exact ⟨ts, s', gap', hts, hscans, hgap', hs'⟩
  | lastItem _ hback ih =>
    intro level gap rest s hs hgap
    simp only [List.append_assoc] at hs
    obtain ⟨ts, s', gap', hts, hscans, hgap', hs'⟩ := ih hs hgap hback (by decide)
    exact ⟨ts, s', gap', .lastItem hts, hscans, hgap', hs'⟩
  | item _ hback hfront _ ih ihrest =>
    intro level gap rest s hs hgap
    simp only [List.cons_append, List.append_assoc] at hs
    obtain ⟨ts, s₁, gap₁, hts, hscans, hgap₁, hs₁⟩ := ih hs hgap hback (by decide)
    obtain ⟨s₂, hcomma, hs₂, -⟩ := hs₁.comma hgap₁
    obtain ⟨ts', s', gap', hts', hscans', hgap', hs'⟩ := ihrest hs₂ hfront
    exact ⟨_, s', gap', .item hts hts', hscans.trans (hcomma.trans hscans'), hgap', hs'⟩
  | lastMember hname hfront _ hback ih =>
    intro level gap rest s hs hgap hallowed
    simp only [List.cons_append, List.append_assoc] at hs
    obtain ⟨s₁, hkey, hs₁⟩ := hs.name hgap hname hallowed
    obtain ⟨ts, s', gap', hts, hscans, hgap', hs'⟩ := ih hs₁ hfront hback (by decide)
    exact ⟨_, s', gap', .lastMember hts, hkey.trans hscans, hgap', hs'⟩
  | member hname hfront _ hback hfront' _ ih ihrest =>
    intro level gap rest s hs hgap hallowed
    simp only [List.cons_append, List.append_assoc] at hs
    obtain ⟨s₁, hkey, hs₁⟩ := hs.name hgap hname hallowed
    obtain ⟨ts, s₂, gap₂, hts, hscans, hgap₂, hs₂⟩ := ih hs₁ hfront hback (by decide)
    obtain ⟨s₃, hcomma, hs₃, hallowed₃⟩ := hs₂.comma hgap₂
    obtain ⟨ts', s', gap', hts', hscans', hgap', hs'⟩ := ihrest hs₃ hfront' hallowed₃
    exact ⟨_, s', gap', .member hts hts', hkey.trans (hscans.trans (hcomma.trans hscans')), hgap', hs'⟩

/-- The text of an object outside all brackets. -/
theorem Common.Writes.scan_object {ms : List (Key × Value)} {gap rest : List Char} {level : Nat} {s : Scanner}
    (h : Common.Writes cs (.value (.object ms))) (hs : s.At level (gap ++ (cs ++ rest))) (hgap : Common.IsGap gap) :
    ∃ ts s', Spelled ts (.value (.object ms)) ∧ Scanner.Scans ts s s' ∧ s'.At level rest := by
  cases h with
  | word hword => simp [Common.words] at hword
  | number _ _ hv => cases hv
  | emptyObject hinner => exact exists_spelled_emptyObject hinner hs hgap
  | object hinner hmembers => exact IsScanned.object hmembers.isScanned hinner hs hgap

/-- A document that both notations know is cut into the tokens of its object. -/
theorem Common.IsDocument.tokens_eq {ms : List (Key × Value)} (h : Common.IsDocument cs ms) :
    ∃ ts, Spelled ts (.value (.object ms)) ∧ tokens .spaced cs = (ts, none) := by
  have hprintable : cs.all isPrintable = true := List.all_eq_true.mpr h.printable
  obtain ⟨front, body, back, hcs, hfront, hbody, hback⟩ := h
  have hstart : (Scanner.start .spaced cs).At 0 (front ++ (body ++ back)) :=
    { rest := hcs, level := rfl, spaced := rfl, indent := rfl, outer := rfl, optional := by simp [Scanner.start] }
  obtain ⟨ts, s', hts, ⟨⟨k, hk, hrun⟩, htokens⟩, hs'⟩ := hbody.scan_object hstart hfront
  have hmark : cs.head? ≠ some '\uFEFF' := by
    obtain ⟨more, rfl⟩ := hbody.exists_brace
    rw [hcs]
    cases front with
    | nil => simp
    | cons c front =>
      rcases hfront c List.mem_cons_self with rfl | rfl | rfl <;> simp
  refine ⟨ts, hts, ?_⟩
  obtain ⟨fuel, hfuel⟩ : ∃ fuel, cs.length + 1 = fuel + 1 + k := ⟨cs.length - k, by
    have : k ≤ cs.length := (Nat.le_add_right _ _).trans hk
    omega⟩
  rw [tokens, if_pos hprintable]
  simp only [if_neg hmark, hfuel, hrun, hs'.run_end hback, htokens]
  rfl

end

end Switchboard.Yaml
