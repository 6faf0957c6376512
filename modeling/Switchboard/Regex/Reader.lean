import Switchboard.Regex.Escape
import Switchboard.Text.Identifier

/-!
Reading regular expressions.

`read` gives the tree of a written expression, or the fault that is met first. Faults of the writing
come before those of the expression as a whole: contradictory switches, brackets without partner,
conditions on groups that do not exist, and at last looks behind without a fixed width.
-/
namespace Switchboard.Regex

/-- A member of a set as an element. -/
def elementOf : Nat ⊕ Element → Element
  | .inl code => .range code code
  | .inr e => e

/-- A member of a set that starts with a token. -/
def readMember (switches : Switches) : Token → Reading (Nat ⊕ Element)
  | .plain c => return .inl c.toNat
  | .escaped c => readMemberEscape switches c

/-- The elements of a set up to its closing bracket, which is an element if it comes first. The
bracket that opens the set stands at `start`. -/
def readSet (switches : Switches) (start : Nat) : (fuel : Nat) → (first : Bool) →
    Reading (List Element)
  | 0, _ => return []
  | fuel + 1, first => do
    let some this ← take | complainAt .unterminatedSet start
    if this = .plain ']' && !first then return []
    let low ← readMember switches this
    if ← accept '-' then
      let some that ← take | complainAt .unterminatedSet start
      if that = .plain ']' then return [elementOf low, .range '-'.toNat '-'.toNat]
      let high ← readMember switches that
      let refuse : Reading (List Element) :=
        complain (.badRange this.text that.text) (this.length + 1 + that.length)
      match low, high with
      | .inl low, .inl high =>
        if high < low then refuse
        else return .range low high :: (← readSet switches start fuel false)
      | _, _ => refuse
    else return elementOf low :: (← readSet switches start fuel false)

/-- The number of rounds that digits write; no digits write none. -/
def roundsOf (digits : List Char) : Reading (Option Nat) := do
  if Text.Numeral.maxDigits < digits.length then throw (.longNumber digits.length)
  let n := Text.digitsValue digits
  if 4294967295 ≤ n then throw .tooManyRounds
  return if digits.isEmpty then none else some n

/-- The bounds of a repetition behind an opening brace, if they are bounds; otherwise nothing is
passed. -/
def readBounds : Reading (Option (Nat × Option Nat)) := do
  let before ← get
  if before.rest.head? = some (.plain '}') then return none
  let digits := takeSome Text.isDigit before.rest.length
  let low ← digits
  let high ← if ← accept ',' then digits else pure low
  if ← accept '}' then
    let least ← roundsOf low
    let most ← roundsOf high
    match least, most with
    | some m, some n => if n < m then complainAt .boundsReversed before.position
    | _, _ => pure ()
    return some (least.getD 0, most)
  else
    set before
    return none

/-- The letters of switches to turn on, up to a mark behind them, and that mark; `letters` holds those
passed, latest first. -/
def switchesOn : (fuel : Nat) → (letters : List Char) → (this : Char) → Reading (List Char × Char)
  | 0, letters, this => return (letters, this)
  | fuel + 1, letters, this => do
    let isAlphabet (c : Char) : Bool := c ∈ ['a', 'u']
    if this = 'L' then complain .localeSwitch 0
    if isAlphabet this && letters.any (fun c => isAlphabet c && c != this) then
      complain .rivalSwitches 0
    let letters := this :: letters
    match ← take with
    | none => complain (.absent "-, : or )") 0
    | some (.escaped _) => complain (.absent "-, : or )") 2
    | some (.plain c) =>
      if c ∈ [')', '-', ':'] then return (letters, c)
      else if Switches.isLetter c then switchesOn fuel letters c
      else complain (if Text.isAlphabetic c then .unknownSwitch else .absent "-, : or )") 1

/-- The letters of switches to turn off, up to a colon; `what` is what should have come. -/
def switchesOff (what : String) : (fuel : Nat) → (letters : List Char) → Reading (List Char)
  | 0, letters => return letters
  | fuel + 1, letters => do
    match ← take with
    | none => complain (.absent what) 0
    | some (.escaped _) => complain (.absent what) 2
    | some (.plain c) =>
      if c = ':' && !letters.isEmpty then return letters
      else if !Switches.isLetter c then
        complain (if Text.isAlphabetic c then .unknownSwitch else .absent what) 1
      else if c ∈ ['a', 'u', 'L'] then complain .fixedSwitch 0
      else switchesOff ":" fuel (c :: letters)

/-- The switches of a group, from the first letter or the hyphen on: those for the whole expression,
or those to turn on and off inside of the group. -/
def readSwitches (this : Char) : Reading (List Char ⊕ List Char × List Char) := do
  let fuel := (← get).rest.length + 1
  let (on, mark) ← if this = '-' then pure ([], '-') else switchesOn fuel [] this
  if mark = ')' then return .inl on
  if on.contains 't' then complain (.switchForAll true) 1
  let off ← if mark = '-' then switchesOff "flag" fuel [] else pure []
  if off.contains 't' then complain (.switchForAll false) 1
  if off.any fun c => on.contains c then complain .switchOnAndOff 1
  return .inr (on, off)

/-- The group that a condition is about, by its name or its number. -/
def conditionGroup (name : List Char) : Reading Nat := do
  let complainOf {α : Type} (complaint : Complaint) : Reading α := complain complaint (name.length + 1)
  if Text.isName name then
    match (← get).names.lookup (String.ofList name) with
    | some index => return index
    | none => complainOf (.unknownGroup (String.ofList name))
  else
    match Text.Numeral.readInt 10 name with
    | .ok (.ofNat index) =>
      if index = 0 then complainOf .groupZero
      if 1073741823 ≤ index then complainOf (.noSuchGroup index)
      modify fun s =>
        { s with conditions := s.conditions ++ [(index, s.position - name.length - 1)] }
      return index
    | _ => complainOf (.badNameCharacter (String.ofList name))

/-- The name of a group up to a closing character. -/
def groupName (closing : Char) : Reading (List Char) := do
  let name ← untilClosing closing "group name"
  if Text.isName name then return name
  else complain (.badNameCharacter (String.ofList name)) (name.length + 1)

/-- A reference to a group by its name. -/
def namedReference (switches : Switches) : Reading Pattern := do
  let name ← groupName ')'
  let s ← get
  match s.names.lookup (String.ofList name) with
  | none => complain (.unknownGroup (String.ofList name)) (name.length + 1)
  | some index =>
    if (s.widths.lookup index).isNone then complain .openGroup (name.length + 1)
    demandOutside index
    return .same index switches.casing

/-- Passes a remark up to its closing bracket; it was opened at `start`. -/
def skipRemark (start : Nat) : (fuel : Nat) → Reading Unit
  | 0 => return ()
  | fuel + 1 => do
    match ← take with
    | none => complainAt .unterminatedRemark start
    | some t => if t = .plain ')' then return () else skipRemark start fuel

/-- Passes a remark up to the end of its line. -/
def skipLine : (fuel : Nat) → Reading Unit
  | 0 => return ()
  | fuel + 1 => do
    match ← take with
    | none => return ()
    | some t => if t = .plain '\n' then return () else skipLine fuel

/-- Passes the closing bracket of a group that was opened at `start`. -/
def closeGroup (start : Nat) : Reading Unit := do
  if !(← accept ')') then complainAt .unterminatedGroup start

/-- The greed of a repetition, by the mark behind it. -/
def readGreed : Reading Greed := do
  if ← accept '?' then return .lazy
  else if ← accept '+' then return .possessive
  else return .greedy

/-- Repeats the latest of some items; the mark of the repetition stands at `start`. -/
def repeatLast (start : Nat) (least : Nat) (most : Option Nat) :
    (items : List Pattern) → Reading (List Pattern)
  | [] | .anchor _ :: _ => complainAt .nothingToRepeat start
  | .repeated _ _ _ _ :: _ => complainAt .repeatedRepetition start
  | item :: earlier => do return .repeated least most (← readGreed) item :: earlier

/-- Items one after the other, given latest first. -/
def sequenceOf (items : List Pattern) : Pattern :=
  match items with
  | [] => .empty
  | last :: earlier => earlier.foldl (fun p q => .seq q p) last

/-- The first token of what follows a question mark in a group. -/
def takeMark : Reading Token := do
  match ← take with
  | some t => return t
  | none => complain .unexpectedEnd 0

/-- A blank that a verbose expression passes over. -/
def isFiller (c : Char) : Bool := c ∈ [' ', '\t', '\n', '\r', '\x0b', '\x0c']

mutual

/-- Alternatives up to a closing bracket or the end. The alternatives of the whole expression obey
the switches for it, which stand in the first one. -/
def readAlternatives (whole : Bool) (switches : Switches) : (fuel : Nat) → Reading Pattern
  | 0 => complain .unexpectedEnd 0
  | fuel + 1 => do
    let first ← readItems whole switches fuel []
    if ← accept '|' then
      let scan ← get
      return .alt first (← readFurther (if whole then scan.switches else switches) fuel)
    else return first

/-- The alternatives behind a bar. -/
def readFurther (switches : Switches) : (fuel : Nat) → Reading Pattern
  | 0 => complain .unexpectedEnd 0
  | fuel + 1 => do
    let first ← readItems false switches fuel []
    if ← accept '|' then return .alt first (← readFurther switches fuel) else return first

/-- Items up to a bar, a closing bracket or the end; `items` holds those read, latest first.
`leading` says that switches for the whole expression may stand here. -/
def readItems (leading : Bool) (switches : Switches) : (fuel : Nat) → (items : List Pattern) →
    Reading Pattern
  | 0, _ => complain .unexpectedEnd 0
  | fuel + 1, items => do
    let this? ← peek
    if this? = none || this? = some (.plain '|') || this? = some (.plain ')') then
      return sequenceOf items
    let some this ← take | return sequenceOf items
    let start := (← position) - this.length
    let go (switches : Switches) (items : List Pattern) : Reading Pattern :=
      readItems leading switches fuel items
    if switches.verbose && this.isPlain isFiller then go switches items
    else if switches.verbose && this = .plain '#' then
      skipLine ((← get).rest.length + 1)
      go switches items
    else
      match this with
      | .escaped c => go switches ((← readEscape switches c) :: items)
      | .plain '[' =>
        let negated ← accept '^'
        let elements ← readSet switches start ((← get).rest.length + 1) true
        go switches (.set negated elements switches.casing :: items)
      | .plain '.' => go switches (.any switches.dotAll :: items)
      | .plain '^' =>
        go switches (.anchor (if switches.multiline then .lineStart else .textStart) :: items)
      | .plain '$' =>
        go switches (.anchor (if switches.multiline then .lineEnd else .lastLineEnd) :: items)
      | .plain '*' => go switches (← repeatLast start 0 none items)
      | .plain '+' => go switches (← repeatLast start 1 none items)
      | .plain '?' => go switches (← repeatLast start 0 (some 1) items)
      | .plain '{' =>
        match ← readBounds with
        | some (least, most) => go switches (← repeatLast start least most items)
        | none => go switches (.char '{'.toNat switches.casing :: items)
      | .plain '(' =>
        match ← readGroup (leading && items.isEmpty) switches start fuel with
        | (switches, some p) => go switches (p :: items)
        | (switches, none) => go switches items
      | .plain c => go switches (.char c.toNat switches.casing :: items)

/-- A group that was opened at `start`, with the switches that hold behind it; remarks and switches
are no patterns. -/
def readGroup (leading : Bool) (switches : Switches) (start : Nat) : (fuel : Nat) →
    Reading (Switches × Option Pattern)
  | 0 => complain .unexpectedEnd 0
  | fuel + 1 => do
    let closed (p : Pattern) : Reading (Switches × Option Pattern) := do
      closeGroup start
      return (switches, some p)
    let capture (name : Option (List Char)) : Reading (Switches × Option Pattern) := do
      let index ← openGroup name
      let p ← readAlternatives false switches fuel
      closeGroup start
      modify fun s => { s with widths := (index, p.width s.groupWidth) :: s.widths }
      return (switches, some (.group index p))
    let lookBehind (negated : Bool) : Reading (Switches × Option Pattern) := do
      let outer := (← get).behindFrom
      modify fun s => { s with behindFrom := some (outer.getD s.groups) }
      let p ← readAlternatives false switches fuel
      modify fun s => { s with behindFrom := outer }
      closed (.behind negated 0 p)
    if !(← accept '?') then capture none
    else
      match ← takeMark with
      | .plain ':' => closed (.plain (← readAlternatives false switches fuel))
      | .plain '>' => closed (.atomic (← readAlternatives false switches fuel))
      | .plain '=' => closed (.ahead false (← readAlternatives false switches fuel))
      | .plain '!' => closed (.ahead true (← readAlternatives false switches fuel))
      | .plain '<' =>
        match ← takeMark with
        | .plain '=' => lookBehind false
        | .plain '!' => lookBehind true
        | t => complain (.unknownExtension ("<" ++ t.text)) (t.length + 2)
      | .plain '#' =>
        skipRemark start ((← get).rest.length + 1)
        return (switches, none)
      | .plain 'P' =>
        if ← accept '<' then capture (some (← groupName '>'))
        else if ← accept '=' then return (switches, some (← namedReference switches))
        else
          let t ← takeMark
          complain (.unknownExtension ("P" ++ t.text)) (t.length + 2)
      | .plain '(' =>
        let index ← conditionGroup (← untilClosing ')' "group name")
        demandOutside index
        let yes ← readItems false switches fuel []
        let no ← if ← accept '|' then readItems false switches fuel [] else pure .empty
        if (← peek) = some (.plain '|') then complain .thirdBranch 0
        closed (.ifGroup index yes no)
      | t =>
        match t with
        | .plain c =>
          if c = '-' || Switches.isLetter c then
            match ← readSwitches c with
            | .inl on =>
              if !leading then complainAt .lateSwitches start
              modify fun s => { s with switches := on.foldl (Switches.turn true) s.switches }
              return ((← get).switches, none)
            | .inr (on, off) =>
              closed (.plain (← readAlternatives false (switches.within on off) fuel))
          else complain (.unknownExtension t.text) (t.length + 1)
        | .escaped _ => complain (.unknownExtension t.text) (t.length + 1)

end

/-- The word for a greed. -/
def Greed.word : Greed → String
  | .greedy => "MAX_REPEAT"
  | .lazy => "MIN_REPEAT"
  | .possessive => "POSSESSIVE_REPEAT"

/-- A pattern whose looks behind know how far to go back, if they all have a fixed width. A template
has no repetitions. -/
def Pattern.settle (template : Bool) (groups : Nat → Width) : Pattern → Except Complaint Pattern
  | .seq p q => return .seq (← p.settle template groups) (← q.settle template groups)
  | .alt p q => return .alt (← p.settle template groups) (← q.settle template groups)
  | .group index p => return .group index (← p.settle template groups)
  | .plain p => return .plain (← p.settle template groups)
  | .atomic p => return .atomic (← p.settle template groups)
  | .ahead negated p => return .ahead negated (← p.settle template groups)
  | .behind negated _ p => do
    let width := p.width groups
    if 4294967295 < width.least then throw .looksTooFarBack
    if width.most != some width.least then throw .varyingLookBehind
    return .behind negated width.least (← p.settle template groups)
  | .ifGroup index p q => return .ifGroup index (← p.settle template groups) (← q.settle template groups)
  | .repeated least most greed p => do
    if template then throw (.unsupportedRepetition greed.word)
    return .repeated least most greed (← p.settle template groups)
  | p => return p

/-- The tree of an expression, when its first token comes next. -/
def readWhole : Reading Pattern := do
  refuseDangling
  let p ← readAlternatives true .off (4 * (← get).rest.length + 8)
  let s ← get
  if s.switches.ascii && s.switches.unicode then throw .contradictorySwitches
  if (← peek).isSome then complain .unbalancedBracket 0
  match s.conditions.find? fun (index, _) => s.groups < index with
  | some (index, position) => complainAt (.noSuchGroup index) position
  | none => pure ()
  match p.settle s.switches.template s.groupWidth with
  | .ok p => return p
  | .error complaint => throw (.malformed complaint none)

/-- The tree of an expression. -/
def read (expression : String) : Except Fault Pattern :=
  readWhole.run' (.start expression.toList)

/-- Whether a text is a well-formed expression. -/
def isExpression (s : String) : Except Fault Bool :=
  match read s with
  | .ok _ => .ok true
  | .error (.malformed _ _) => .ok false
  | .error fault => .error fault

end Switchboard.Regex
