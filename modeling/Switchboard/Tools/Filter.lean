import Switchboard.Tools.Octets

/-!
Small commands that work on lines and bytes: they read their input, or files that they name, and write
what comes of it.
-/
namespace Switchboard.Tools.Filter

/-- What a command is given: the name that it is called by, the files there are, and what it reads
when it names no file. -/
structure Call where
  name : Octets
  read : Octets → Except String Octets
  input : Octets

/-- A failure with a complaint that begins with the name of the command. -/
def Call.failure (c : Call) (status : Int) (why : String) : Outcome :=
  .failure status (c.name ++ ": ".toList ++ Octets.ofText why)

/-- What files hold one after another, with a complaint for each that cannot be read; a dash, or no
file at all, stands for the input. -/
def Call.contents (c : Call) (files : List Octets) : List (Except Octets Octets) :=
  (if files.isEmpty then [['-']] else files).map fun file =>
    if file = ['-'] then .ok c.input
    else (c.read file).mapError fun why =>
      c.name ++ ": ".toList ++ file ++ ": ".toList ++ why.toList ++ ['\n']

/-- A command that turns what its files hold into what it writes. -/
def Call.through (c : Call) (files : List Octets) (f : Octets → Octets) : Outcome :=
  let parts := c.contents files
  let good := parts.filterMap fun
    | .ok data => some data
    | .error _ => none
  let bad := parts.filterMap fun
    | .ok _ => none
    | .error line => some line
  ⟨if bad.isEmpty then 0 else 1, f good.flatten, bad.flatten, 0.0⟩

/-- Lines with a line feed behind each. -/
def unlines (lines : List Octets) : Octets := (lines.map fun l => l ++ ['\n']).flatten

/-- The number that digits write. -/
def number? (cs : Octets) : Option Nat :=
  if !cs.isEmpty && cs.all Text.isDigit then some (Text.digitsValue cs) else none

/-- Options of single letters in front of other arguments. A letter of `valued` takes the rest of its
argument, or the next one, as its value; `waiting` is a letter that waits for the next one. -/
def optionsFrom (valued : List Char) : (waiting : Option Char) → List Octets →
    List (Char × Octets) × List Octets
  | _, [] => ([], [])
  | some c, value :: rest =>
    let (os, files) := optionsFrom valued none rest
    ((c, value) :: os, files)
  | none, ['-', '-'] :: rest => ([], rest)
  | none, ('-' :: c :: more) :: rest =>
    if c ∈ valued then
      if more.isEmpty then optionsFrom valued (some c) rest
      else
        let (os, files) := optionsFrom valued none rest
        ((c, more) :: os, files)
    else
      let (os, files) := optionsFrom valued none rest
      ((c :: more).map (fun c => (c, [])) ++ os, files)
  | none, rest => ([], rest)

/-- The options in front of other arguments. -/
def options (valued : List Char) (args : List Octets) : List (Char × Octets) × List Octets :=
  optionsFrom valued none args

/-! ### Lines and bytes -/

/-- The beginning of a text: so many lines or bytes. -/
def head (c : Call) (args : List Octets) : Outcome :=
  let args := match args with
    | ('-' :: d :: ds) :: rest =>
      if Text.isDigit d then ['-', 'n'] :: (d :: ds) :: rest else args
    | _ => args
  let (os, files) := options ['n', 'c'] args
  let count (value : Octets) : Option (Bool × Nat) := match value with
    | '-' :: ds => (number? ds).map fun n => (true, n)
    | ds => (number? ds).map fun n => (false, n)
  let kept (isBack : Bool) (n size : Nat) : Nat := if isBack then size - n else n
  let starts (n : Nat) (data : Octets) : Octets :=
    let lines := (Text.splitOn (· = '\n') data)
    if lines.length ≤ n then data else unlines (lines.take n)
  match os.reverse with
  | ('c', value) :: _ =>
    match count value with
    | some (isBack, n) => c.through files fun data => data.take (kept isBack n data.length)
    | none => c.failure 1 ("invalid number of bytes: ‘" ++ String.ofList value ++ "’")
  | ('n', value) :: _ =>
    match count value with
    | some (isBack, n) => c.through files fun data => starts (kept isBack n (Octets.lines data).length) data
    | none => c.failure 1 ("invalid number of lines: ‘" ++ String.ofList value ++ "’")
  | _ => c.through files (starts 10)

/-- The end of a text: so many lines or bytes, or all from one of them on. -/
def tail (c : Call) (args : List Octets) : Outcome :=
  let args := match args with
    | ('-' :: d :: ds) :: rest =>
      if Text.isDigit d then ['-', 'n'] :: (d :: ds) :: rest else args
    | _ => args
  let (os, files) := options ['n', 'c'] args
  let dropped (value : Octets) (size : Nat) : Option Nat := match value with
    | '+' :: ds => (number? ds).map fun n => n - 1
    | '-' :: ds => (number? ds).map fun n => size - n
    | ds => (number? ds).map fun n => size - n
  let (unit, value) := os.getLast?.getD ('n', ['1', '0'])
  let ends (data : Octets) : Octets :=
    if unit = 'c' then data.drop ((dropped value data.length).getD 0)
    else
      let lines := Octets.lines data
      let kept := lines.drop ((dropped value lines.length).getD 0)
      if data.getLast? = some '\n' then unlines kept else Octets.join ['\n'] kept
  if (dropped value 0).isNone then
    c.failure 1 ("invalid number of " ++ (if unit = 'c' then "bytes" else "lines") ++ ": ‘"
      ++ String.ofList value ++ "’")
  else c.through files ends

/-- The number of words in a text. -/
def wordCount (data : Octets) : Nat :=
  ((Text.splitOn Octets.isSpace data).filter fun w => !w.isEmpty).length

/-- Counts lines, words, characters and bytes. -/
def count (c : Call) (args : List Octets) : Outcome :=
  let (os, files) := options [] args
  let letters := if os.isEmpty then ['l', 'w', 'c'] else os.map (·.1)
  let counts (data : Octets) : List Nat :=
    [('l', data.count '\n'), ('w', wordCount data),
      ('m', (data.filter fun b => b < '\x80' || '\xc0' ≤ b).length), ('c', data.length)].filterMap
      fun (letter, n) => if letter ∈ letters then some n else none
  let widened (n : Nat) : Octets :=
    let ds := Nat.toDigits 10 n
    List.replicate (7 - ds.length) ' ' ++ ds
  c.through files fun data =>
    let ns := counts data
    (match ns with
      | [n] => Nat.toDigits 10 n
      | ns => Octets.join [' '] (ns.map widened)) ++ ['\n']

/-- Each line backwards. -/
def reversed (c : Call) (args : List Octets) : Outcome :=
  c.through args fun data =>
    Octets.join ['\n'] ((Text.splitOn (· = '\n') data).map fun line =>
      ((Text.Utf8.decodeLenient (Octets.bytes line)).reverse.map fun c =>
        Octets.ofText (String.singleton c)).flatten)

/-- The lines from the last to the first. -/
def upsideDown (c : Call) (args : List Octets) : Outcome :=
  c.through args fun data => unlines (Octets.lines data).reverse

/-- The integer that a line begins with. -/
def leadingNumber (line : Octets) : Int :=
  let (isNegative, ds) := match line.dropWhile Octets.isSpace with
    | '-' :: rest => (true, rest)
    | rest => (false, rest)
  let n : Int := Text.digitsValue (ds.takeWhile Text.isDigit)
  if isNegative then -n else n

/-- Whether one line is not behind another: by their numbers first, if asked for, then by bytes. -/
def inOrder (byNumber : Bool) (a b : Octets) : Bool :=
  let isBefore := a.isAtMost b
  if byNumber then
    let x := leadingNumber a
    let y := leadingNumber b
    x < y || (x = y && isBefore)
  else isBefore

/-- The lines in order. -/
def sorted (c : Call) (args : List Octets) : Outcome :=
  let (os, files) := options ['k', 't'] args
  let has (letter : Char) : Bool := os.any (·.1 = letter)
  c.through files fun data =>
    let lines := (Octets.lines data).mergeSort (inOrder (has 'n'))
    let lines := if has 'r' then lines.reverse else lines
    unlines (if has 'u' then lines.eraseReps else lines)

/-- Lines without those that repeat the one before. -/
def unrepeated (c : Call) (args : List Octets) : Outcome :=
  let (os, files) := options [] args
  let has (letter : Char) : Bool := os.any (·.1 = letter)
  let widened (n : Nat) : Octets :=
    let ds := Nat.toDigits 10 n
    List.replicate (7 - ds.length) ' ' ++ ds ++ [' ']
  c.through files fun data =>
    let groups := (Octets.lines data).splitBy (· = ·)
    let groups := if has 'd' then groups.filter (·.length > 1) else groups
    let groups := if has 'u' then groups.filter (·.length = 1) else groups
    unlines (groups.map fun g =>
      (if has 'c' then widened g.length else []) ++ g.headD [])

/-! ### Characters and fields -/

/-- The bytes that a set of `tr` stands for: escapes, ranges and named classes. -/
def setBytes : (fuel : Nat) → Octets → Octets
  | 0, _ | _, [] => []
  | fuel + 1, cs =>
    let classes : List (String × (Char → Bool)) :=
      [("[:upper:]", fun c => 'A' ≤ c && c ≤ 'Z'), ("[:lower:]", fun c => 'a' ≤ c && c ≤ 'z'),
        ("[:digit:]", Text.isDigit), ("[:alpha:]", Text.isLetter), ("[:space:]", Octets.isSpace),
        ("[:alnum:]", fun c => Text.isLetter c || Text.isDigit c),
        ("[:blank:]", fun c => c = ' ' || c = '\t'),
        ("[:punct:]", fun c => ' ' < c && c < '\x7f' && !(Text.isLetter c || Text.isDigit c))]
    let all := (List.range 256).map Char.ofNat
    match classes.findSome? fun (name, p) =>
        (Text.dropPrefix? name.toList cs).map fun rest => (all.filter p, rest) with
    | some (bytes, rest) => bytes ++ setBytes fuel rest
    | none =>
      match cs with
      | '\\' :: c :: rest =>
        (match c with
          | 'n' => '\n'
          | 't' => '\t'
          | 'r' => '\r'
          | '0' => '\x00'
          | c => c) :: setBytes fuel rest
      | a :: '-' :: b :: rest =>
        (all.filter fun c => a ≤ c && c ≤ b) ++ setBytes fuel rest
      | c :: rest => c :: setBytes fuel rest
      | [] => []

/-- A text in which runs of a byte of a set are cut to one. -/
def squeezed (set : Octets) (data : Octets) : Octets :=
  (data.splitBy (fun a b => a = b && a ∈ set)).flatMap fun run =>
    match run with
    | c :: _ :: _ => if c ∈ set then [c] else run
    | run => run

/-- Replaces, deletes or squeezes bytes. -/
def translated (c : Call) (args : List Octets) : Outcome :=
  let (os, sets) := options [] args
  let has (letter : Char) : Bool := os.any (·.1 = letter)
  let bytes (set : Octets) : Octets := setBytes (set.length + 1) set
  let first := bytes (sets.headD [])
  let first := if has 'c' || has 'C' then
      ((List.range 256).map Char.ofNat).filter (!first.contains ·)
    else first
  match sets with
  | [] => c.failure 1 ("missing operand\nTry '" ++ String.ofList c.name
      ++ " --help' for more information.")
  | [_] =>
    if has 'd' then .success (c.input.filter (!first.contains ·))
    else if has 's' then .success (squeezed first c.input)
    else
      c.failure 1 ("missing operand after ‘" ++ String.ofList (sets.headD [])
        ++ "’\nTwo strings must be given when translating.\nTry '" ++ String.ofList c.name
        ++ " --help' for more information.")
  | _ :: second :: _ =>
    let second := bytes second
    let translate (b : Char) : Char :=
      match first.idxOf? b with
      | some n => (second[n]?).getD (second.getLast?.getD b)
      | none => b
    if has 'd' then .success (squeezed second (c.input.filter (!first.contains ·)))
    else
      let data := c.input.map translate
      .success (if has 's' then squeezed second data else data)

/-- The numbers from one on that a list such as `1,3-5` names, up to a size. -/
def selected (size : Nat) (list : Octets) : List Nat :=
  let parts := (Text.splitOn (· = ',') list).map fun part =>
    let low := part.takeWhile Text.isDigit
    match part.drop low.length with
    | '-' :: high =>
      (if low.isEmpty then 1 else Text.digitsValue low,
        if high.isEmpty then size else Text.digitsValue high)
    | _ => (Text.digitsValue low, Text.digitsValue low)
  (List.range (size + 1)).filter fun n => n != 0 && parts.any fun (a, b) => a ≤ n && n ≤ b

/-- Some bytes or some fields of each line. -/
def cut (c : Call) (args : List Octets) : Outcome :=
  let (os, files) := options ['d', 'f', 'c', 'b'] args
  let value? (letter : Char) : Option Octets := os.lookup letter
  let delimiter := ((value? 'd').bind List.head?).getD '\t'
  let line (l : Octets) : Octets :=
    match value? 'f' with
    | some list =>
      if delimiter ∈ l then
        let parts := Text.splitOn (· = delimiter) l
        Octets.join [delimiter]
          ((selected parts.length list).filterMap fun n => parts[n - 1]?)
      else l
    | none =>
      let list := ((value? 'c').orElse fun _ => value? 'b').getD []
      (selected l.length list).filterMap fun n => l[n - 1]?
  c.through files fun data => unlines ((Octets.lines data).map line)

/-! ### Words and numbers -/

/-- The integer that an argument writes. -/
def integer? (cs : Octets) : Option Int :=
  match cs with
  | '-' :: ds => (number? ds).map fun n => -(n : Int)
  | '+' :: ds => (number? ds).map Int.ofNat
  | ds => (number? ds).map Int.ofNat

/-- The numbers of an arithmetic progression. -/
def sequence (c : Call) (args : List Octets) : Outcome :=
  let (separator, args) := match args with
    | ['-', 's'] :: s :: rest => (s, rest)
    | ('-' :: 's' :: s) :: rest => (s, rest)
    | args => (['\n'], args)
  let (isWide, args) := match args with
    | ['-', 'w'] :: rest => (true, rest)
    | args => (false, args)
  match args.find? fun a => (integer? a).isNone with
  | some wrong =>
    c.failure 1 ("invalid floating point argument: ‘" ++ String.ofList wrong ++ "’\nTry '"
      ++ String.ofList c.name ++ " --help' for more information.")
  | none =>
    let steps (first step last : Int) : Outcome :=
      if step = 0 then c.failure 1 ("invalid Zero increment value: ‘0’\nTry '"
        ++ String.ofList c.name ++ " --help' for more information.")
      else
        let span := if step > 0 then last - first else first - last
        let count := if span < 0 then 0 else (span / step.natAbs).toNat + 1
        let numbers := (List.range count).map fun (n : Nat) => first + step * n
        let width := (numbers.map fun n => (Octets.ofInt n).length).foldl max 0
        let text (n : Int) : Octets :=
          let ds := Octets.ofInt n.natAbs
          let sign : Octets := if n < 0 then ['-'] else []
          sign ++ (if isWide then List.replicate (width - ds.length - sign.length) '0' else []) ++ ds
        .success (if count = 0 then []
          else Octets.join separator (numbers.map text) ++ ['\n'])
    match args.filterMap integer? with
    | [last] => steps 1 1 last
    | [first, last] => steps first 1 last
    | [first, step, last] => steps first step last
    | _ =>
      let hint := "\nTry '" ++ String.ofList c.name ++ " --help' for more information."
      if args.isEmpty then c.failure 1 ("missing operand" ++ hint)
      else c.failure 1 ("extra operand ‘" ++ String.ofList ((args[3]?).getD []) ++ "’" ++ hint)

/-- A path without slashes at its end. -/
def withoutSlashes (path : Octets) : Octets :=
  let short := (path.reverse.dropWhile (· = '/')).reverse
  if short.isEmpty && !path.isEmpty then ['/'] else short

/-- The last name of a path, perhaps without an ending. -/
def lastName (c : Call) (args : List Octets) : Outcome :=
  match args with
  | path :: rest =>
    let path := withoutSlashes path
    let name := if path = ['/'] then path else (path.reverse.takeWhile (· != '/')).reverse
    let ending := rest.headD []
    let shorter := name.take (name.length - ending.length)
    let name := if !shorter.isEmpty && shorter ++ ending = name then shorter else name
    .success (name ++ ['\n'])
  | [] => c.failure 1 ("missing operand\nTry '" ++ String.ofList c.name
      ++ " --help' for more information.")

/-- A path without its last name. -/
def directory (c : Call) (args : List Octets) : Outcome :=
  if args.isEmpty then c.failure 1 ("missing operand\nTry '" ++ String.ofList c.name
      ++ " --help' for more information.")
  else .success (unlines (args.map fun path =>
    let path := withoutSlashes path
    let front := (path.reverse.dropWhile (· != '/')).reverse
    if front.isEmpty then ['.'] else withoutSlashes front))

/-- The commands by name. -/
def commands : List (String × (Call → List Octets → Outcome)) :=
  [("cat", fun c args => c.through (options [] args).2 id),
    ("tee", fun c _ => .success c.input), ("head", head), ("tail", tail), ("wc", count),
    ("rev", reversed), ("tac", upsideDown), ("sort", sorted), ("uniq", unrepeated),
    ("tr", translated), ("cut", cut), ("seq", sequence), ("basename", lastName),
    ("dirname", directory)]

end Switchboard.Tools.Filter
