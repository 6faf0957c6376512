import Switchboard.Text.Blank

/-!
Uniform resource identifiers: their parts, and references seen from a base.

`Uri.read` takes an identifier apart, `Uri.text` puts it together again, and `Uri.join` gives the
identifier that a reference means where a base is known.
-/
namespace Switchboard.Text

/-- The parts of an identifier, without the marks between them. -/
structure Uri where
  scheme : List Char
  authority : List Char
  path : List Char
  query : List Char
  fragment : List Char
  deriving DecidableEq

namespace Uri

/-- The schemes whose references are relative to a base. -/
def relativeSchemes : List String :=
  ["", "ftp", "http", "gopher", "nntp", "imap", "wais", "file", "https", "shttp", "mms", "prospero",
    "rtsp", "rtsps", "rtspu", "sftp", "svn", "svn+ssh", "ws", "wss"]

/-- The schemes whose identifiers name an authority. -/
def authoritySchemes : List String :=
  ["", "ftp", "http", "gopher", "nntp", "telnet", "imap", "wais", "file", "mms", "https", "shttp",
    "snews", "prospero", "rtsp", "rtsps", "rtspu", "rsync", "svn", "svn+ssh", "sftp", "nfs", "git",
    "git+ssh", "ws", "wss"]

/-- The schemes whose paths may end in parameters behind a semicolon. -/
def parameterSchemes : List String :=
  ["", "ftp", "hdl", "prospero", "http", "imap", "https", "shttp", "rtsp", "rtsps", "rtspu", "sip",
    "sips", "mms", "sftp", "tel"]

/-- Whether a scheme is one of a list. -/
def isAmong (schemes : List String) (scheme : List Char) : Bool :=
  schemes.contains (String.ofList scheme)

/-- A character that schemes are made of. -/
def isSchemeChar (c : Char) : Bool := isLetter c || isDigit c || c ∈ ['+', '-', '.']

/-- The scheme in front of an identifier, in small letters, and what follows its colon. -/
def splitScheme? (cs : List Char) : Option (List Char × List Char) :=
  let scheme := cs.takeWhile (· != ':')
  match cs.drop scheme.length, scheme with
  | _ :: rest, first :: _ =>
    if isLetter first && scheme.all isSchemeChar then some (scheme.map Char.toLower, rest) else none
  | _, _ => none

/-- What stands before and behind the first of a mark. -/
def cutAt (mark : Char) (cs : List Char) : List Char × List Char :=
  let before := cs.takeWhile (· != mark)
  (before, cs.drop (before.length + 1))

/-- The parts of an identifier; one without a scheme has the scheme given. Controls and blanks in
front of it, and tabs and line breaks inside of it, do not count. -/
def read (scheme : List Char) (cs : List Char) : Uri :=
  let cs := (cs.dropWhile fun c => c.toNat ≤ 0x20).filter fun c => !(c ∈ ['\t', '\r', '\n'])
  let (scheme, rest) := (splitScheme? cs).getD (scheme, cs)
  let (authority, rest) := match rest with
    | '/' :: '/' :: rest =>
      let authority := rest.takeWhile fun c => !(c ∈ ['/', '?', '#'])
      (authority, rest.drop authority.length)
    | rest => ([], rest)
  let (rest, fragment) := cutAt '#' rest
  let (path, query) := cutAt '?' rest
  ⟨scheme, authority, path, query, fragment⟩

/-- A part with the mark in front of it, if it is not empty. -/
def marked (mark : Char) (part : List Char) : List Char :=
  if part.isEmpty then [] else mark :: part

/-- The text of an identifier. -/
def text (u : Uri) : List Char :=
  let named := !u.scheme.isEmpty && isAmong authoritySchemes u.scheme
  let hasSlashes := u.path.take 2 = ['/', '/']
  let path :=
    if !u.authority.isEmpty || named || hasSlashes then
      let path := if u.path.isEmpty || u.path.head? = some '/' then u.path else '/' :: u.path
      '/' :: '/' :: u.authority ++ path
    else u.path
  (if u.scheme.isEmpty then [] else u.scheme ++ [':']) ++ path ++ marked '?' u.query
    ++ marked '#' u.fragment

/-- A path without its parameters, which stand behind the first semicolon of its last part, and these
parameters. -/
def splitParameters (scheme path : List Char) : List Char × List Char :=
  if isAmong parameterSchemes scheme then
    let last := (path.reverse.takeWhile (· != '/')).reverse
    let (name, parameters) := cutAt ';' last
    (path.take (path.length - last.length) ++ name, parameters)
  else (path, [])

/-- An identifier without a semicolon that no parameters stand behind. -/
def tidied (u : Uri) : Uri :=
  let (path, parameters) := splitParameters u.scheme u.path
  { u with path := path ++ marked ';' parameters }

/-- Parts of a path with those that name the same or the upper directory worked off; `done` holds
those passed, latest first. -/
def stepAlong (done : List (List Char)) : List (List Char) → List (List Char)
  | [] => done.reverse
  | part :: rest =>
    if part = ['.', '.'] then stepAlong (done.drop 1) rest
    else if part = ['.'] then stepAlong done rest
    else stepAlong (part :: done) rest

/-- Parts of a path without the empty ones between the first and the last. -/
def withoutGaps (parts : List (List Char)) : List (List Char) :=
  match parts with
  | first :: second :: rest =>
    first :: ((second :: rest).dropLast.filter (!·.isEmpty)) ++ [(second :: rest).getLast?.getD []]
  | parts => parts

/-- The path that a relative path means from a base path. -/
def joinPath (base path : List Char) : List Char :=
  let parts := splitOn (· = '/') path
  let parts :=
    if path.head? = some '/' then parts
    else
      let baseParts := splitOn (· = '/') base
      let directory := if baseParts.getLast? = some [] then baseParts else baseParts.dropLast
      withoutGaps (directory ++ parts)
  let walked := stepAlong [] parts
  let isDirectory := [some ['.'], some ['.', '.']].contains parts.getLast?
  let joined := (if isDirectory then walked ++ [[]] else walked).intersperse ['/'] |>.flatten
  if joined.isEmpty then ['/'] else joined

/-- The identifier that a reference means from a base. -/
def join (base reference : List Char) : List Char :=
  if base.isEmpty then reference
  else if reference.isEmpty then base
  else
    let b := read [] base
    let r := read b.scheme reference
    if r.scheme != b.scheme || !isAmong relativeSchemes r.scheme then reference
    else if isAmong authoritySchemes r.scheme && !r.authority.isEmpty then r.tidied.text
    else
      let authority := if isAmong authoritySchemes r.scheme then b.authority else r.authority
      let (path, parameters) := splitParameters r.scheme r.path
      if path.isEmpty && parameters.isEmpty then
        let query := if r.query.isEmpty then b.query else r.query
        text { r with authority := authority, path := b.tidied.path, query := query }
      else
        let joined := joinPath (splitParameters b.scheme b.path).1 path ++ marked ';' parameters
        text { r with authority := authority, path := joined }

/-- An identifier without its fragment, and the fragment. -/
def splitFragment (cs : List Char) : List Char × List Char :=
  if cs.contains '#' then
    let u := read [] cs
    (text { u.tidied with fragment := [] }, u.fragment)
  else (cs, [])

/-- An identifier written in the one way that its parts are put together. -/
def normal (s : String) : String := String.ofList (read [] s.toList).text

end Uri

end Switchboard.Text
