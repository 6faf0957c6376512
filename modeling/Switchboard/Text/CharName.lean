import Switchboard.Text.CharName.Letters
import Switchboard.Text.CharName.Symbols
import Switchboard.Text.Blank

/-!
Characters by name.

`charNamed?` finds the character with a name, such as `EM DASH`. The names of ideographs and of
syllables follow from their numbers; controls and invisible characters go by several names and
abbreviations; all others stand in tables.
-/
namespace Switchboard.Text

/-- The names of controls and of invisible characters, in runs of neighbouring characters: those of
one character have slashes between them. -/
def controlNames : List (Nat × String) :=
  [
    (0x0, "NULL/NUL;START OF HEADING/SOH;START OF TEXT/STX;END OF TEXT/ETX;END OF TRANSMISSION/
      EOT;ENQUIRY/ENQ;ACKNOWLEDGE/ACK;ALERT/BEL;BACKSPACE/BS;CHARACTER TABULATION/HORIZONTAL
      TABULATION/HT/TAB;LINE FEED/NEW LINE/END OF LINE/LF/NL/EOL;LINE TABULATION/VERTICAL
      TABULATION/VT;FORM FEED/FF;CARRIAGE RETURN/CR;SHIFT OUT/LOCKING-SHIFT ONE/SO;SHIFT IN/
      LOCKING-SHIFT ZERO/SI;DATA LINK ESCAPE/DLE;DEVICE CONTROL ONE/DC1;DEVICE CONTROL TWO/DC2;
      DEVICE CONTROL THREE/DC3;DEVICE CONTROL FOUR/DC4;NEGATIVE ACKNOWLEDGE/NAK;SYNCHRONOUS IDLE/
      SYN;END OF TRANSMISSION BLOCK/ETB;CANCEL/CAN;END OF MEDIUM/EOM;SUBSTITUTE/SUB;ESCAPE/ESC;
      INFORMATION SEPARATOR FOUR/FILE SEPARATOR/FS;INFORMATION SEPARATOR THREE/GROUP SEPARATOR/GS;
      INFORMATION SEPARATOR TWO/RECORD SEPARATOR/RS;INFORMATION SEPARATOR ONE/UNIT SEPARATOR/US;
      SP"),
    (0x7f, "DELETE/DEL;PADDING CHARACTER/PAD;HIGH OCTET PRESET/HOP;BREAK PERMITTED HERE/BPH;NO
      BREAK HERE/NBH;INDEX/IND;NEXT LINE/NEL;START OF SELECTED AREA/SSA;END OF SELECTED AREA/ESA;
      CHARACTER TABULATION SET/HORIZONTAL TABULATION SET/HTS;CHARACTER TABULATION WITH
      JUSTIFICATION/HORIZONTAL TABULATION WITH JUSTIFICATION/HTJ;LINE TABULATION SET/VERTICAL
      TABULATION SET/VTS;PARTIAL LINE FORWARD/PARTIAL LINE DOWN/PLD;PARTIAL LINE BACKWARD/PARTIAL
      LINE UP/PLU;REVERSE LINE FEED/REVERSE INDEX/RI;SINGLE SHIFT TWO/SINGLE-SHIFT-2/SS2;SINGLE
      SHIFT THREE/SINGLE-SHIFT-3/SS3;DEVICE CONTROL STRING/DCS;PRIVATE USE ONE/PRIVATE USE-1/PU1;
      PRIVATE USE TWO/PRIVATE USE-2/PU2;SET TRANSMIT STATE/STS;CANCEL CHARACTER/CCH;MESSAGE
      WAITING/MW;START OF GUARDED AREA/START OF PROTECTED AREA/SPA;END OF GUARDED AREA/END OF
      PROTECTED AREA/EPA;START OF STRING/SOS;SINGLE GRAPHIC CHARACTER INTRODUCER/SGC;SINGLE
      CHARACTER INTRODUCER/SCI;CONTROL SEQUENCE INTRODUCER/CSI;STRING TERMINATOR/ST;OPERATING
      SYSTEM COMMAND/OSC;PRIVACY MESSAGE/PM;APPLICATION PROGRAM COMMAND/APC;NBSP"),
    (0xad, "SHY"),
    (0x1a2, "LATIN CAPITAL LETTER GHA;LATIN SMALL LETTER GHA"),
    (0x34f, "CGJ"),
    (0x61c, "ALM"),
    (0x200b, "ZWSP;ZWNJ;ZWJ;LRM;RLM"),
    (0x202a, "LRE;RLE;PDF;LRO;RLO;NNBSP"),
    (0x205f, "MMSP;WJ"),
    (0x2066, "LRI;RLI;FSI;PDI"),
    (0x2118, "WEIERSTRASS ELLIPTIC FUNCTION"),
    (0xfe0e, "VS15;VS16"),
    (0xfeff, "BOM/ZWNBSP/BYTE ORDER MARK")]

/-- The words of a name of a run, given those of the name before it: a digit in front stands for that
many of the latter. -/
def wordsAfter (previous written : List (List Char)) : List (List Char) :=
  match written with
  | (d :: first) :: rest =>
    if isDigit d then previous.take (d.toNat - '0'.toNat) ++ first :: rest else written
  | _ => previous

/-- How far behind the start of a run a name stands, if it is one of the run. -/
def offsetIn? (name : List (List Char)) (previous : List (List Char)) :
    List (List Char) → Option Nat
  | [] => none
  | entry :: rest =>
    let written := words entry
    let full := wordsAfter previous written
    if !written.isEmpty && full = name then some 0 else (offsetIn? name full rest).map (· + 1)

/-- The character with a name, in tables of runs. -/
def lookUpName? (name : List Char) (runs : List (Nat × String)) : Option Nat :=
  runs.findSome? fun (first, names) =>
    (offsetIn? (splitOn (· = ' ') name) [] (splitOn (· = ';') names.toList)).map (first + ·)

/-- The control or invisible character with a name. -/
def controlNamed? (name : List Char) : Option Nat :=
  controlNames.findSome? fun (first, names) =>
    ((splitOn (· = ';') names.toList).findIdx? fun entry =>
      (splitOn (· = '/') entry).any fun written => words written = splitOn (· = ' ') name).map
        (first + ·)

/-- The numbers of the ideographs that are named by their number. -/
def ideographRanges : List (Nat × Nat) :=
  [(0x3400, 0x4dbf), (0x4e00, 0x9fff), (0x20000, 0x2a6df), (0x2a700, 0x2b738), (0x2b740, 0x2b81d),
    (0x2b820, 0x2cea1), (0x2ceb0, 0x2ebe0), (0x30000, 0x3134a)]

/-- The ideograph with a name: the number follows in four or five hexadecimal digits. -/
def ideographNamed? (name : List Char) : Option Nat := do
  let digits ← dropPrefix? "CJK UNIFIED IDEOGRAPH-".toList name
  if digits.length != 4 && digits.length != 5 then none
  let n ← digits.foldlM (fun n c =>
    if 'a' ≤ c && c ≤ 'f' then none else (hexValue? c).map (16 * n + ·)) 0
  if ideographRanges.any fun (low, high) => low ≤ n && n ≤ high then some n else none

/-- The sounds that a syllable starts with, has in its middle, and ends with. -/
def syllableParts : List String × List String × List String :=
  (["G", "GG", "N", "D", "DD", "R", "M", "B", "BB", "S", "SS", "", "J", "JJ", "C", "K", "T", "P", "H"],
    ["A", "AE", "YA", "YAE", "EO", "E", "YEO", "YE", "O", "WA", "WAE", "OE", "YO", "U", "WEO", "WE",
      "WI", "YU", "EU", "YI", "I"],
    ["", "G", "GG", "GS", "N", "NJ", "NH", "D", "L", "LG", "LM", "LB", "LS", "LT", "LP", "LH", "M",
      "B", "BS", "S", "SS", "NG", "J", "C", "K", "T", "P", "H"])

/-- The syllable with a name: its sounds, one after the other. -/
def syllableNamed? (name : List Char) : Option Nat := do
  let sounds ← dropPrefix? "HANGUL SYLLABLE ".toList name
  let (firsts, middles, lasts) := syllableParts
  (List.range firsts.length).findSome? fun i =>
    (List.range middles.length).findSome? fun j =>
      (List.range lasts.length).findSome? fun k =>
        let written := firsts[i]?.getD "" ++ middles[j]?.getD "" ++ lasts[k]?.getD ""
        if written.toList = sounds then some (0xac00 + (i * 21 + j) * 28 + k) else none

/-- The number of the character with a name; small letters count as capitals, except in the names of
ideographs and syllables. -/
def charNamed? (name : List Char) : Option Nat :=
  let capital := name.map Char.toUpper
  (ideographNamed? name).orElse fun _ =>
    (syllableNamed? name).orElse fun _ =>
      (controlNamed? capital).orElse fun _ => lookUpName? capital (letterNames ++ symbolNames)

end Switchboard.Text
