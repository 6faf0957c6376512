import Switchboard.Config.Load
import Switchboard.Proofs.Yaml.Reader

/-!
Settings that are written as JSON.

* `readMembers_common` — a text that both notations know gives the members that JSON reads in it, in their order and
  with their values;
* `readMembers_differs` — not every JSON text is such a text.

The loader reads JSON as YAML. `Yaml.Common.IsDocument` says what is common to both: any nesting of lists and objects,
laid out over lines and with spaces, strings with escapes, and numbers that have an exponent only with a sign and behind
a fraction. A tab between the parts of a text is none of it, and makes the settings unreadable.
-/
namespace Switchboard.Config

open Json (Numeral)
open Yaml.Common

/-- A text of settings that both notations know is read alike by both. -/
theorem readMembers_common {text : String} {ms : List (Key × Value)} (h : IsDocument text.toList ms) (path : Files.Path) :
    Json.parse text.toList = .ok (.object ms) ∧ readMembers path text = .ok ms := by
  have hread : Yaml.read .spaced text = .ok (.object ms) := by simpa using h.read_eq
  exact ⟨h.parse_eq, by rw [readMembers, hread]⟩

/-- The number of a port, as it is written. -/
def portNumeral : Numeral := ⟨false, "4000".toList, none, none⟩

theorem isDocument_port : IsDocument "\x7b\"port\": 4000\x7d\n".toList [(.text "port", .int 4000)] := by
  have hbody : Body "port".toList "port".toList := by
    refine .plain ?_ ?_ ?_ ?_ ?_ (.plain ?_ ?_ ?_ ?_ ?_ (.plain ?_ ?_ ?_ ?_ ?_ (.plain ?_ ?_ ?_ ?_ ?_ .nil))) <;> decide
  have hname : IsName "port".toList [] "port".toList := ⟨hbody, by simp, by decide⟩
  have hwhole : Json.IsWhole portNumeral.whole := ⟨⟨by decide, List.all_eq_true.mp (by decide)⟩, by decide⟩
  have hvalue : Writes "4000".toList (.value (.int 4000)) :=
    .number (.integer ⟨rfl, rfl⟩ hwhole) (fun _ => by decide) (.integer (n := portNumeral) ⟨rfl, rfl⟩)
  have hnothing : IsGap [] := by simp [IsGap]
  have hspace : IsGap [' '] := by simp [IsGap]
  have hline : IsGap ['\n'] := by simp [IsGap]
  exact ⟨[], _, ['\n'], rfl, hnothing, .object hnothing (.lastMember hname hspace hvalue hnothing), hline⟩

/-- Settings of one port. -/
theorem readMembers_common_port :
    IsDocument "\x7b\"port\": 4000\x7d\n".toList [(.text "port", .int 4000)] ∧
      Json.parse "\x7b\"port\": 4000\x7d\n".toList = .ok (.object [(.text "port", .int 4000)]) ∧
      readMembers ⟨"/", ["settings.json"]⟩ "\x7b\"port\": 4000\x7d\n" = .ok [(.text "port", .int 4000)] :=
  ⟨isDocument_port, readMembers_common isDocument_port ⟨"/", ["settings.json"]⟩⟩

/-- Whether JSON read the settings of one port. -/
def isPort (port : Int) : Except Json.ReadError Value → Bool
  | .ok (.object [(.text name, .int n)]) => name == "port" && n == port
  | _ => false

theorem eq_of_isPort {port : Int} {read : Except Json.ReadError Value} (h : isPort port read = true) :
    read = .ok (.object [(.text "port", .int port)]) := by
  unfold isPort at h
  split at h
  · simp only [Bool.and_eq_true, beq_iff_eq] at h
    rw [h.1, h.2]
  · cases h

/-- Whether settings could not be read for their form. -/
def isMalformed : Except LoadError (List (Key × Value)) → Bool
  | .error (.malformed (.fault _)) => true
  | _ => false

theorem exists_of_isMalformed {read : Except LoadError (List (Key × Value))} (h : isMalformed read = true) :
    ∃ fault, read = .error (.malformed (.fault fault)) := by
  unfold isMalformed at h
  split at h
  · exact ⟨_, rfl⟩
  · cases h

/-- A tab in front of a name is nothing to JSON, and too much for settings. -/
theorem readMembers_differs :
    Json.parse "\x7b\t\"port\": 4000\x7d".toList = .ok (.object [(.text "port", .int 4000)]) ∧
      ∃ fault, readMembers ⟨"/", ["settings.json"]⟩ "\x7b\t\"port\": 4000\x7d" = .error (.malformed (.fault fault)) :=
  ⟨eq_of_isPort (by decide +kernel), exists_of_isMalformed (by decide +kernel)⟩

end Switchboard.Config
