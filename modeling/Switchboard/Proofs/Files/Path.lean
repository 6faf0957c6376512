import Switchboard.Files.Path
import Switchboard.Proofs.Text.Blank

/-!
Paths that are written and read again.

* `IsRead` — paths as reading makes them: one of three roots, and parts that are no empty texts, no single
  dots and without slashes (`isRead_read`);
* `read_text` — such a path is read from its own text.

The text of a path need not be the one that it was read from: slashes and dots that say nothing are gone.
-/
namespace Switchboard.Files.Path

/-- A path as reading makes it. -/
structure IsRead (p : Path) : Prop where
  root : p.root = "" ∨ p.root = "/" ∨ p.root = "//"
  parts : ∀ part ∈ p.parts, part ≠ "" ∧ part ≠ "." ∧ '/' ∉ part.toList

/-- The root of a text with a number of slashes at its start. -/
def rootOf (slashes : Nat) : String :=
  if slashes = 2 then "//" else if slashes = 0 then "" else "/"

/-- The parts of a text. -/
def partsOf (cs : List Char) : List String :=
  ((Text.splitOn (· = '/') cs).map String.ofList).filter fun p => p != "" && p != "."

theorem read_eq (s : String) :
    read s = ⟨rootOf (s.toList.takeWhile (· = '/')).length, partsOf s.toList⟩ := rfl

theorem isRead_read (s : String) : (read s).IsRead := by
  rw [read_eq]
  refine ⟨?_, fun part hpart => ?_⟩
  · rw [rootOf]
    split_ifs <;> simp
  · obtain ⟨hpiece, hkept⟩ := List.mem_filter.mp hpart
    obtain ⟨piece, hmem, rfl⟩ := List.mem_map.mp hpiece
    obtain ⟨hempty, hdot⟩ : String.ofList piece ≠ "" ∧ String.ofList piece ≠ "." := by
      simpa using hkept
    have hslash : '/' ∉ piece := fun h => by simpa using Text.isSep_of_mem_splitOn hmem '/' h
    exact ⟨hempty, hdot, by simpa using hslash⟩

/-- A slash in front of a text adds no part. -/
theorem partsOf_slash (cs : List Char) : partsOf ('/' :: cs) = partsOf cs := by
  obtain ⟨first, rest, hsplit, -, -⟩ := Text.splitOn_spec (· = '/') cs
  simp [partsOf, Text.splitOn, hsplit]

/-- The parts of a path are those of its text. -/
theorem IsRead.partsOf_join {p : Path} (h : p.IsRead) :
    partsOf (Text.join "/" p.parts).toList = p.parts := by
  cases hparts : p.parts with
  | nil => rfl
  | cons first rest =>
    have hcut : Text.splitOn (· = '/') (Text.join "/" p.parts).toList = p.parts.map String.toList :=
      @Text.splitOn_join '/' p.parts (by simp [hparts]) fun part hpart => (h.parts part hpart).2.2
    have hall : (p.parts.map String.toList).map String.ofList = p.parts := by simp
    rw [← hparts, partsOf, hcut, hall, List.filter_eq_self]
    intro part hpart
    obtain ⟨hempty, hdot, -⟩ := h.parts part hpart
    simp [hempty, hdot]

/-- The text of the parts does not start with a slash. -/
theorem IsRead.takeWhile_join {p : Path} (h : p.IsRead) :
    (Text.join "/" p.parts).toList.takeWhile (· = '/') = [] := by
  cases hparts : p.parts with
  | nil => rfl
  | cons first rest =>
    obtain ⟨hempty, -, hslash⟩ := h.parts first (by simp [hparts])
    obtain ⟨c, cs, hfirst⟩ := List.exists_cons_of_ne_nil (mt String.toList_eq_nil_iff.mp hempty)
    have hstart : ∃ others, (Text.join "/" (first :: rest)).toList = first.toList ++ others := by
      cases rest with
      | nil => exact ⟨[], by simp [Text.join]⟩
      | cons second others =>
        exact ⟨'/' :: (Text.join "/" (second :: others)).toList, by simp [Text.join]⟩
    obtain ⟨others, hothers⟩ := hstart
    have hc : c ≠ '/' := fun hc => hslash (by simp [hfirst, hc])
    simp [hothers, hfirst, hc]

/-- A path that was read is read again from its text. -/
theorem read_text {p : Path} (h : p.IsRead) : read p.text = p := by
  obtain ⟨root, parts⟩ := p
  rw [text]
  split
  · next hempty =>
    obtain ⟨rfl, rfl⟩ : root = "" ∧ parts = [] := by simpa using hempty
    rfl
  · have hroot := h.root
    have hparts := h.partsOf_join
    have hstart := h.takeWhile_join
    rw [read_eq, String.toList_append]
    rcases hroot with rfl | rfl | rfl
    · simp [hstart, hparts, rootOf]
    · simp [hstart, hparts, rootOf, partsOf_slash]
    · simp [hstart, hparts, rootOf, partsOf_slash]

end Switchboard.Files.Path
