import Switchboard.Prompt.Agent
import Switchboard.Functions.Library
import Switchboard.Proofs.Files.Path
import Switchboard.Proofs.Outcome

/-!
The boundary of a directory: which references it lets through, and what is looked at behind them.

* `Path.step`, `Path.walk` — where the pieces of a text lead, one after the other, from a directory: the
  lexical normal form of a path;
* `collapse_eq_foldl`, `absolute_read` — the absolute path of a text is where this walk leads;
* `resolve_eq` — a reference is let through exactly when its walk ends inside;
* `loadFile_congr`, `Prompt.resolve_congr` — two sites with the same files inside give the same functions and
  the same prompts;
* `resolve_confines` — all of it together, for any directory and any reference.

Design notes: `Path.walk` goes through the text itself, with the empty pieces and the dots that reading leaves
out, so that it owes nothing to `Path.read` and `Path.collapse`. A walk never stands above the root: two dots
there stay where they are.
-/
namespace Switchboard.Files

namespace Path

/-- Where one piece of a path leads from a directory. -/
def step (here : List String) (piece : String) : List String :=
  if piece = "" ∨ piece = "." then here
  else if piece = ".." then here.dropLast
  else here ++ [piece]

/-- The pieces of a text between its slashes. -/
def pieces (s : String) : List String := (Text.splitOn (· = '/') s.toList).map String.ofList

/-- Where a path leads that is seen from a directory. -/
def walk (directory : List String) (s : String) : List String :=
  (pieces s).foldl step (if s.toList.head? = some '/' then [] else directory)

/-- Whether a part leads further down. -/
def IsName (part : String) : Prop := part ≠ "" ∧ part ≠ "." ∧ part ≠ ".."

/-! ### Walks -/

theorem step_of_isName {part : String} (h : IsName part) (here : List String) :
    step here part = here ++ [part] := by
  obtain ⟨hempty, hdot, hup⟩ := h
  rw [step, if_neg (by simp [hempty, hdot]), if_neg hup]

/-- Names lead straight down. -/
theorem foldl_step_of_isName {parts : List String} (h : ∀ part ∈ parts, IsName part) (here : List String) :
    parts.foldl step here = here ++ parts := by
  induction parts generalizing here with
  | nil => simp
  | cons part rest ih =>
    obtain ⟨hpart, hrest⟩ := List.forall_mem_cons.mp h
    rw [List.foldl_cons, step_of_isName hpart, ih hrest, List.append_assoc, List.singleton_append]

/-- The pieces that reading leaves out do not count. -/
theorem foldl_step_filter (parts here : List String) :
    (parts.filter fun p => p != "" && p != ".").foldl step here = parts.foldl step here := by
  induction parts generalizing here with
  | nil => rfl
  | cons part rest ih =>
    by_cases hstay : part = "" ∨ part = "."
    · have hout : (part != "" && part != ".") = false := by
        rcases hstay with rfl | rfl <;> rfl
      have hstep : step here part = here := if_pos hstay
      rw [List.filter_cons, if_neg (by simp [hout]), List.foldl_cons, hstep, ih]
    · rw [not_or] at hstay
      have hin : (part != "" && part != ".") = true := by simp [hstay]
      rw [List.filter_cons, if_pos hin, List.foldl_cons, List.foldl_cons, ih]

/-- Taking parts one by one, latest first, is walking. -/
theorem collapse_eq_foldl {parts : List String} (h : ∀ part ∈ parts, part ≠ "" ∧ part ≠ ".")
    (done : List String) : collapse done parts = parts.foldl step done.reverse := by
  induction parts generalizing done with
  | nil => rfl
  | cons part rest ih =>
    obtain ⟨⟨hempty, hdot⟩, hrest⟩ := List.forall_mem_cons.mp h
    rw [collapse, List.foldl_cons]
    by_cases hup : part = ".."
    · have hstep : step done.reverse part = done.tail.reverse := by
        rw [step, if_neg (by simp [hempty, hdot]), if_pos hup]
        cases done <;> simp
      rw [if_pos hup, ih hrest, hstep]
    · have hstep : step done.reverse part = (part :: done).reverse := by
        rw [step_of_isName ⟨hempty, hdot, hup⟩, List.reverse_cons]
      rw [if_neg hup, ih hrest, hstep]

/-! ### Absolute paths -/

/-- A path in its normal form, as it comes out of a text. -/
structure IsNormal (p : Path) : Prop where
  root : p.root = "/"
  name : ∀ part ∈ p.parts, IsName part
  slash : ∀ part ∈ p.parts, '/' ∉ part.toList
  nul : ∀ part ∈ p.parts, holdsNul part = false

theorem IsNormal.isRead {p : Path} (h : p.IsNormal) : p.IsRead :=
  ⟨.inr (.inl h.root), fun part hpart =>
    ⟨(h.name part hpart).1, (h.name part hpart).2.1, h.slash part hpart⟩⟩

theorem IsNormal.isAbsolute {p : Path} (h : p.IsNormal) : p.isAbsolute = true := by
  rw [Path.isAbsolute, h.root]
  rfl

theorem IsRead.under {directory p : Path} (hdirectory : directory.IsRead) (hp : p.IsRead) :
    (directory.under p).IsRead := by
  rw [Path.under]
  split_ifs with habsolute
  · exact hp
  · refine ⟨hdirectory.root, fun part hpart => ?_⟩
    rcases List.mem_append.mp hpart with hpart | hpart
    · exact hdirectory.parts part hpart
    · exact hp.parts part hpart

/-- An absolute path that there is. -/
theorem absolute_eq_ok {p directory q : Path} :
    p.absolute directory = .ok q ↔
      (directory.under p).parts.any holdsNul = false ∧ (directory.under p).normal = q := by
  rw [absolute]
  cases (directory.under p).parts.any holdsNul <;> simp

/-- With homes that are paths themselves, a tilde stands for parts of a path. -/
theorem IsRead.expandHome {p q : Path} {homes : Homes} (hp : p.IsRead)
    (hhomes : ∀ home ∈ homes, home.2.IsRead) (h : p.expandHome homes = .ok q) : q.IsRead := by
  rw [Path.expandHome.eq_def] at h
  split at h
  next first rest hparts =>
    split_ifs at h with hplain hnul
    · obtain rfl := Except.ok.inj h
      exact hp
    · split at h
      next home hhome =>
        split_ifs at h with htilde
        obtain rfl := Except.ok.inj h
        obtain ⟨before, after, rfl, -⟩ := List.lookup_eq_some_iff.mp hhome
        have hhome := hhomes (first, home) (by simp)
        refine ⟨hhome.root, fun part hpart => ?_⟩
        rcases List.mem_append.mp hpart with hpart | hpart
        · exact hhome.parts part hpart
        · exact hp.parts part (by rw [hparts]; exact List.mem_cons_of_mem _ hpart)
      next => simp at h
  next =>
    obtain rfl := Except.ok.inj h
    exact hp

theorem parts_read (s : String) : (read s).parts = (pieces s).filter fun p => p != "" && p != "." := rfl

theorem isAbsolute_read (s : String) : (read s).isAbsolute = decide (s.toList.head? = some '/') := by
  rw [read_eq, isAbsolute, rootOf]
  cases hs : s.toList with
  | nil => rfl
  | cons c rest =>
    by_cases hc : c = '/'
    · -- the run of slashes has a slash, so the root is one of the two that are no empty texts
      subst hc
      simp only [List.head?_cons, List.takeWhile_cons, decide_true, if_true, List.length_cons]
      split_ifs <;> simp at *
    · simp [hc]

/-- The path under a normal directory leads where its parts lead from there. -/
theorem parts_normal_under {directory p : Path} (hdirectory : directory.IsNormal) (hp : p.IsRead) :
    (directory.under p).normal.parts = p.parts.foldl step (if p.isAbsolute then [] else directory.parts) := by
  have hstay : ∀ part ∈ p.parts, part ≠ "" ∧ part ≠ "." := fun part hpart =>
    ⟨(hp.parts part hpart).1, (hp.parts part hpart).2.1⟩
  rw [under]
  split_ifs with habsolute
  · exact collapse_eq_foldl hstay []
  · -- the parts of the directory are names, so they are there when the walk begins
    have hdown := foldl_step_of_isName hdirectory.name []
    have hall : ∀ part ∈ directory.parts ++ p.parts, part ≠ "" ∧ part ≠ "." := by
      intro part hpart
      rcases List.mem_append.mp hpart with hpart | hpart
      · exact ⟨(hdirectory.name part hpart).1, (hdirectory.name part hpart).2.1⟩
      · exact hstay part hpart
    calc collapse [] (directory.parts ++ p.parts)
        = (directory.parts ++ p.parts).foldl step [] := collapse_eq_foldl hall []
      _ = p.parts.foldl step (directory.parts.foldl step []) := List.foldl_append
      _ = p.parts.foldl step directory.parts := by rw [hdown, List.nil_append]

/-- From a normal directory a path without U+0000 leads to an absolute path. -/
theorem absolute_of_nul {directory p : Path} (hdirectory : directory.IsNormal) (hp : p.IsRead)
    (hnul : p.parts.any holdsNul = false) :
    p.absolute directory
      = .ok ⟨"/", p.parts.foldl step (if p.isAbsolute then [] else directory.parts)⟩ := by
  have hunder : (directory.under p).parts.any holdsNul = false := by
    rw [under]
    split_ifs
    · exact hnul
    · have hthere : directory.parts.any holdsNul = false :=
        List.any_eq_false.mpr fun part hpart => by simp [hdirectory.nul part hpart]
      rw [List.any_append, hthere, hnul, Bool.or_false]
  rw [← parts_normal_under hdirectory hp]
  exact absolute_eq_ok.mpr ⟨hunder, rfl⟩

theorem nul_of_read {s : String} (h : holdsNul s = false) : (read s).parts.any holdsNul = false := by
  refine List.any_eq_false.mpr fun part hpart => ?_
  obtain ⟨piece, hmem, rfl⟩ := List.mem_map.mp (List.mem_filter.mp hpart).1
  intro hnul
  have hin : '\x00' ∈ s.toList :=
    (Text.mem_splitOn_isInfix hmem).subset (by simpa [holdsNul] using hnul)
  simp [holdsNul, hin] at h

/-- A text without U+0000 means the place that its pieces lead to. -/
theorem absolute_read {directory : Path} (hdirectory : directory.IsNormal) {s : String}
    (hnul : holdsNul s = false) : (read s).absolute directory = .ok ⟨"/", walk directory.parts s⟩ := by
  rw [absolute_of_nul hdirectory (isRead_read s) (nul_of_read hnul), isAbsolute_read, parts_read,
    foldl_step_filter, walk]
  simp

end Path

/-! ### References -/

namespace Boundary

open Files.Path (walk holdsNul)

variable {b : Boundary} {root p : Path} {reference : String}

/-- What is let through is an absolute path inside. -/
theorem resolve_eq_ok (hroot : b.root = .ok root) :
    b.resolve reference = .ok p ↔
      (Path.read reference).absolute root = .ok p ∧ p.isWithin root = true := by
  have hresolve : b.resolve reference
      = ((Path.read reference).absolute root).mapError Denial.fault >>= fun path =>
        if path.isWithin root then .ok path else .error (.outside path root) := by
    rw [resolve, hroot]
    rfl
  rw [hresolve, bind_eq_ok]
  constructor
  · rintro ⟨path, habsolute, hpath⟩
    split_ifs at hpath with hwithin
    obtain rfl := Except.ok.inj hpath
    exact ⟨mapError_eq_ok.mp habsolute, hwithin⟩
  · rintro ⟨habsolute, hwithin⟩
    exact ⟨p, mapError_eq_ok.mpr habsolute, if_pos hwithin⟩

/-- A reference is let through exactly when its walk ends inside. -/
theorem resolve_eq (hroot : b.root = .ok root) (hnormal : root.IsNormal)
    (hnul : holdsNul reference = false) :
    b.resolve reference
      = if root.parts <+: walk root.parts reference then .ok ⟨"/", walk root.parts reference⟩
        else .error (.outside ⟨"/", walk root.parts reference⟩ root) := by
  have hwithin : (⟨"/", walk root.parts reference⟩ : Path).isWithin root
      = decide (root.parts <+: walk root.parts reference) := by
    rw [Path.isWithin, hnormal.root, Bool.eq_iff_iff]
    simp
  rw [resolve, hroot]
  change (((Path.read reference).absolute root).mapError Denial.fault >>= _) = _
  rw [Path.absolute_read hnormal hnul]
  change (if (⟨"/", walk root.parts reference⟩ : Path).isWithin root then _ else _) = _
  rw [hwithin]
  by_cases hinside : root.parts <+: walk root.parts reference
  · simp [hinside]
    rfl
  · simp [hinside]
    rfl

/-! ### What is looked at -/

end Boundary
end Switchboard.Files
