import Switchboard.Text.Blank
import Mathlib.Data.List.DropRight
import Mathlib.Data.List.Infix

/-!
Stripping texts, cutting them at separators and looking for others in them.

* `strip_isInfix`, `mem_splitOn_isInfix` — what is left of a text stands in it;
* `strip_of_ends`, `head?_strip`, `getLast?_strip` — texts without blanks at their ends;
* `strip_concat`, `strip_blanks_append` — a blank at one end makes no difference;
* `strip_append_stripEnd`, `strip_append` — a text that does not end with a blank in front of another one;
* `splitOn_prepend`, `splitOn_append`, `splitOn_append_of_splitOn`, `isSep_of_mem_splitOn` — cutting at a
  separator;
* `splitOn_eq_iff`, `splitOn_join` — and putting together again;
* `startsWith_iff`, `contains_iff` — texts that begin with others, and hold others;
* `takeWhile_append`, `dropWhile_append` — a text up to where something else begins.
-/
namespace Switchboard.Text

/-! ### Stripping -/

theorem strip_isInfix (cs : List Char) : strip cs <:+: cs := by
  have hend : stripEnd (stripStart cs) <+: stripStart cs := by
    rw [stripEnd, ← List.reverse_suffix, List.reverse_reverse]
    exact List.dropWhile_suffix _
  exact hend.isInfix.trans (List.dropWhile_suffix _).isInfix

/-- The blanks at the end are dropped as the library does it. -/
theorem strip_eq (cs : List Char) : strip cs = (stripStart cs).rdropWhile isBlank := rfl

/-- Nothing is stripped from a text that neither begins nor ends with a blank. -/
theorem strip_of_ends {cs : List Char} (hhead : ∀ c, cs.head? = some c → isBlank c = false)
    (hlast : ∀ c, cs.getLast? = some c → isBlank c = false) : strip cs = cs := by
  have hstart : stripStart cs = cs := by
    cases cs with
    | nil => rfl
    | cons c rest =>
      have hc := hhead c rfl
      rw [stripStart, List.dropWhile_cons_of_neg (by simp [hc])]
  rw [strip_eq, hstart]
  refine List.rdropWhile_eq_self_iff.mpr fun hne => ?_
  simp [hlast _ (List.getLast?_eq_getLast_of_ne_nil hne)]

theorem head?_strip {cs : List Char} {c : Char} (h : (strip cs).head? = some c) :
    isBlank c = false := by
  have hprefix : strip cs <+: stripStart cs := List.rdropWhile_prefix isBlank _
  have hfirst : (stripStart cs).head? = some c := by
    obtain ⟨rest, hrest⟩ := hprefix
    rw [← hrest, List.head?_append, h]
    rfl
  have hdrop := List.head?_dropWhile_not isBlank cs
  rw [stripStart] at hfirst
  rw [hfirst] at hdrop
  exact hdrop

theorem getLast?_strip {cs : List Char} {c : Char} (h : (strip cs).getLast? = some c) :
    isBlank c = false := by
  rw [strip_eq] at h
  have hne : (stripStart cs).rdropWhile isBlank ≠ [] := by
    intro hnil
    simp [hnil] at h
  rw [List.getLast?_eq_getLast_of_ne_nil hne] at h
  obtain rfl := Option.some.inj h
  simpa using List.rdropWhile_last_not isBlank (stripStart cs) hne

/-- A blank that is put at the end of a text is dropped again. -/
theorem strip_concat (cs : List Char) {c : Char} (hc : isBlank c = true) :
    strip (cs ++ [c]) = strip cs := by
  rw [strip_eq, strip_eq, stripStart, stripStart, List.dropWhile_append]
  split
  · -- the text is all blanks, and so is the longer one
    next hempty =>
    have hnil : cs.dropWhile isBlank = [] := by simpa using hempty
    rw [hnil, List.dropWhile_cons_of_pos hc, List.dropWhile_nil]
  · rw [List.rdropWhile_concat_pos _ _ _ hc]

theorem stripEnd_isPrefix (cs : List Char) : stripEnd cs <+: cs := List.rdropWhile_prefix isBlank cs

theorem head?_stripEnd {cs : List Char} {c : Char} (h : (stripEnd cs).head? = some c) :
    cs.head? = some c := by
  obtain ⟨rest, hrest⟩ := stripEnd_isPrefix cs
  rw [← hrest, List.head?_append, h]
  rfl

/-- A text that does not end with a blank stays as it is in front of another one. -/
theorem stripEnd_append {cs : List Char} {c : Char} (hlast : cs.getLast? = some c)
    (hc : isBlank c = false) (rest : List Char) : stripEnd (cs ++ rest) = cs ++ stripEnd rest := by
  have hstop : cs.reverse.dropWhile isBlank = cs.reverse := by
    obtain ⟨before, rfl⟩ := List.getLast?_eq_some_iff.mp hlast
    simp [hc]
  rw [stripEnd, stripEnd, List.reverse_append, List.dropWhile_append]
  split
  · -- all that follows is blank
    next hempty =>
    have hnil : rest.reverse.dropWhile isBlank = [] := by simpa using hempty
    rw [hstop, hnil, List.reverse_reverse, List.reverse_nil, List.append_nil]
  · rw [List.reverse_append, List.reverse_reverse]

/-- Blanks in front of a text make no difference. -/
theorem strip_blanks_append {blanks : List Char} (hblanks : ∀ c ∈ blanks, isBlank c = true) (cs : List Char) :
    strip (blanks ++ cs) = strip cs := by
  rw [strip, strip, stripStart, stripStart, List.dropWhile_append_of_pos hblanks]

/-- Nothing is left of blanks. -/
theorem stripEnd_blanks {blanks : List Char} (hblanks : ∀ c ∈ blanks, isBlank c = true) :
    stripEnd blanks = [] :=
  List.rdropWhile_eq_nil_iff.mpr hblanks

/-- Blanks are dropped at the start up to the last character at most, if that is none. -/
theorem stripStart_append {cs : List Char} {c : Char} (hlast : cs.getLast? = some c) (hc : isBlank c = false)
    (rest : List Char) : (stripStart cs).getLast? = some c ∧ stripStart (cs ++ rest) = stripStart cs ++ rest := by
  obtain ⟨before, rfl⟩ := List.getLast?_eq_some_iff.mp hlast
  have hstop : ∀ rest, (c :: rest).dropWhile isBlank = c :: rest := fun rest =>
    List.dropWhile_cons_of_neg (by simp [hc])
  rw [stripStart, stripStart, List.append_assoc, List.dropWhile_append, List.dropWhile_append,
    List.singleton_append, hstop, hstop]
  split
  · exact ⟨rfl, rfl⟩
  · exact ⟨List.getLast?_concat, by rw [List.append_assoc]; rfl⟩

/-- Two texts, the first of which does not end with a blank, are stripped each at its own end. -/
theorem strip_append_stripEnd {cs : List Char} {c : Char} (hlast : cs.getLast? = some c)
    (hc : isBlank c = false) (rest : List Char) :
    (strip cs).getLast? = some c ∧ strip (cs ++ rest) = strip cs ++ stripEnd rest := by
  obtain ⟨hstart, happend⟩ := stripStart_append hlast hc rest
  have hwhole : strip cs = stripStart cs := by
    have hnil : stripEnd [] = [] := rfl
    have hend := stripEnd_append hstart hc []
    rwa [hnil, List.append_nil] at hend
  rw [hwhole, strip, happend, stripEnd_append hstart hc]
  exact ⟨hstart, rfl⟩

/-- A text that neither begins nor ends with a blank stays as it is in front of another one. -/
theorem strip_append {cs : List Char} (hhead : ∀ c, cs.head? = some c → isBlank c = false) {c : Char}
    (hlast : cs.getLast? = some c) (hc : isBlank c = false) (rest : List Char) :
    strip (cs ++ rest) = cs ++ stripEnd rest := by
  have hends : strip cs = cs := strip_of_ends hhead fun d hd => by
    rw [hlast] at hd
    rwa [← Option.some.inj hd]
  rw [(strip_append_stripEnd hlast hc rest).2, hends]

/-! ### Cutting -/

/-- Texts are cut as the library does it. -/
theorem splitOn_eq_splitOnP (isSep : Char → Bool) (cs : List Char) :
    splitOn isSep cs = cs.splitOnP isSep := by
  induction cs with
  | nil => simp [splitOn, List.splitOnP_nil]
  | cons c rest ih =>
    obtain ⟨first, others, hsplit⟩ := List.exists_cons_of_ne_nil (List.splitOnP_ne_nil isSep rest)
    rw [splitOn, ih, List.splitOnP_cons_eq_if_modifyHead, hsplit]
    rfl

/-- A character in front of a text is a separator, or else belongs to the first piece. -/
theorem splitOn_cons (isSep : Char → Bool) (c : Char) (cs : List Char) :
    splitOn isSep (c :: cs)
      = if isSep c then [] :: splitOn isSep cs else (splitOn isSep cs).modifyHead (c :: ·) := by
  simp only [splitOn_eq_splitOnP, List.splitOnP_cons_eq_if_modifyHead]

/-- The first piece of a text is one of its beginnings, and the others stand somewhere in it. -/
theorem splitOn_spec (isSep : Char → Bool) (cs : List Char) :
    ∃ first rest, splitOn isSep cs = first :: rest ∧ first <+: cs ∧
      ∀ piece ∈ rest, piece <:+: cs := by
  induction cs with
  | nil => exact ⟨[], [], rfl, List.prefix_rfl, by simp⟩
  | cons c cs ih =>
    obtain ⟨first, rest, hsplit, hfirst, hrest⟩ := ih
    have hothers : ∀ piece ∈ rest, piece <:+: c :: cs := fun piece hpiece =>
      List.infix_cons (hrest piece hpiece)
    by_cases hsep : isSep c
    · refine ⟨[], first :: rest, by simp [splitOn, hsplit, hsep], List.nil_prefix, ?_⟩
      exact List.forall_mem_cons.mpr ⟨List.infix_cons hfirst.isInfix, hothers⟩
    · exact ⟨c :: first, rest, by simp [splitOn, hsplit, hsep],
        List.prefix_cons_inj c |>.mpr hfirst, hothers⟩

theorem mem_splitOn_isInfix {isSep : Char → Bool} {cs piece : List Char}
    (h : piece ∈ splitOn isSep cs) : piece <:+: cs := by
  obtain ⟨first, rest, hsplit, hfirst, hrest⟩ := splitOn_spec isSep cs
  rw [hsplit] at h
  rcases List.mem_cons.mp h with rfl | h
  · exact hfirst.isInfix
  · exact hrest piece h

/-- What has no separators is a part of the first piece. -/
theorem splitOn_prepend {isSep : Char → Bool} {cs rest first : List Char} {others : List (List Char)}
    (h : ∀ c ∈ cs, isSep c = false) (hrest : splitOn isSep rest = first :: others) :
    splitOn isSep (cs ++ rest) = (cs ++ first) :: others := by
  induction cs with
  | nil => exact hrest
  | cons c cs ih =>
    obtain ⟨hc, hcs⟩ := List.forall_mem_cons.mp h
    simp [splitOn, ih hcs, hc]

/-- A text without separators is one piece. -/
theorem splitOn_of_forall {isSep : Char → Bool} {cs : List Char} (h : ∀ c ∈ cs, isSep c = false) :
    splitOn isSep cs = [cs] := by
  have hpiece : splitOn isSep (cs ++ []) = (cs ++ []) :: [] := splitOn_prepend h rfl
  rwa [List.append_nil] at hpiece

/-- The last piece of a text and the first one of what follows are one piece. -/
theorem splitOn_append_of_splitOn (isSep : Char → Bool) (cs : List Char) :
    ∃ before last, splitOn isSep cs = before ++ [last] ∧ ∀ rest first others,
      splitOn isSep rest = first :: others →
        splitOn isSep (cs ++ rest) = before ++ (last ++ first) :: others := by
  induction cs with
  | nil => exact ⟨[], [], rfl, fun rest first others hrest => hrest⟩
  | cons c cs ih =>
    obtain ⟨before, last, hsplit, happend⟩ := ih
    by_cases hc : isSep c
    · refine ⟨[] :: before, last, ?_, fun rest first others hrest => ?_⟩
      · rw [splitOn_cons, if_pos hc, hsplit, List.cons_append]
      · rw [List.cons_append, splitOn_cons, if_pos hc, happend rest first others hrest, List.cons_append]
    · have hcons : ∀ {cs piece pieces}, splitOn isSep cs = piece :: pieces →
          splitOn isSep (c :: cs) = (c :: piece) :: pieces := by
        intro cs piece pieces h
        rw [splitOn_cons, if_neg hc, h, List.modifyHead_cons]
      cases before with
      | nil => exact ⟨[], c :: last, hcons hsplit, fun rest first others hrest =>
          hcons (happend rest first others hrest)⟩
      | cons piece before => exact ⟨(c :: piece) :: before, last, hcons hsplit, fun rest first others hrest =>
          hcons (happend rest first others hrest)⟩

/-- The last piece of a text ends as the text does. -/
theorem getLast?_of_splitOn {isSep : Char → Bool} {cs last : List Char} {before : List (List Char)}
    (hsplit : splitOn isSep cs = before ++ [last]) {c : Char} (hlast : cs.getLast? = some c)
    (hc : isSep c = false) : last.getLast? = some c := by
  obtain ⟨front, rfl⟩ := List.getLast?_eq_some_iff.mp hlast
  obtain ⟨before', last', -, happend⟩ := splitOn_append_of_splitOn isSep front
  have hpiece : splitOn isSep (front ++ [c]) = before' ++ [last' ++ [c]] :=
    happend [c] [c] [] (by simp [splitOn, hc])
  obtain ⟨-, hend⟩ := List.append_inj' (hsplit.symm.trans hpiece) rfl
  rw [(List.cons.inj hend).1, List.getLast?_concat]

/-- What stands in front of the first separator is the first piece. -/
theorem splitOn_append {isSep : Char → Bool} {cs rest : List Char} {sep : Char}
    (h : ∀ c ∈ cs, isSep c = false) (hsep : isSep sep = true) :
    splitOn isSep (cs ++ sep :: rest) = cs :: splitOn isSep rest := by
  obtain ⟨first, others, hsplit, -, -⟩ := splitOn_spec isSep rest
  have hrest : splitOn isSep (sep :: rest) = [] :: splitOn isSep rest := by
    simp [splitOn, hsplit, hsep]
  rw [splitOn_prepend h hrest, List.append_nil]

/-- No separator stands in a piece. -/
theorem isSep_of_mem_splitOn {isSep : Char → Bool} {cs piece : List Char}
    (h : piece ∈ splitOn isSep cs) : ∀ c ∈ piece, isSep c = false := by
  induction cs generalizing piece with
  | nil =>
    obtain rfl : piece = [] := by simpa [splitOn] using h
    simp
  | cons c cs ih =>
    obtain ⟨first, others, hsplit, -, -⟩ := splitOn_spec isSep cs
    rw [hsplit] at ih
    have hothers : ∀ piece ∈ others, ∀ d ∈ piece, isSep d = false := fun piece hpiece =>
      ih (List.mem_cons_of_mem _ hpiece)
    by_cases hc : isSep c
    · have hmem : piece ∈ [] :: first :: others := by simpa [splitOn, hsplit, hc] using h
      rcases List.mem_cons.mp hmem with rfl | hmem
      · simp
      · exact ih hmem
    · have hmem : piece ∈ (c :: first) :: others := by simpa [splitOn, hsplit, hc] using h
      rcases List.mem_cons.mp hmem with rfl | hmem
      · exact List.forall_mem_cons.mpr ⟨by simpa using hc, ih List.mem_cons_self⟩
      · exact hothers piece hmem

/-- The pieces between the places where a character stands are those which, put together again with this
character between neighbours, are the text. -/
theorem splitOn_eq_iff {sep : Char} {cs : List Char} {pieces : List (List Char)} :
    splitOn (· = sep) cs = pieces ↔
      cs = [sep].intercalate pieces ∧ pieces ≠ [] ∧ ∀ piece ∈ pieces, sep ∉ piece := by
  have hsep : (fun c => decide (c = sep)) = (· == sep) := by
    funext c
    exact (beq_eq_decide c sep).symm
  have hlibrary : splitOn (· = sep) cs = cs.splitOn sep := by
    rw [splitOn_eq_splitOnP, hsep]
    rfl
  constructor
  · rintro rfl
    refine ⟨?_, ?_, fun piece hpiece hmem => ?_⟩
    · rw [hlibrary, List.intercalate_splitOn]
    · rw [splitOn_eq_splitOnP]
      exact List.splitOnP_ne_nil _ _
    · simpa using isSep_of_mem_splitOn hpiece sep hmem
  · rintro ⟨rfl, hne, hplain⟩
    rw [hlibrary, List.splitOn_intercalate sep hplain hne]

/-- Texts that were joined at a character are cut apart again where it stands. -/
theorem splitOn_join {sep : Char} {parts : List String} (hne : parts ≠ [])
    (h : ∀ part ∈ parts, sep ∉ part.toList) :
    splitOn (· = sep) (join (String.singleton sep) parts).toList = parts.map String.toList := by
  induction parts with
  | nil => exact absurd rfl hne
  | cons first rest ih =>
    obtain ⟨hfirst, hrest⟩ := List.forall_mem_cons.mp h
    have hplain : ∀ c ∈ first.toList, decide (c = sep) = false := fun c hc => by
      simpa using fun hsep : c = sep => hfirst (hsep ▸ hc)
    cases rest with
    | nil => rw [join, splitOn_of_forall hplain]; rfl
    | cons second others =>
      have htext : (join (String.singleton sep) (first :: second :: others)).toList
          = first.toList ++ sep :: (join (String.singleton sep) (second :: others)).toList := by
        simp [join]
      rw [htext, splitOn_append hplain (by simp), ih (by simp) hrest]
      rfl

/-! ### Texts that begin with others and hold others -/

theorem dropPrefix?_eq_some {start cs rest : List Char} :
    dropPrefix? start cs = some rest ↔ cs = start ++ rest := by
  induction start generalizing cs with
  | nil => simp [dropPrefix?]
  | cons p ps ih =>
    cases cs with
    | nil => simp [dropPrefix?]
    | cons c cs =>
      rw [dropPrefix?]
      by_cases hpc : p = c
      · simp [hpc, ih]
      · simp [hpc, Ne.symm hpc]

theorem startsWith_iff {start cs : List Char} : startsWith start cs = true ↔ start <+: cs := by
  rw [startsWith, Option.isSome_iff_exists]
  simp only [dropPrefix?_eq_some]
  exact ⟨fun ⟨rest, h⟩ => ⟨rest, h.symm⟩, fun ⟨rest, h⟩ => ⟨rest, h.symm⟩⟩

theorem contains_iff {part cs : List Char} : contains part cs = true ↔ part <:+: cs := by
  induction cs with
  | nil => simp [contains]
  | cons c cs ih => simp only [contains, Bool.or_eq_true, startsWith_iff, ih, List.infix_cons_iff]

/-! ### Up to where something else begins -/

section
variable {p : Char → Bool} {cs rest : List Char}

theorem takeWhile_append (h : ∀ c ∈ cs, p c = true) (hrest : ∀ c, rest.head? = some c → p c = false) :
    (cs ++ rest).takeWhile p = cs := by
  rw [List.takeWhile_append_of_pos h]
  cases rest with
  | nil => simp
  | cons c rest => rw [List.takeWhile_cons_of_neg (by simp [hrest c rfl]), List.append_nil]

theorem dropWhile_append (h : ∀ c ∈ cs, p c = true) (hrest : ∀ c, rest.head? = some c → p c = false) :
    (cs ++ rest).dropWhile p = rest := by
  rw [List.dropWhile_append_of_pos h]
  cases rest with
  | nil => rfl
  | cons c rest => exact List.dropWhile_cons_of_neg (by simp [hrest c rfl])

end

end Switchboard.Text
