/-
# The string operations of the two languages

`str.strip` and `str.upper` of Python, `strings.TrimSpace` and
`strings.ToUpper` of Go, as the ingest paths use them. The two trimmers
differ in the four separators U+001C to U+001F, which only Python counts as
whitespace. The case mappings are read only by comparing the result with the
four severity names, so they list the characters whose upper-case form holds
an ASCII letter; every other character beyond ASCII keeps an upper-case form
beyond ASCII and stands for itself here.

Key definitions: `pyStrip`, `goTrimSpace`, `pyUpper`, `goToUpper`.
Key theorems: `pyStrip_goTrimSpace`, `pyUpper_eq_goToUpper_iff`,
`pyStrip_of_goToUpper`.
-/
import SocDashboard.Lib.Trim

namespace SocDashboard

/-- `unicode.IsSpace`. -/
def goSpaces : List Char :=
  ['\t', '\n', '\x0b', '\x0c', '\r', ' ', '\u0085', '\u00a0', '\u1680', '\u2000', '\u2001',
   '\u2002', '\u2003', '\u2004', '\u2005', '\u2006', '\u2007', '\u2008', '\u2009', '\u200a',
   '\u2028', '\u2029', '\u202f', '\u205f', '\u3000']

/-- `str.isspace`: what Go counts, and the separators U+001C to U+001F. -/
def pySpaces : List Char := ['\x1c', '\x1d', '\x1e', '\x1f'] ++ goSpaces

def goIsSpace (c : Char) : Bool := c ∈ goSpaces

def pyIsSpace (c : Char) : Bool := c ∈ pySpaces

/-- `strings.TrimSpace`. -/
def goTrimSpace (s : String) : String := Trim.trim goIsSpace s

/-- `str.strip`. -/
def pyStrip (s : String) : String := Trim.trim pyIsSpace s

/-- The characters beyond ASCII whose full upper-case form holds an ASCII letter. -/
def pyUpperTable : List (Char × List Char) :=
  [('\u00df', ['S', 'S']), ('\u0131', ['I']), ('\u0149', ['\u02bc', 'N']), ('\u017f', ['S']),
   ('\u01f0', ['J', '\u030c']), ('\u1e96', ['H', '\u0331']), ('\u1e97', ['T', '\u0308']),
   ('\u1e98', ['W', '\u030a']), ('\u1e99', ['Y', '\u030a']), ('\u1e9a', ['A', '\u02be']),
   ('\ufb00', ['F', 'F']), ('\ufb01', ['F', 'I']), ('\ufb02', ['F', 'L']),
   ('\ufb03', ['F', 'F', 'I']), ('\ufb04', ['F', 'F', 'L']), ('\ufb05', ['S', 'T']),
   ('\ufb06', ['S', 'T'])]

/-- The characters beyond ASCII whose simple upper-case form is an ASCII letter. -/
def goUpperTable : List (Char × Char) := [('\u0131', 'I'), ('\u017f', 'S')]

def pyUpperChar (c : Char) : List Char := (pyUpperTable.lookup c).getD [c.toUpper]

def goUpperChar (c : Char) : Char := (goUpperTable.lookup c).getD c.toUpper

/-- `str.upper`. -/
def pyUpper (s : String) : String := String.ofList (s.toList.flatMap pyUpperChar)

/-- `strings.ToUpper`. -/
def goToUpper (s : String) : String := String.ofList (s.toList.map goUpperChar)

/-! ### Whitespace -/

theorem pyIsSpace_of_goIsSpace (c : Char) (h : goIsSpace c) : pyIsSpace c := by
  have hc : c ∈ goSpaces := by simpa [goIsSpace] using h
  have hp : c ∈ pySpaces := List.mem_append_right _ hc
  simpa [pyIsSpace] using hp

/-- `strip` removes what `TrimSpace` left. -/
theorem pyStrip_goTrimSpace (s : String) : pyStrip (goTrimSpace s) = pyStrip s :=
  Trim.trim_trim_of_le pyIsSpace_of_goIsSpace s

theorem goTrimSpace_of_pyStrip {s : String} (h : pyStrip s = s) : goTrimSpace s = s :=
  Trim.trim_of_trim_eq_self pyIsSpace_of_goIsSpace h

/-! ### Upper case, as far as the severity names see it -/

/-- The letters of the severity names. -/
def nameLetters : List Char := "CRITICALHIGHMEDIUMLOW".toList

theorem goUpperChar_eq (c : Char) (h : goUpperTable.lookup c = none) : goUpperChar c = c.toUpper := by
  simp [goUpperChar, h]

/-- Off its table, Python's mapping is Go's. -/
theorem pyUpperChar_of_lookup_none {c : Char} (h : pyUpperTable.lookup c = none) :
    pyUpperChar c = [goUpperChar c] := by
  have hgo : goUpperTable.lookup c = none := by
    rw [List.lookup_eq_none_iff] at h ⊢
    intro p hp
    have hin : ∀ p ∈ goUpperTable, (p.1, [p.2]) ∈ pyUpperTable := by decide
    exact h (p.1, [p.2]) (hin p hp)
  simp [pyUpperChar, h, goUpperChar_eq c hgo]

theorem pyUpperTable_mem {c : Char} {l : List Char} (h : pyUpperTable.lookup c = some l) :
    (c, l) ∈ pyUpperTable := by
  obtain ⟨l₁, l₂, he, -⟩ := List.lookup_eq_some_iff.mp h
  rw [he]
  simp

/-- A character either mapping sends into the letters of the names is sent
there by both. -/
theorem pyUpperChar_eq_of_letters {c : Char}
    (h : (∀ d ∈ pyUpperChar c, d ∈ nameLetters) ∨ goUpperChar c ∈ nameLetters) :
    pyUpperChar c = [goUpperChar c] := by
  cases hl : pyUpperTable.lookup c with
  | none => exact pyUpperChar_of_lookup_none hl
  | some l =>
    have htab : ∀ e ∈ pyUpperTable,
        (e.2.all (· ∈ nameLetters) = true ∨ goUpperChar e.1 ∈ nameLetters) → e.2 = [goUpperChar e.1] := by
      decide
    have hc : pyUpperChar c = l := by simp [pyUpperChar, hl]
    rw [hc] at h ⊢
    exact htab (c, l) (pyUpperTable_mem hl) (by simpa using h)

/-- Both mappings send a string to the same name, or neither does. -/
theorem pyUpper_eq_goToUpper_iff {s n : String} (hn : ∀ d ∈ n.toList, d ∈ nameLetters) :
    pyUpper s = n ↔ goToUpper s = n := by
  constructor
  · intro h
    have hs : ∀ c ∈ s.toList, ∀ d ∈ pyUpperChar c, d ∈ nameLetters := by
      intro c hc d hd
      refine hn d ?_
      rw [← h, pyUpper, String.toList_ofList]
      exact List.mem_flatMap.mpr ⟨c, hc, hd⟩
    have he : s.toList.flatMap pyUpperChar = s.toList.map goUpperChar := by
      rw [List.map_eq_flatMap]
      exact List.flatMap_congr fun c hc => pyUpperChar_eq_of_letters (Or.inl (hs c hc))
    rw [← h, goToUpper, pyUpper, he]
  · intro h
    have hs : ∀ c ∈ s.toList, goUpperChar c ∈ nameLetters := by
      intro c hc
      refine hn _ ?_
      rw [← h, goToUpper, String.toList_ofList]
      exact List.mem_map_of_mem hc
    have he : s.toList.flatMap pyUpperChar = s.toList.map goUpperChar := by
      rw [List.map_eq_flatMap]
      exact List.flatMap_congr fun c hc => pyUpperChar_eq_of_letters (Or.inr (hs c hc))
    rw [← h, goToUpper, pyUpper, he]

/-- A string that upper-cases to a name holds no whitespace. -/
theorem pyStrip_of_goToUpper {s n : String} (hn : ∀ d ∈ n.toList, d ∈ nameLetters)
    (h : goToUpper s = n) : pyStrip s = s := by
  refine Trim.trim_eq_self fun c hc hsp => ?_
  have hlet : goUpperChar c ∈ nameLetters := by
    refine hn _ ?_
    rw [← h, goToUpper, String.toList_ofList]
    exact List.mem_map_of_mem hc
  have hnone : pySpaces.all (goUpperChar · ∉ nameLetters) = true := by decide
  have hnot := List.all_eq_true.mp hnone c (by simpa [pyIsSpace] using hsp)
  exact of_decide_eq_true hnot hlet

end SocDashboard
