/-
# Trimming characters off both ends of a string

`trim p s` drops the longest run of characters that satisfy `p` from either
end of `s`. Trimming less first changes nothing (`trim_trim_of_le`), so two
trimmers, one of which removes more, agree after the wider one.

Key definitions: `trim`.
Key theorems: `trim_trim_of_le`, `trim_eq_self`, `trim_of_trim_eq_self`,
`mem_trim_iff`.
-/
import Mathlib.Data.List.DropRight

namespace Trim

variable {p q : Char → Bool}

/-- The characters of `l` without the `p`-runs at both ends. -/
def trimList (p : Char → Bool) (l : List Char) : List Char := (l.dropWhile p).rdropWhile p

def trim (p : Char → Bool) (s : String) : String := String.ofList (trimList p s.toList)

theorem rdropWhile_append_of_pos {l t : List Char} (h : ∀ c ∈ t, p c) :
    (l ++ t).rdropWhile p = l.rdropWhile p := by
  unfold List.rdropWhile
  rw [List.reverse_append, List.dropWhile_append_of_pos fun c hc => h c (List.mem_reverse.mp hc)]

theorem dropWhile_dropWhile_of_le (h : ∀ c, q c → p c) :
    ∀ l : List Char, (l.dropWhile q).dropWhile p = l.dropWhile p
  | [] => rfl
  | c :: l => by
    by_cases hq : q c
    · rw [List.dropWhile_cons_of_pos hq, dropWhile_dropWhile_of_le h l,
        List.dropWhile_cons_of_pos (h c hq)]
    · rw [List.dropWhile_cons_of_neg hq]

/-- Trimming the right end less first changes nothing. -/
theorem trimList_rdropWhile_of_le (h : ∀ c, q c → p c) (l : List Char) :
    trimList p (l.rdropWhile q) = trimList p l := by
  have ht : ∀ c ∈ l.rtakeWhile q, p c := fun c hc => h c (List.mem_rtakeWhile_imp hc)
  conv_rhs => rw [← List.rdropWhile_append_rtakeWhile (p := q) (l := l)]
  unfold trimList
  rw [List.dropWhile_append]
  split_ifs with hall
  · have h1 : (l.rdropWhile q).dropWhile p = [] := by simpa using hall
    have h2 : (l.rtakeWhile q).dropWhile p = [] := List.dropWhile_eq_nil_iff.mpr ht
    rw [h1, h2]
  · rw [rdropWhile_append_of_pos ht]

theorem trimList_trimList_of_le (h : ∀ c, q c → p c) (l : List Char) :
    trimList p (trimList q l) = trimList p l := by
  have h1 : trimList p (trimList q l) = trimList p (l.dropWhile q) :=
    trimList_rdropWhile_of_le h (l.dropWhile q)
  rw [h1]
  unfold trimList
  rw [dropWhile_dropWhile_of_le h]

theorem trimList_subset (l : List Char) : trimList p l ⊆ l := fun _ hc =>
  List.dropWhile_subset p (List.rdropWhile_prefix p _ |>.subset hc)

theorem trimList_eq_self {l : List Char} (h : ∀ c ∈ l, ¬ p c) : trimList p l = l := by
  have h1 : l.dropWhile p = l :=
    List.dropWhile_eq_self_iff.mpr fun hl => h _ (List.getElem_mem hl)
  unfold trimList
  rw [h1]
  exact List.rdropWhile_eq_self_iff.mpr fun hl => h _ (List.getLast_mem hl)

@[simp] theorem toList_trim (s : String) : (trim p s).toList = trimList p s.toList := by
  simp [trim]

/-- **Trimming less first changes nothing.** -/
theorem trim_trim_of_le (h : ∀ c, q c → p c) (s : String) : trim p (trim q s) = trim p s := by
  unfold trim
  rw [String.toList_ofList, trimList_trimList_of_le h]

theorem mem_toList_trim {s : String} {c : Char} (h : c ∈ (trim p s).toList) : c ∈ s.toList := by
  rw [toList_trim] at h
  exact trimList_subset _ h

/-- Trimming removes no character that it does not trim. -/
theorem mem_trim_iff {s : String} {c : Char} (hc : ¬ p c) : c ∈ (trim p s).toList ↔ c ∈ s.toList := by
  refine ⟨mem_toList_trim, fun h => ?_⟩
  rw [toList_trim, trimList]
  have h1 : c ∈ s.toList.dropWhile p := by
    rw [← List.takeWhile_append_dropWhile (p := p) (l := s.toList)] at h
    exact (List.mem_append.mp h).resolve_left fun ht => hc (List.mem_takeWhile_imp ht)
  rw [← List.rdropWhile_append_rtakeWhile (p := p) (l := s.toList.dropWhile p)] at h1
  exact (List.mem_append.mp h1).resolve_right fun ht => hc (List.mem_rtakeWhile_imp ht)

/-- Nothing to trim. -/
theorem trim_eq_self {s : String} (h : ∀ c ∈ s.toList, ¬ p c) : trim p s = s := by
  unfold trim
  rw [trimList_eq_self h, String.ofList_toList]

/-- A trimmed string stays as it is under a trimmer that removes less. -/
theorem trim_of_trim_eq_self (h : ∀ c, q c → p c) {s : String} (hs : trim p s = s) :
    trim q s = s := by
  have hl : trimList p s.toList = s.toList := by rw [← toList_trim, hs]
  have hd : s.toList.dropWhile p = s.toList := by
    refine (List.dropWhile_suffix p).eq_of_length (le_antisymm
      (List.dropWhile_suffix p).length_le ?_)
    calc s.toList.length = (trimList p s.toList).length := by rw [hl]
      _ ≤ (s.toList.dropWhile p).length := (List.rdropWhile_prefix p _).length_le
  have hr : s.toList.rdropWhile p = s.toList := by
    have := hl
    unfold trimList at this
    rwa [hd] at this
  have hd' : s.toList.dropWhile q = s.toList :=
    List.dropWhile_eq_self_iff.mpr fun h0 hq => List.dropWhile_eq_self_iff.mp hd h0 (h _ hq)
  have hr' : s.toList.rdropWhile q = s.toList :=
    List.rdropWhile_eq_self_iff.mpr fun h0 hq => List.rdropWhile_eq_self_iff.mp hr h0 (h _ hq)
  unfold trim trimList
  rw [hd', hr', String.ofList_toList]

end Trim
