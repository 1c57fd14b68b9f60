/-
# Links in pages

From the text of an attribute to the query string that following the link
sends. Character references of the attribute are resolved, a URL loses the
white space around it and its line breaks, `#` starts its fragment, and in its
query what may not stand there is percent-encoded. `&`, `=`, `+` and `%` may.

So a text that was escaped for the page arrives in the URL as it is
(`resolve_escaped`), but in a query it is read back only if the page also
encoded it for the URL: `+` is read as a space (`decode_query`).

Key definitions: `resolve`, `Escapes`, `clean`, `queryChar`, `query`.
Key theorems: `resolve_escaped`, `clean_eq`, `decode_query`.
-/
import SocDashboard.Lib.FormUrl

namespace Links

/-! ### Character references -/

/-- The text of an attribute or of an element, of the references that escaping uses. -/
def resolve : List Char → List Char
  | [] => []
  | '&' :: 'a' :: 'm' :: 'p' :: ';' :: rest => '&' :: resolve rest
  | '&' :: 'l' :: 't' :: ';' :: rest => '<' :: resolve rest
  | '&' :: 'g' :: 't' :: ';' :: rest => '>' :: resolve rest
  | '&' :: 'q' :: 'u' :: 'o' :: 't' :: ';' :: rest => '"' :: resolve rest
  | '&' :: '#' :: '3' :: '4' :: ';' :: rest => '"' :: resolve rest
  | '&' :: '#' :: '3' :: '9' :: ';' :: rest => '\'' :: resolve rest
  | c :: rest => c :: resolve rest

/-- What stands for each of the five characters that are escaped. -/
def references : List (Char × List (List Char)) :=
  [('&', ["&amp;".toList]), ('<', ["&lt;".toList]), ('>', ["&gt;".toList]), ('"', ["&quot;".toList, "&#34;".toList]),
   ('\'', ["&#39;".toList])]

/-- A way to escape a character: as a reference to it, and never as itself when it is an ampersand. -/
def Escapes (escape : Char → List Char) : Prop :=
  ∀ c, (c ≠ '&' ∧ escape c = [c]) ∨ ∃ e ∈ references, e.1 = c ∧ escape c ∈ e.2

@[simp] theorem resolve_nil : resolve [] = [] := rfl

theorem resolve_cons {c : Char} (h : c ≠ '&') (rest : List Char) : resolve (c :: rest) = c :: resolve rest := by
  rw [resolve.eq_def]
  split
  · rename_i heq
    cases heq
  all_goals
    rename_i heq
    obtain ⟨hc, hrest⟩ := List.cons.inj heq
  · exact absurd hc h
  · exact absurd hc h
  · exact absurd hc h
  · exact absurd hc h
  · exact absurd hc h
  · exact absurd hc h
  · rw [hc, hrest]

theorem resolve_reference {e : Char × List (List Char)} (he : e ∈ references) {r : List Char} (hr : r ∈ e.2)
    (rest : List Char) : resolve (r ++ rest) = e.1 :: resolve rest := by
  simp only [references, List.mem_cons, List.not_mem_nil, or_false] at he
  rcases he with rfl | rfl | rfl | rfl | rfl <;> simp only [List.mem_cons, List.not_mem_nil, or_false] at hr
  · subst hr; rfl
  · subst hr; rfl
  · subst hr; rfl
  · rcases hr with rfl | rfl <;> rfl
  · subst hr; rfl

/-- **An escaped text is read as it is.** -/
theorem resolve_escaped {escape : Char → List Char} (h : Escapes escape) (cs rest : List Char) :
    resolve (cs.flatMap escape ++ rest) = cs ++ resolve rest := by
  induction cs with
  | nil => rfl
  | cons c cs ih =>
    rw [List.flatMap_cons, List.append_assoc, List.cons_append]
    rcases h c with ⟨hc, hself⟩ | ⟨e, he, rfl, hr⟩
    · rw [hself, List.singleton_append, resolve_cons hc, ih]
    · rw [resolve_reference he hr, ih]

/-- Text without references is itself. -/
theorem resolve_plain {cs : List Char} (h : ∀ c ∈ cs, c ≠ '&') (rest : List Char) :
    resolve (cs ++ rest) = cs ++ resolve rest := by
  induction cs with
  | nil => rfl
  | cons c cs ih =>
    rw [List.cons_append, resolve_cons (h c List.mem_cons_self), ih fun d hd => h d (List.mem_cons_of_mem c hd),
      List.cons_append]

/-! ### The URL -/

/-- What is dropped at both ends of a URL. -/
def blank (c : Char) : Bool := c.toNat ≤ 32

def lineBreak (c : Char) : Bool := c = '\t' || c = '\n' || c = '\r'

/-- The text of a URL that is parsed. -/
def clean (s : List Char) : List Char :=
  ((s.dropWhile blank).reverse.dropWhile blank).reverse.filter fun c => !lineBreak c

/-- The character may not stand in a query. -/
def encoded (c : Char) : Bool :=
  c.toNat ≤ 32 || 126 < c.toNat || c = '"' || c = '#' || c = '<' || c = '>' || c = '\''

def queryChar (c : Char) : List Char := if encoded c then (String.utf8EncodeChar c).flatMap FormUrl.percent else [c]

def query (s : List Char) : List Char := s.flatMap queryChar

/-- What may stand in a query stays as it is. -/
theorem query_plain {cs : List Char} (h : ∀ c ∈ cs, encoded c = false) (rest : List Char) :
    query (cs ++ rest) = cs ++ query rest := by
  induction cs with
  | nil => rfl
  | cons c cs ih =>
    have hc := h c List.mem_cons_self
    rw [List.cons_append, query, List.flatMap_cons, queryChar, hc, if_neg Bool.false_ne_true]
    exact congrArg (c :: ·) (ih fun d hd => h d (List.mem_cons_of_mem c hd))

/-- Encoding makes no separator. -/
theorem amp_not_mem_query {s : List Char} (h : '&' ∉ s) : '&' ∉ query s := by
  intro hmem
  obtain ⟨c, hc, hamp⟩ := List.mem_flatMap.mp hmem
  unfold queryChar at hamp
  split_ifs at hamp
  · obtain ⟨b, -, hb⟩ := List.mem_flatMap.mp hamp
    exact (FormUrl.percent_safe hb).1 rfl
  · exact h (List.mem_singleton.mp hamp ▸ hc)

theorem dropWhile_of_head {p : Char → Bool} {s : List Char} (h : ∀ c ∈ s.head?, p c = false) : s.dropWhile p = s := by
  cases s with
  | nil => rfl
  | cons c s => rw [List.dropWhile_cons_of_neg (by simp [h c rfl])]

theorem clean_eq {s : List Char} (hplain : ∀ c ∈ s, lineBreak c = false) (hhead : ∀ c ∈ s.head?, blank c = false)
    (hlast : ∀ c ∈ s.getLast?, blank c = false) : clean s = s := by
  have hreverse : ∀ c ∈ s.reverse.head?, blank c = false := by rwa [List.head?_reverse]
  rw [clean, dropWhile_of_head hhead, dropWhile_of_head hreverse, List.reverse_reverse]
  exact List.filter_eq_self.mpr fun c hc => by simp [hplain c hc]

/-! ### What the server reads of it -/

/-- `+` is a space. -/
def plusAsSpace (c : Char) : Char := if c = '+' then ' ' else c

theorem decodeBytes_percents (bs : List UInt8) (rest : List Char) :
    FormUrl.decodeBytes (bs.flatMap FormUrl.percent ++ rest) = bs ++ FormUrl.decodeBytes rest := by
  induction bs with
  | nil => rfl
  | cons b bs ih => rw [List.flatMap_cons, List.append_assoc, FormUrl.decodeBytes_percent, ih, List.cons_append]

theorem decodeBytes_queryChar {c : Char} (h : c ≠ '%') (rest : List Char) :
    FormUrl.decodeBytes (queryChar c ++ rest) = String.utf8EncodeChar (plusAsSpace c) ++ FormUrl.decodeBytes rest := by
  unfold queryChar
  by_cases hencoded : encoded c = true
  · have hplus : c ≠ '+' := fun he => by rw [he] at hencoded; exact absurd hencoded (by decide)
    rw [if_pos hencoded, decodeBytes_percents, plusAsSpace, if_neg hplus]
  · rw [if_neg hencoded, List.singleton_append, FormUrl.decodeBytes_cons h, plusAsSpace]
    by_cases hplus : c = '+'
    · rw [if_pos hplus, if_pos hplus]
      rfl
    · rw [if_neg hplus, if_neg hplus]

theorem decodeBytes_query {s : List Char} (h : '%' ∉ s) :
    FormUrl.decodeBytes (query s) = (s.map plusAsSpace).flatMap String.utf8EncodeChar := by
  induction s with
  | nil => rfl
  | cons c s ih =>
    have hc : c ≠ '%' := fun he => h (he ▸ List.mem_cons_self)
    rw [query, List.flatMap_cons, decodeBytes_queryChar hc, List.map_cons, List.flatMap_cons]
    exact congrArg _ (ih fun hs => h (List.mem_cons_of_mem c hs))

/-- **A query without `%` is read as it was written, but for `+`.** -/
theorem decode_query {s : List Char} (h : '%' ∉ s) :
    FormUrl.decode (query s) = some (String.ofList (s.map plusAsSpace)) := by
  apply FormUrl.decode_of_bytes
  rw [FormUrl.bytes_ofList, decodeBytes_query h]

theorem map_plusAsSpace {s : List Char} (h : '+' ∉ s) : s.map plusAsSpace = s := by
  refine (List.map_congr_left fun c hc => ?_).trans (List.map_id s)
  have hne : c ≠ '+' := by
    rintro rfl
    exact h hc
  exact if_neg hne

/-- Plain text is read as it is. -/
theorem decode_plain {s : List Char} (h : ∀ c ∈ s, encoded c = false) (hpercent : '%' ∉ s) (hplus : '+' ∉ s) :
    FormUrl.decode s = some (String.ofList s) := by
  have hdecode := decode_query hpercent
  have hquery := query_plain h []
  rw [List.append_nil] at hquery
  rwa [map_plusAsSpace hplus, hquery, query, List.flatMap_nil, List.append_nil] at hdecode

end Links
