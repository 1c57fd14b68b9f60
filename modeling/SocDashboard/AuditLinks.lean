/-
# Walking the audit log

The pages of the audit log are read by following links. The search form is
encoded by the browser and read by the server as it was typed. A page link is
written by the template, `href="/audit?page={{ page + 1 }}&q={{ search }}"`,
where the search is escaped for the page but not for the URL. The link keeps
the search exactly when it has no `&`, `#` or `+` (`linkKept_iff`).

Then, although the navigation counts all entries and not those selected, the
walk from the form along `Next` shows every entry that the search selects once
and newest first, and nothing else, exactly when no group of selected entries of
one time lies across a page border: each page is a query of its own, without a
tie-breaker (`auditWalk_complete_iff`).

Key definitions: `PageLink.href`, `PageLink.target`, `LinkKept`, `auditWalk`.
Key theorems: `readLink`, `linkKept_iff`, `auditWalk_complete_iff`.
-/
import SocDashboard.AuditPaging
import SocDashboard.Lib.Links
import SocDashboard.Wire

namespace SocDashboard

open Links Paging

/-! ### A link as it is written, followed and read -/

/-- `{{ value }}`, a character of it. -/
def jinjaEscape : Char → List Char
  | '&' => "&amp;".toList
  | '<' => "&lt;".toList
  | '>' => "&gt;".toList
  | '\'' => "&#39;".toList
  | '"' => "&#34;".toList
  | c => [c]

/-- `str` of a number. -/
def number (p : ℤ) : List Char := (toString p).toList

/-- The `href` of a link of the navigation. -/
def PageLink.href (l : PageLink) : List Char :=
  "/audit?page=".toList ++ number l.1 ++
    if l.2 = "" then [] else "&q=".toList ++ l.2.toList.flatMap jinjaEscape

/-- What the browser requests when the link is followed. -/
def PageLink.target (l : PageLink) : List Char :=
  let url := (clean (resolve l.href)).takeWhile (· ≠ '#')
  url.takeWhile (· ≠ '?') ++ '?' :: query ((url.dropWhile (· ≠ '?')).drop 1)

/-- What the browser requests when the form is sent. -/
def formTarget (text : String) : List Char := "/audit?".toList ++ FormUrl.serialize [("q", text)]

/-- The server reads of the link what it is for. -/
def LinkKept (l : PageLink) : Prop :=
  ∃ args, readTarget l.target = some ("/audit".toList, args) ∧ intArg args "page" 1 = .ok l.1 ∧
    textArg args "q" = l.2

/-- **The form is read as it was typed.** -/
theorem readTarget_form (text : String) : readTarget (formTarget text) = some ("/audit".toList, [("q", text)]) := by
  have htake : (formTarget text).takeWhile (· ≠ '?') = "/audit".toList := rfl
  have hdrop : ((formTarget text).dropWhile (· ≠ '?')).drop 1 = FormUrl.serialize [("q", text)] := rfl
  rw [readTarget, hdrop, htake, FormUrl.parse_serialize]
  rfl

theorem escapes_jinja : Escapes jinjaEscape := by
  intro c
  unfold jinjaEscape
  split
  · exact .inr ⟨_, List.mem_cons_self, rfl, by decide⟩
  · exact .inr ⟨('<', ["&lt;".toList]), by decide, rfl, by decide⟩
  · exact .inr ⟨('>', ["&gt;".toList]), by decide, rfl, by decide⟩
  · exact .inr ⟨('\'', ["&#39;".toList]), by decide, rfl, by decide⟩
  · exact .inr ⟨('"', ["&quot;".toList, "&#34;".toList]), by decide, rfl, by decide⟩
  · rename_i hamp _ _ _ _
    exact .inl ⟨hamp, rfl⟩

/-! ### Numbers -/

theorem pyDecimal_digit {c : Char} (h : c.isDigit = true) : pyDecimal c = some (c.toNat - 48) := by
  have hdigit : 48 ≤ c.toNat ∧ c.toNat ≤ 57 := by
    simp only [Char.isDigit, Bool.and_eq_true, decide_eq_true_eq] at h
    exact ⟨h.1, h.2⟩
  have hfind : decimalZeros.find? (fun z => z ≤ c.toNat && c.toNat ≤ z + 9) = some 48 :=
    List.find?_cons_of_pos (by simpa using hdigit)
  rw [pyDecimal, hfind]
  rfl

theorem pyDigits_digits : ∀ {cs : List Char}, cs ≠ [] → (∀ c ∈ cs, c.isDigit = true) →
    pyDigits cs = some (cs.map fun c => c.toNat - 48)
  | [], hne, _ => absurd rfl hne
  | [c], _, h => by
    rw [pyDigits, pyDecimal_digit (h c List.mem_cons_self)]
    rfl
  | c :: d :: cs, _, h => by
    have hd : d ≠ '_' := fun he => absurd (h d (by simp)) (he ▸ by decide)
    have hrest := pyDigits_digits (List.cons_ne_nil d cs) fun x hx => h x (List.mem_cons_of_mem c hx)
    have hcons : pyDigits (c :: d :: cs) =
        (pyDecimal c).bind fun x => (pyDigits (d :: cs)).bind fun xs => some (x :: xs) := by
      rw [pyDigits.eq_def]
      split
      · rename_i heq
        cases heq
      · rename_i heq
        cases heq
      · rename_i heq
        obtain ⟨-, heq⟩ := List.cons.inj heq
        exact absurd (List.cons.inj heq).1 hd
      · rename_i heq
        obtain ⟨rfl, rfl⟩ := List.cons.inj heq
        rfl
    rw [hcons, pyDecimal_digit (h c List.mem_cons_self), hrest]
    rfl

theorem isDigit_of_toDigits {n : ℕ} {c : Char} (h : c ∈ Nat.toDigits 10 n) : c.isDigit = true :=
  Nat.isDigit_of_mem_toDigits (by decide) (by decide) h

theorem number_natCast (n : ℕ) : number n = Nat.toDigits 10 n := by
  show (toString n).toList = _
  rw [Nat.toString_eq_ofList_toDigits, String.toList_ofList]

/-- Small numbers are read as they are written. -/
theorem pyInt_toString {n : ℕ} (h : (Nat.toDigits 10 n).length ≤ 4300) : pyInt (toString (n : ℤ)) = .ok n := by
  have htrim : (Trim.trim goIsSpace (toString (n : ℤ))).toList = Nat.toDigits 10 n := by
    rw [Trim.toList_trim]
    show Trim.trimList goIsSpace (number n) = _
    rw [number_natCast]
    refine Trim.trimList_eq_self fun c hc hspace => ?_
    have hdigit := isDigit_of_toDigits hc
    revert hdigit
    have hall : ∀ c ∈ goSpaces, c.isDigit = false := FormUrl.forall_mem (by decide)
    rw [hall c (of_decide_eq_true hspace)]
    exact Bool.false_ne_true
  have hsign : pySign (Nat.toDigits 10 n) = (1, Nat.toDigits 10 n) := by
    obtain ⟨c, cs, hcs⟩ := List.exists_cons_of_ne_nil (Nat.toDigits_ne_nil (n := n) (b := 10))
    have hdigit : c.isDigit = true := isDigit_of_toDigits (n := n) (by rw [hcs]; exact List.mem_cons_self)
    rw [hcs, pySign.eq_def]
    split
    · rename_i heq
      exact absurd hdigit ((List.cons.inj heq).1 ▸ by decide)
    · rename_i heq
      exact absurd hdigit ((List.cons.inj heq).1 ▸ by decide)
    · rfl
  have hvalue : ((Nat.toDigits 10 n).map fun c => c.toNat - 48).foldl (10 * · + ·) 0 = n := by
    rw [List.foldl_map]
    exact Nat.ofDigitChars_eq_foldl.symm.trans Nat.ofDigitChars_ten_toDigits
  rw [pyInt, htrim, hsign]
  simp only [pyDigits_digits Nat.toDigits_ne_nil fun c hc => isDigit_of_toDigits hc, List.length_map, hvalue,
    if_neg (not_lt.mpr h), one_mul]

/-! ### What a link is read as -/

section Link

variable {n : ℕ} {s : String}

/-- The search goes through the page unchanged: it is trimmed, without control characters, and
without `%`, which may start an encoded byte. -/
structure Printable (s : String) : Prop where
  trimmed : pyStrip s = s
  plain : ∀ c ∈ s.toList, 32 ≤ c.toNat ∧ c ≠ '%'

/-- The URL of a link, its references resolved. -/
def linkUrl (n : ℕ) (s : String) : List Char :=
  "/audit?page=".toList ++ Nat.toDigits 10 n ++ if s = "" then [] else "&q=".toList ++ s.toList

theorem resolve_q (cs : List Char) : resolve ("&q=".toList ++ cs) = "&q=".toList ++ resolve cs := by
  show resolve ('&' :: 'q' :: '=' :: cs) = '&' :: 'q' :: '=' :: resolve cs
  simp [resolve]

theorem resolve_href : resolve (PageLink.href ((n : ℤ), s)) = linkUrl n s := by
  have hpath : ∀ c ∈ "/audit?page=".toList ++ Nat.toDigits 10 n, c ≠ '&' := by
    intro c hc
    rcases List.mem_append.mp hc with hc | hc
    · have hall : ∀ c ∈ "/audit?page=".toList, c ≠ '&' := FormUrl.forall_mem (by decide)
      exact hall c hc
    · rintro rfl
      exact absurd (isDigit_of_toDigits hc) (by decide)
  have hquery : resolve (if s = "" then [] else "&q=".toList ++ s.toList.flatMap jinjaEscape) =
      if s = "" then [] else "&q=".toList ++ s.toList := by
    have hescaped := resolve_escaped escapes_jinja s.toList []
    rw [List.append_nil, resolve_nil, List.append_nil] at hescaped
    by_cases hs : s = ""
    · rw [if_pos hs, if_pos hs, resolve_nil]
    · rw [if_neg hs, if_neg hs, resolve_q, hescaped]
  unfold PageLink.href linkUrl
  rw [number_natCast, resolve_plain hpath, hquery]

theorem Printable.last (h : Printable s) : ∀ c ∈ s.toList.getLast?, blank c = false := by
  intro c hc
  have hmem : c ∈ s.toList := List.mem_of_mem_getLast? hc
  by_contra hblank
  have hspace : c = ' ' := by
    have hle : c.toNat ≤ 32 := of_decide_eq_true (Bool.of_not_eq_false hblank)
    exact Char.ext (UInt32.toNat_inj.mp (le_antisymm hle (h.plain c hmem).1))
  have hkept : (s.toList.dropWhile pyIsSpace).rdropWhile pyIsSpace = s.toList := by
    have htrimmed := congrArg String.toList h.trimmed
    rwa [pyStrip, Trim.toList_trim] at htrimmed
  have hne : (s.toList.dropWhile pyIsSpace).rdropWhile pyIsSpace ≠ [] := by
    rw [hkept]
    exact List.ne_nil_of_mem hmem
  have hlast : ((s.toList.dropWhile pyIsSpace).rdropWhile pyIsSpace).getLast hne = c := by
    rw [List.getLast_eq_iff_getLast?_eq_some, hkept]
    exact hc
  have hnot := List.rdropWhile_last_not pyIsSpace (s.toList.dropWhile pyIsSpace) hne
  rw [hlast, hspace] at hnot
  exact hnot (by decide)

/-- A character of a URL is one of its fixed text, a digit, or one of the search. -/
theorem mem_linkUrl {c : Char} (hc : c ∈ linkUrl n s) :
    c ∈ "/audit?page=&q=".toList ∨ c.isDigit = true ∨ c ∈ s.toList := by
  have hpath : ∀ c ∈ "/audit?page=".toList, c ∈ "/audit?page=&q=".toList := FormUrl.forall_mem (by decide)
  have hname : ∀ c ∈ "&q=".toList, c ∈ "/audit?page=&q=".toList := FormUrl.forall_mem (by decide)
  rcases List.mem_append.mp hc with hc | hc
  · rcases List.mem_append.mp hc with hc | hc
    · exact .inl (hpath c hc)
    · exact .inr (.inl (isDigit_of_toDigits hc))
  · by_cases hs : s = ""
    · rw [if_pos hs] at hc
      exact absurd hc List.not_mem_nil
    · rw [if_neg hs] at hc
      rcases List.mem_append.mp hc with hc | hc
      · exact .inl (hname c hc)
      · exact .inr (.inr hc)

theorem clean_linkUrl (h : Printable s) : clean (linkUrl n s) = linkUrl n s := by
  have hprints : ∀ c ∈ linkUrl n s, 32 ≤ c.toNat := by
    intro c hc
    have hfixed : ∀ c ∈ "/audit?page=&q=".toList, 32 ≤ c.toNat := FormUrl.forall_mem (by decide)
    rcases mem_linkUrl hc with hc | hc | hc
    · exact hfixed c hc
    · simp only [Char.isDigit, Bool.and_eq_true, decide_eq_true_eq] at hc
      exact le_trans (by decide) hc.1
    · exact (h.plain c hc).1
  refine clean_eq (fun c hc => ?_) (fun c hc => ?_) (fun c hc => ?_)
  · have hle := hprints c hc
    by_contra hbreak
    have hlow : c = '\t' ∨ c = '\n' ∨ c = '\r' := by
      simpa [lineBreak, or_assoc] using Bool.of_not_eq_false hbreak
    rcases hlow with rfl | rfl | rfl <;> exact absurd hle (by decide)
  · have hslash : (linkUrl n s).head? = some '/' := rfl
    rw [hslash, Option.mem_some_iff] at hc
    subst hc
    decide
  · by_cases hs : s = ""
    · unfold linkUrl at hc
      rw [if_pos hs, List.append_nil, List.getLast?_append_of_ne_nil _ Nat.toDigits_ne_nil] at hc
      have hdigit : c.isDigit = true := isDigit_of_toDigits (List.mem_of_mem_getLast? hc)
      by_contra hblank
      have hle : c.toNat ≤ 32 := of_decide_eq_true (Bool.of_not_eq_false hblank)
      simp only [Char.isDigit, Bool.and_eq_true, decide_eq_true_eq] at hdigit
      exact absurd (le_trans hdigit.1 hle) (by decide)
    · have hne : s.toList ≠ [] := by simpa using hs
      unfold linkUrl at hc
      rw [if_neg hs, ← List.append_assoc, List.getLast?_append_of_ne_nil _ hne] at hc
      exact h.last c hc

/-- The search up to a fragment. -/
def beforeHash (s : String) : List Char := s.toList.takeWhile (· ≠ '#')

/-- The search up to a fragment or another parameter. -/
def beforeBreak (s : String) : List Char := (beforeHash s).takeWhile (· ≠ '&')

/-- The query string that the browser sends. -/
def linkQuery (n : ℕ) (s : String) : List Char :=
  "page=".toList ++ Nat.toDigits 10 n ++ if s = "" then [] else '&' :: ("q=".toList ++ query (beforeHash s))

theorem encoded_digits : ∀ c ∈ Nat.toDigits 10 n, encoded c = false := by
  intro c hc
  have hdigit : c.isDigit = true := isDigit_of_toDigits hc
  simp only [Char.isDigit, Bool.and_eq_true, decide_eq_true_eq] at hdigit
  obtain ⟨hlow, hhigh⟩ := hdigit
  have hlow : 48 ≤ c.toNat := hlow
  have hhigh : c.toNat ≤ 57 := hhigh
  by_contra hencoded
  simp only [encoded, Bool.not_eq_false, Bool.or_eq_true, decide_eq_true_eq] at hencoded
  rcases hencoded with (((((h | h) | rfl) | rfl) | rfl) | rfl) | rfl
  · omega
  · omega
  all_goals revert hlow hhigh; decide

/-- The part of a link before its search. -/
theorem number_plain {fixed : List Char} {p : Char → Bool} (hfixed : ∀ c ∈ fixed, p c = true)
    (hdigit : ∀ c : Char, c.isDigit = true → p c = true) : ∀ c ∈ fixed ++ Nat.toDigits 10 n, p c = true := by
  intro c hc
  rcases List.mem_append.mp hc with hc | hc
  · exact hfixed c hc
  · exact hdigit c (isDigit_of_toDigits hc)

theorem takeWhile_linkUrl : (linkUrl n s).takeWhile (· ≠ '#') =
    "/audit?page=".toList ++ Nat.toDigits 10 n ++ if s = "" then [] else "&q=".toList ++ beforeHash s := by
  have hpath : ∀ c ∈ "/audit?page=".toList ++ Nat.toDigits 10 n, decide (c ≠ '#') = true := by
    refine number_plain (FormUrl.forall_mem (by decide)) fun c hc => decide_eq_true ?_
    rintro rfl
    exact absurd hc (by decide)
  unfold linkUrl
  rw [List.takeWhile_append_of_pos hpath]
  by_cases hs : s = ""
  · rw [if_pos hs, if_pos hs]
    rfl
  · have hname : ∀ c ∈ "&q=".toList, decide (c ≠ '#') = true := FormUrl.forall_mem (by decide)
    rw [if_neg hs, if_neg hs, List.takeWhile_append_of_pos hname]
    rfl

theorem target_eq (h : Printable s) : PageLink.target ((n : ℤ), s) = "/audit".toList ++ '?' :: linkQuery n s := by
  have hsplit : (linkUrl n s).takeWhile (· ≠ '#') = "/audit".toList ++ '?' ::
      ("page=".toList ++ Nat.toDigits 10 n ++ if s = "" then [] else "&q=".toList ++ beforeHash s) :=
    takeWhile_linkUrl
  have hpath : ∀ c ∈ "/audit".toList, decide (c ≠ '?') = true := FormUrl.forall_mem (by decide)
  have hplain : ∀ c ∈ "page=".toList ++ Nat.toDigits 10 n, encoded c = false := by
    intro c hc
    have hfixed : ∀ c ∈ "page=".toList, encoded c = false := FormUrl.forall_mem (by decide)
    exact (List.mem_append.mp hc).elim (hfixed c) (encoded_digits c)
  have hquery : query ("page=".toList ++ Nat.toDigits 10 n ++ if s = "" then [] else "&q=".toList ++ beforeHash s) =
      linkQuery n s := by
    unfold linkQuery
    rw [query_plain hplain]
    by_cases hs : s = ""
    · rw [if_pos hs, if_pos hs]
      rfl
    · have hname : ∀ c ∈ "&q=".toList, encoded c = false := FormUrl.forall_mem (by decide)
      rw [if_neg hs, if_neg hs, query_plain hname]
      rfl
  unfold PageLink.target
  rw [resolve_href, clean_linkUrl h, hsplit]
  simp only
  rw [List.takeWhile_append_of_pos hpath, List.dropWhile_append_of_pos hpath, List.takeWhile_cons_of_neg (by decide),
    List.dropWhile_cons_of_neg (by decide), List.drop_one, List.tail_cons, hquery, List.append_nil]

theorem readTarget_link (h : Printable s) :
    readTarget (PageLink.target ((n : ℤ), s)) =
      (FormUrl.parse (linkQuery n s)).map fun args => ("/audit".toList, args) := by
  have hpath : ∀ c ∈ "/audit".toList, decide (c ≠ '?') = true := FormUrl.forall_mem (by decide)
  rw [target_eq h, readTarget, List.takeWhile_append_of_pos hpath, List.dropWhile_append_of_pos hpath,
    List.takeWhile_cons_of_neg (by decide), List.dropWhile_cons_of_neg (by decide), List.drop_one, List.tail_cons,
    List.append_nil]
  cases FormUrl.parse (linkQuery n s) <;> rfl

/-- A name and a value as they stand in a query. -/
theorem parsePair_eq {name value : List Char} {k v : String} (hname : ∀ c ∈ name, decide (c ≠ '=') = true)
    (hk : FormUrl.decode name = some k) (hv : FormUrl.decode value = some v) :
    FormUrl.parsePair (name ++ '=' :: value) = some (k, v) := by
  rw [FormUrl.parsePair, List.takeWhile_append_of_pos hname, List.dropWhile_append_of_pos hname,
    List.takeWhile_cons_of_neg (by decide), List.dropWhile_cons_of_neg (by decide), List.drop_one, List.tail_cons,
    List.append_nil, hk, hv]
  rfl

theorem digit_not_mem {c : Char} (hc : c.isDigit = false) : c ∉ Nat.toDigits 10 n := fun h => by
  rw [isDigit_of_toDigits h] at hc
  cases hc

theorem parsePair_page (n : ℕ) :
    FormUrl.parsePair ("page=".toList ++ Nat.toDigits 10 n) = some ("page", toString (n : ℤ)) := by
  have hname : FormUrl.decode "page".toList = some "page" :=
    decode_plain (FormUrl.forall_mem (by decide)) (by decide) (by decide)
  have hvalue : FormUrl.decode (Nat.toDigits 10 n) = some (toString (n : ℤ)) := by
    have hplain := decode_plain encoded_digits (digit_not_mem (n := n) (c := '%') (by decide))
      (digit_not_mem (c := '+') (by decide))
    rw [hplain, ← number_natCast, number, String.ofList_toList]
  have hletters : ∀ c ∈ "page".toList, decide (c ≠ '=') = true := FormUrl.forall_mem (by decide)
  exact parsePair_eq hletters hname hvalue

theorem parsePair_q {cs : List Char} (h : '%' ∉ cs) :
    FormUrl.parsePair ("q=".toList ++ query cs) = some ("q", String.ofList (cs.map plusAsSpace)) := by
  have hname : FormUrl.decode "q".toList = some "q" := decode_plain (FormUrl.forall_mem (by decide)) (by decide) (by decide)
  have hletter : ∀ c ∈ "q".toList, decide (c ≠ '=') = true := FormUrl.forall_mem (by decide)
  exact parsePair_eq hletter hname (decode_query h)

theorem not_amp {cs : List Char} (h : '&' ∉ cs) : ∀ c ∈ cs, decide (c ≠ '&') = true := by
  intro c hc
  refine decide_eq_true ?_
  rintro rfl
  exact h hc

theorem page_plain : '&' ∉ "page=".toList ++ Nat.toDigits 10 n := by
  intro hmem
  rcases List.mem_append.mp hmem with hmem | hmem
  · exact absurd hmem (by decide)
  · exact digit_not_mem (by decide) hmem

/-- The pair of a link without a search. -/
theorem parse_linkQuery_empty : FormUrl.parse (linkQuery n "") = some [("page", toString (n : ℤ))] := by
  unfold linkQuery
  rw [if_pos rfl, List.append_nil]
  exact FormUrl.parse_single page_plain (by simp) (parsePair_page n)

/-- The pairs of a link with a search. -/
theorem parse_linkQuery (h : Printable s) (hs : s ≠ "") :
    ∃ more, FormUrl.parse (linkQuery n s) = more.map (fun rest => ("page", toString (n : ℤ)) ::
      ("q", String.ofList ((beforeBreak s).map plusAsSpace)) :: rest) ∧ ('&' ∉ s.toList → more = some []) := by
  have hpercent : ∀ {cs : List Char}, cs ⊆ s.toList → '%' ∉ cs := fun hcs hmem => (h.plain '%' (hcs hmem)).2 rfl
  have hhash : beforeHash s ⊆ s.toList := List.takeWhile_subset _
  have hfirst := FormUrl.parse_cons page_plain (by simp) (parsePair_page n) ("q=".toList ++ query (beforeHash s))
  have hq : ∀ {cs : List Char}, '&' ∉ cs → '&' ∉ "q=".toList ++ query cs := by
    intro cs hcs hmem
    rcases List.mem_append.mp hmem with hmem | hmem
    · exact absurd hmem (by decide)
    · exact amp_not_mem_query hcs hmem
  unfold linkQuery
  rw [if_neg hs, hfirst]
  by_cases hamp : '&' ∈ beforeHash s
  · obtain ⟨value, others, hsplit, hvalue⟩ := List.eq_append_cons_of_mem hamp
    have hbreak : beforeBreak s = value := by
      rw [beforeBreak, hsplit, List.takeWhile_append_of_pos (not_amp hvalue), List.takeWhile_cons_of_neg (by decide),
        List.append_nil]
    have hquery : query (beforeHash s) = query value ++ '&' :: query others := by
      rw [hsplit, query, List.flatMap_append, List.flatMap_cons]
      rfl
    have hsub : value ⊆ s.toList := fun c hc => hhash (hsplit ▸ List.mem_append_left _ hc)
    have hsecond := FormUrl.parse_cons (hq hvalue) (by simp) (parsePair_q (hpercent hsub)) (query others)
    rw [List.append_assoc] at hsecond
    refine ⟨FormUrl.parse (query others), ?_, fun hnone => absurd (hhash hamp) hnone⟩
    rw [hquery, hsecond, hbreak, Option.map_map]
    rfl
  · have hbreak : beforeBreak s = beforeHash s := List.takeWhile_eq_self_iff.mpr (not_amp hamp)
    have hsingle := FormUrl.parse_single (hq hamp) (by simp) (parsePair_q (hpercent hhash))
    rw [hsingle, hbreak]
    exact ⟨some [], rfl, fun _ => rfl⟩

/-- **What a link is read as**: its page, and its search up to a `&` or `#`, each `+` a space. -/
theorem readLink (h : Printable s) {path : List Char} {args : Args}
    (hread : readTarget (PageLink.target ((n : ℤ), s)) = some (path, args)) :
    path = "/audit".toList ∧ args.lookup "page" = some (toString (n : ℤ)) ∧
      textArg args "q" = pyStrip (String.ofList ((beforeBreak s).map plusAsSpace)) := by
  rw [readTarget_link h, Option.map_eq_some_iff] at hread
  obtain ⟨pairs, hpairs, heq⟩ := hread
  obtain ⟨rfl, rfl⟩ := Prod.mk.inj heq
  refine ⟨rfl, ?_⟩
  by_cases hs : s = ""
  · subst hs
    rw [parse_linkQuery_empty, Option.some.injEq] at hpairs
    rw [← hpairs]
    exact ⟨rfl, rfl⟩
  · obtain ⟨more, hmore, -⟩ := parse_linkQuery (n := n) h hs
    rw [hmore, Option.map_eq_some_iff] at hpairs
    obtain ⟨rest, -, rfl⟩ := hpairs
    exact ⟨rfl, rfl⟩

/-- A link whose search has no `&` is read. -/
theorem readLink_plain (n : ℕ) (h : Printable s) (hamp : '&' ∉ s.toList) :
    ∃ args, readTarget (PageLink.target ((n : ℤ), s)) = some ("/audit".toList, args) := by
  rw [readTarget_link h]
  by_cases hs : s = ""
  · subst hs
    rw [parse_linkQuery_empty]
    exact ⟨_, rfl⟩
  · obtain ⟨more, hmore, hsome⟩ := parse_linkQuery (n := n) h hs
    rw [hmore, hsome hamp]
    exact ⟨_, rfl⟩

theorem beforeBreak_initial (s : String) : beforeBreak s <+: s.toList :=
  (List.takeWhile_prefix _).trans (List.takeWhile_prefix _)

theorem beforeBreak_eq (hamp : '&' ∉ s.toList) (hhash : '#' ∉ s.toList) : beforeBreak s = s.toList := by
  have hall : ∀ c ∈ s.toList, decide (c ≠ '#') = true := by
    intro c hc
    refine decide_eq_true ?_
    rintro rfl
    exact hhash hc
  rw [beforeBreak, beforeHash, List.takeWhile_eq_self_iff.mpr hall, List.takeWhile_eq_self_iff.mpr (not_amp hamp)]

/-- What is read is the search only if nothing of it was cut off or trimmed. -/
theorem eq_of_search (h : pyStrip (String.ofList ((beforeBreak s).map plusAsSpace)) = s) :
    beforeBreak s = s.toList ∧ (beforeBreak s).map plusAsSpace = s.toList := by
  have hread : Trim.trimList pyIsSpace ((beforeBreak s).map plusAsSpace) = s.toList := by
    have hlist := congrArg String.toList h
    rwa [pyStrip, Trim.toList_trim, String.toList_ofList] at hlist
  have hsub : s.toList.Sublist ((beforeBreak s).map plusAsSpace) := by
    rw [← hread]
    exact (List.rdropWhile_prefix pyIsSpace _).sublist.trans (List.dropWhile_suffix pyIsSpace).sublist
  have hle : (beforeBreak s).length ≤ s.toList.length := (beforeBreak_initial s).length_le
  have hge : s.toList.length ≤ (beforeBreak s).length := by simpa using hsub.length_le
  exact ⟨(beforeBreak_initial s).eq_of_length (le_antisymm hle hge),
    (hsub.eq_of_length_le (by simpa using hle)).symm⟩

/-- **When a page link keeps the search**: exactly when it has none of `&`, `#` and `+`. -/
theorem linkKept_iff (hn : (Nat.toDigits 10 n).length ≤ 4300) (h : Printable s) :
    LinkKept ((n : ℤ), s) ↔ '&' ∉ s.toList ∧ '#' ∉ s.toList ∧ '+' ∉ s.toList := by
  constructor
  · rintro ⟨args, hread, -, hsearch⟩
    obtain ⟨-, -, hq⟩ := readLink h hread
    obtain ⟨hbreak, hplus⟩ := eq_of_search (hq.symm.trans hsearch)
    refine ⟨fun hmem => ?_, fun hmem => ?_, fun hmem => ?_⟩
    · rw [← hbreak] at hmem
      exact absurd (List.mem_takeWhile_imp hmem) (by decide)
    · rw [← hbreak] at hmem
      exact absurd (List.mem_takeWhile_imp (List.takeWhile_subset _ hmem)) (by decide)
    · rw [← hplus] at hmem
      obtain ⟨c, -, hc⟩ := List.mem_map.mp hmem
      unfold plusAsSpace at hc
      split_ifs at hc with hplus
      · exact absurd hc (by decide)
      · exact hplus hc
  · rintro ⟨hamp, hhash, hplus⟩
    obtain ⟨args, hread⟩ := readLink_plain n h hamp
    obtain ⟨-, hpage, hq⟩ := readLink h hread
    refine ⟨args, hread, ?_, ?_⟩
    · rw [intArg, hpage]
      exact pyInt_toString hn
    · rw [hq, beforeBreak_eq hamp hhash, map_plusAsSpace hplus, String.ofList_toList]
      exact h.trimmed

theorem printable_of {s : String} (htrimmed : pyStrip s = s)
    (h : (s.toList.all fun c => 32 ≤ c.toNat && c ≠ '%') = true) : Printable s where
  trimmed := htrimmed
  plain c hc := by simpa using List.all_eq_true.mp h c hc

/-- **`Next` under a search for `R&D` leads to another search.** -/
theorem linkKept_ampersand : Printable "R&D" ∧ ¬LinkKept (((2 : ℕ) : ℤ), "R&D") := by
  have hprintable : Printable "R&D" := printable_of (by decide) (by decide)
  refine ⟨hprintable, fun hkept => ?_⟩
  have hamp := ((linkKept_iff (by decide) hprintable).mp hkept).1
  exact hamp (by decide)

end Link

/-! ### The walk -/

section Walk

variable (env : Env) (pg : Pg) (db : Db)

/-- The page of the audit log at a target. -/
def auditAt (plan : Plan) (target : List Char) : Option AuditPage :=
  match readTarget target with
  | none => none
  | some (path, args) =>
    if path = "/audit".toList then
      match (do let query ← auditPageRead env pg plan args; query db : Except Exc Response) with
      | .ok ⟨_, .auditPage c, _⟩ => some c
      | _ => none
    else none

/-- The pages that are shown from a target on along `Next`; each is a query of its own. -/
def auditWalk (plans : ℕ → Plan) : ℕ → ℕ → List Char → List AuditPage
  | 0, _, _ => []
  | fuel + 1, k, target =>
    match auditAt env pg db (plans k) target with
    | none => []
    | some c =>
      c :: match (auditNav c).bind AuditNav.next with
        | none => []
        | some next => auditWalk plans fuel (k + 1) next.target

/-- The order of the audit page. -/
def newestFirst (e : AuditEntry) : ℤ := -e.createdAt

/-- What was shown are the entries of a search, each once and newest first. -/
structure ShowsSearched (search : String) (shown : List AuditPageEntry) : Prop where
  once : shown.Perm ((searched pg search db).map (auditPageEntry env))
  newest : shown.Pairwise fun e f => f.createdAt ≤ e.createdAt

variable {env pg db} {plan : Plan} {plans : ℕ → Plan} {s : String}

theorem auditAt_eq {target : List Char} {args : Args} {requested : ℤ}
    (hread : readTarget target = some ("/audit".toList, args)) (hpage : intArg args "page" 1 = .ok requested)
    (hsearch : textArg args "q" = s) (hnul : '\x00' ∉ s.toList) (hoffset : (max 1 requested - 1) * 50 ≤ maxBigint) :
    auditAt env pg db plan target = some (auditContext env pg plan requested s db) := by
  subst hsearch
  rw [auditAt, hread]
  simp only [if_true]
  rw [auditPageRead_eq hpage hnul hoffset]

theorem digits_of_le {p : ℕ} (h : ((p : ℤ) - 1) * 50 ≤ maxBigint) : (Nat.toDigits 10 p).length ≤ 4300 := by
  have hlt : p < 10 ^ 20 := by
    unfold maxBigint at h
    omega
  exact le_trans ((Nat.length_toDigits_le_iff (by decide) (by decide)).mpr hlt) (by decide)

/-- A link that keeps the search leads to its page. -/
theorem auditAt_link (h : Printable s) (hplain : '&' ∉ s.toList ∧ '#' ∉ s.toList ∧ '+' ∉ s.toList) {p : ℕ}
    (hp : 1 ≤ p) (hoffset : ((p : ℤ) - 1) * 50 ≤ maxBigint) :
    auditAt env pg db plan (PageLink.target ((p : ℤ), s)) = some (auditContext env pg plan p s db) := by
  obtain ⟨args, hread, hpage, hsearch⟩ := (linkKept_iff (digits_of_le hoffset) h).mpr hplain
  have hnul : '\x00' ∉ s.toList := fun hmem => absurd (h.plain _ hmem).1 (by decide)
  refine auditAt_eq hread hpage hsearch hnul ?_
  have hmax : max 1 (p : ℤ) = p := max_eq_right (by exact_mod_cast hp)
  rwa [hmax]

/-- The entries of a page. -/
theorem entries_context (k : ℕ) :
    (auditContext env pg plan ((k + 1 : ℕ) : ℤ) s db).entries =
      (page 50 k (auditRows pg plan s db)).map (auditPageEntry env) := by
  have hoffset : ((max 1 ((k + 1 : ℕ) : ℤ) - 1) * 50).toNat = k * 50 := by omega
  rw [auditContext, hoffset]
  rfl

/-- Where there is no link to the next page, there is nothing on it; a link leads to it. -/
theorem next_context (k : ℕ) :
    (auditNav (auditContext env pg plan ((k + 1 : ℕ) : ℤ) s db)).bind AuditNav.next = none ∧
        (searched pg s db).length ≤ (k + 1) * 50 ∨
      (auditNav (auditContext env pg plan ((k + 1 : ℕ) : ℤ) s db)).bind AuditNav.next =
        some (((k + 2 : ℕ) : ℤ), s) ∧ (k + 1) * 50 < db.auditLog.length := by
  have hle := length_searched_le pg s db
  have hmax : max 1 ((k + 1 : ℕ) : ℤ) = ((k + 1 : ℕ) : ℤ) := max_eq_right (by omega)
  by_cases hempty : (searched pg s db).length ≤ k * 50
  · left
    have hentries : (auditContext env pg plan ((k + 1 : ℕ) : ℤ) s db).entries.isEmpty = true :=
      isEmpty_entries_iff.mpr (by omega)
    rw [auditNav, if_pos hentries]
    exact ⟨rfl, by omega⟩
  · have hreached : ((max 1 ((k + 1 : ℕ) : ℤ) - 1) * 50).toNat < (searched pg s db).length := by omega
    rw [auditNav_eq env plan hreached, hmax, Option.bind_some]
    show (if _ then some (((k + 1 : ℕ) : ℤ) + 1, s) else none) = none ∧ _ ∨
      (if _ then some (((k + 1 : ℕ) : ℤ) + 1, s) else none) = _ ∧ _
    by_cases hmore : (k + 1) * 50 < db.auditLog.length
    · right
      rw [if_pos (by omega)]
      exact ⟨rfl, hmore⟩
    · left
      rw [if_neg (by omega)]
      exact ⟨rfl, by omega⟩

/-- **What the walk shows**: the pages of its queries, one after another. -/
theorem auditWalk_from (h : Printable s) (hplain : '&' ∉ s.toList ∧ '#' ∉ s.toList ∧ '+' ∉ s.toList)
    (hbig : (db.auditLog.length : ℤ) ≤ maxBigint) : ∀ (fuel k : ℕ) (target : List Char),
    auditAt env pg db (plans k) target = some (auditContext env pg (plans k) ((k + 1 : ℕ) : ℤ) s db) →
    (auditWalk env pg db plans fuel k target).flatMap AuditPage.entries =
      ((List.range fuel).flatMap fun i => page 50 (k + i) (auditRows pg (plans (k + i)) s db)).map
        (auditPageEntry env)
  | 0, _, _, _ => rfl
  | fuel + 1, k, target, hat => by
    rw [auditWalk, hat]
    simp only
    rw [List.flatMap_cons, entries_context, List.range_succ_eq_map, List.flatMap_cons, List.map_append,
      List.flatMap_map, Nat.add_zero]
    congr 1
    have hnext := @next_context env pg db (plans k) s k
    rcases hnext with ⟨hnone, hlast⟩ | ⟨hsome, hmore⟩
    · -- the walk ends, and the pages behind it are empty
      rw [hnone]
      refine (List.map_eq_nil_iff.mpr (List.flatMap_eq_nil_iff.mpr fun i _ => page_eq_nil ?_)).symm
      rw [(auditRows_perm pg _ s db).length_eq]
      exact hlast.trans (Nat.mul_le_mul_right 50 (by omega))
    · rw [hsome]
      have hoffset : (((k + 2 : ℕ) : ℤ) - 1) * 50 ≤ maxBigint := by omega
      have hrest := auditWalk_from h hplain hbig fuel (k + 1) (PageLink.target (((k + 2 : ℕ) : ℤ), s))
        (auditAt_link h hplain (by omega) hoffset)
      refine hrest.trans (congrArg _ (List.flatMap_congr fun i _ => ?_))
      rw [Nat.succ_eq_add_one, Nat.add_right_comm, Nat.add_assoc]

/-- **The walk shows what the search selects.** From the search form along `Next`, with no writer
between and each page a query of its own, for a printable text without `&`, `#`, `+` and `%`: the
entries that it selects are shown each once and newest first, in whatever order tied entries come on
each page, exactly when no group of selected entries of one time lies across a page border. -/
theorem auditWalk_complete_iff {text : String} (h : Printable (pyStrip text))
    (hplain : ∀ c ∈ ['&', '#', '+'], c ∉ (pyStrip text).toList) (hbig : (db.auditLog.length : ℤ) ≤ maxBigint)
    (hids : Table.Distinct AuditEntry.id db.auditLog) {fuel : ℕ} (hfuel : db.auditLog.length ≤ fuel * 50) :
    (∀ plans : ℕ → Plan, ShowsSearched env pg db (pyStrip text)
        ((auditWalk env pg db plans fuel 0 (formTarget text)).flatMap AuditPage.entries)) ↔
      Whole newestFirst 50 (searched pg (pyStrip text) db) := by
  have hnul : '\x00' ∉ (pyStrip text).toList := fun hmem => absurd (h.plain _ hmem).1 (by decide)
  have hselected : (searched pg (pyStrip text) db).length ≤ fuel * 50 := (length_searched_le _ _ db).trans hfuel
  have hnodup : ((searched pg (pyStrip text) db).map AuditEntry.id).Nodup := by
    unfold searched
    split_ifs
    · exact hids
    · exact hids.filter _
  have hshown : ∀ plans : ℕ → Plan,
      (auditWalk env pg db plans fuel 0 (formTarget text)).flatMap AuditPage.entries =
        ((List.range fuel).flatMap fun k => page 50 k (auditRows pg (plans k) (pyStrip text) db)).map
          (auditPageEntry env) := by
    intro plans
    have hfirst : auditAt env pg db (plans 0) (formTarget text) =
        some (auditContext env pg (plans 0) ((0 + 1 : ℕ) : ℤ) (pyStrip text) db) :=
      auditAt_eq (readTarget_form text) rfl rfl hnul (by decide)
    rw [auditWalk_from h ⟨hplain '&' (by decide), hplain '#' (by decide), hplain '+' (by decide)⟩ hbig fuel 0
      (formTarget text) hfirst]
    simp only [Nat.zero_add]
  constructor
  · intro hall
    by_contra hw
    obtain ⟨ranks, hranks⟩ := straddle_not_perm (by decide) hnodup hw hselected
    have honce := ((hall fun k => ⟨ranks k, fun _ => 0, fun _ => 0⟩).once).map AuditPageEntry.id
    rw [hshown, List.map_map, List.map_map] at honce
    exact hranks honce
  · intro hw plans
    have hrows : ∀ k, (auditRows pg (plans k) (pyStrip text) db).Perm (searched pg (pyStrip text) db) ∧
        (auditRows pg (plans k) (pyStrip text) db).Pairwise fun e f => newestFirst e ≤ newestFirst f :=
      fun k => ⟨auditRows_perm pg (plans k) _ db, (Query.orderBy_pairwise _ _ _).imp Query.Before.key_le⟩
    rw [hshown]
    constructor
    case once => exact (pages_perm (by decide) hnodup.of_map hw hselected _ hrows).map _
    case newest =>
      refine List.pairwise_map.mpr ((pages_pairwise (by decide) fuel _ hrows).imp fun hle => ?_)
      exact neg_le_neg_iff.mp hle

/-- Fifty-one entries on two pages. -/
theorem auditWalk_notes :
    (∀ plans : ℕ → Plan, ShowsSearched exampleEnv utc oneOfMany "note"
      ((auditWalk exampleEnv utc oneOfMany plans 2 0 (formTarget " note")).flatMap AuditPage.entries)) ∧
    (searched utc "note" oneOfMany).length = 51 := by
  have hstrip : pyStrip " note" = "note" := by decide
  have hprintable : Printable (pyStrip " note") := by
    rw [hstrip]
    exact printable_of (by decide) (by decide)
  have htimes : (oneOfMany.auditLog.map newestFirst).Nodup := by decide
  have hwhole : Whole newestFirst 50 (searched utc (pyStrip " note") oneOfMany) := by
    refine whole_of_nodup (htimes.sublist (List.Sublist.map _ ?_)) 50
    unfold searched
    split_ifs
    · exact List.Sublist.refl _
    · exact List.filter_sublist
  have hids : (oneOfMany.auditLog.map AuditEntry.id).Nodup := by decide
  have hwalk : ∀ plans : ℕ → Plan, ShowsSearched exampleEnv utc oneOfMany (pyStrip " note")
      ((auditWalk exampleEnv utc oneOfMany plans 2 0 (formTarget " note")).flatMap AuditPage.entries) :=
    (auditWalk_complete_iff hprintable (FormUrl.forall_mem (by decide)) (by decide) hids (by decide)).mpr hwhole
  rw [hstrip] at hwalk
  exact ⟨hwalk, by decide⟩

end Walk

end SocDashboard
