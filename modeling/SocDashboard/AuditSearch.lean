/-
# Does the audit search find what contains its text?

`audit_log_page` puts the search between two `%` and compares with `ILIKE`, so
what is typed is read as a pattern: `%` stands for any characters, `_` for any
one, and a backslash takes what follows it as it is, be it the closing `%`.
Without these three, a search finds the entries that contain it. With one of
them there is a user name that it finds though it does not contain the search,
unless the search is too long for every name.

Key definitions: `searched`, `selectedEntries`, `tokens`, `PlainPattern`, `LowersByChar`,
`SearchesLiterally`.
Key theorems: `like_iff`, `auditMatches_of_literal`, `searchesLiterally_iff`.
-/
import SocDashboard.GoIngest
import SocDashboard.Lib.Wildcard
import SocDashboard.Reading

namespace SocDashboard

open Wildcard

/-! ### The search -/

/-- The entries that the `WHERE` clause of a search leaves. -/
def searched (pg : Pg) (search : String) (db : Db) : List AuditEntry :=
  if search = "" then db.auditLog else db.auditLog.filter (auditMatches pg search)

/-- The entries that the search of a request selects. -/
def selectedEntries (pg : Pg) (args : Args) (db : Db) : Except Exc (List AuditEntry) := do
  let search ← adaptStr (textArg args "q")
  pure (searched pg search db)

/-- `text` contains `search`, in lower case. -/
def holdsText (pg : Pg) (search text : String) : Bool := (pg.lower search).toList <:+: (pg.lower text).toList

/-- The user name or the action of an entry contains the search. -/
def holdsSearch (pg : Pg) (search : String) (e : AuditEntry) : Bool :=
  holdsText pg search e.username || holdsText pg search e.action.name

/-- The entries selected are those that contain what is searched for. -/
def SearchesLiterally (pg : Pg) (q : String) (db : Db) : Prop :=
  selectedEntries pg [("q", q)] db = .ok (db.auditLog.filter (holdsSearch pg (pyStrip q)))

/-- What the column `username`, a `VARCHAR(64)`, can hold. -/
def AuditNames (db : Db) : Prop := ∀ e ∈ db.auditLog, e.username.length ≤ 64 ∧ storable e.username = true

/-- The pages of the answer are cut from these. -/
theorem auditRows_perm (pg : Pg) (plan : Plan) (search : String) (db : Db) :
    (auditRows pg plan search db).Perm (searched pg search db) :=
  Query.orderBy_perm _ _ _

/-! ### The pattern -/

/-- The characters that `LIKE` does not take as they are. -/
def metacharacters : List Char := ['%', '_', '\\']

def PlainPattern (cs : List Char) : Prop := ∀ c ∈ cs, c ∉ metacharacters

instance (cs : List Char) : Decidable (PlainPattern cs) :=
  List.decidableBAll (fun c => c ∉ metacharacters) cs

/-- The tokens of a pattern. -/
def tokens : List Char → List (Token Char)
  | [] => []
  | '%' :: p => .any :: tokens p
  | '_' :: p => .one :: tokens p
  | '\\' :: c :: p => .letter c :: tokens p
  | c :: p => .letter c :: tokens p

/-- **`LIKE` is the matching of the tokens.** -/
theorem like_iff (p s : List Char) : like p s = true ↔ Matches (tokens p) s := by
  induction p using tokens.induct generalizing s with
  | case1 =>
    rw [like, tokens, Matches, List.isEmpty_iff]
  | case2 p ih =>
    simp only [like, tokens, Matches, List.any_eq_true, List.mem_tails, ih]
  | case3 p ih =>
    cases s with
    | nil => simp [like, tokens, Matches]
    | cons b s => simp [like, tokens, Matches, ih]
  | case4 c p ih =>
    cases s with
    | nil => simp [like, tokens, Matches]
    | cons b s => simp [like, tokens, Matches, ih, eq_comm (a := c)]
  | case5 c p hpercent hunderscore hescape ih =>
    rw [tokens.eq_5 _ _ hpercent hunderscore hescape]
    cases s with
    | nil =>
      rw [like.eq_7 _ _ hpercent hunderscore hescape]
      simp [Matches]
    | cons b s =>
      rw [like.eq_8 _ _ _ _ hpercent hunderscore hescape]
      simp [Matches, ih, eq_comm (a := c)]

/-- A plain pattern has only letters. -/
theorem tokens_plain_append {q : List Char} (h : PlainPattern q) (p : List Char) :
    tokens (q ++ p) = q.map .letter ++ tokens p := by
  induction q with
  | nil => rfl
  | cons c q ih =>
    have hc : c ∉ metacharacters := h c List.mem_cons_self
    simp only [metacharacters, List.mem_cons, List.not_mem_nil, or_false, not_or] at hc
    rw [List.cons_append, tokens.eq_5 _ _ hc.1 hc.2.1 fun d r hd _ => hc.2.2 hd,
      ih fun d hd => h d (List.mem_cons_of_mem c hd)]
    rfl

/-- An escape before nothing. -/
theorem nil_of_escape {c : Char} {q : List Char} (h : ∀ d r, c = '\\' → q = d :: r → False) (hc : c = '\\') :
    q = [] := by
  cases q with
  | nil => rfl
  | cons d q => exact absurd rfl (h d q hc)

theorem mem_of_letter_mem_tokens {c : Char} (p : List Char) (h : .letter c ∈ tokens p) : c ∈ p := by
  induction p using tokens.induct with
  | case1 => simp [tokens] at h
  | case2 p ih =>
    have htail : .letter c ∈ tokens p := by simpa [tokens] using h
    exact List.mem_cons_of_mem _ (ih htail)
  | case3 p ih =>
    have htail : .letter c ∈ tokens p := by simpa [tokens] using h
    exact List.mem_cons_of_mem _ (ih htail)
  | case4 d p ih =>
    rw [tokens, List.mem_cons, Token.letter.injEq] at h
    rcases h with rfl | h
    · simp
    · exact List.mem_cons_of_mem _ (List.mem_cons_of_mem _ (ih h))
  | case5 d p hpercent hunderscore hescape ih =>
    rw [tokens.eq_5 _ _ hpercent hunderscore hescape, List.mem_cons, Token.letter.injEq] at h
    rcases h with rfl | h
    · exact List.mem_cons_self
    · exact List.mem_cons_of_mem _ (ih h)

/-- The closing `%` adds nothing to the length of what matches. -/
theorem leastLength_tokens_le (q : List Char) : leastLength (tokens (q ++ ['%'])) ≤ q.length := by
  induction q using tokens.induct with
  | case1 => exact le_rfl
  | case2 q ih => exact ih.trans (Nat.le_succ _)
  | case3 q ih => exact Nat.succ_le_succ ih
  | case4 c q ih => exact (Nat.succ_le_succ ih).trans (Nat.le_succ _)
  | case5 c q hpercent hunderscore hescape ih =>
    by_cases hc : c = '\\'
    · rw [hc, nil_of_escape hescape hc]
      exact le_rfl
    · rw [List.cons_append, tokens.eq_5 _ _ hpercent hunderscore fun d r hd _ => hc hd]
      exact Nat.succ_le_succ ih

section Lower

variable {f : Char → Char}

/-- `f` keeps the metacharacters and makes no other character one. -/
structure KeepsMetacharacters (f : Char → Char) : Prop where
  percent : ∀ c, f c = '%' ↔ c = '%'
  underscore : ∀ c, f c = '_' ↔ c = '_'
  escape : ∀ c, f c = '\\' ↔ c = '\\'

theorem tokens_map (hf : KeepsMetacharacters f) (p : List Char) :
    tokens (p.map f) = (tokens p).map (Token.map f) := by
  induction p using tokens.induct with
  | case1 => rfl
  | case2 p ih =>
    rw [List.map_cons, (hf.percent '%').mpr rfl, tokens, ih]
    rfl
  | case3 p ih =>
    rw [List.map_cons, (hf.underscore '_').mpr rfl, tokens, ih]
    rfl
  | case4 c p ih =>
    rw [List.map_cons, List.map_cons, (hf.escape '\\').mpr rfl, tokens, ih]
    rfl
  | case5 c p hpercent hunderscore hescape ih =>
    have hkept : ∀ d r, f c = '\\' → p.map f = d :: r → False := by
      intro d r hc hp
      obtain ⟨d', r', rfl, -, -⟩ := List.map_eq_cons_iff.mp hp
      exact hescape d' r' ((hf.escape c).mp hc) rfl
    rw [List.map_cons, tokens.eq_5 _ _ (fun h => hpercent ((hf.percent c).mp h))
      (fun h => hunderscore ((hf.underscore c).mp h)) hkept, tokens.eq_5 _ _ hpercent hunderscore hescape, ih]
    rfl

theorem plain_map (hf : KeepsMetacharacters f) {q : List Char} (h : PlainPattern q) : PlainPattern (q.map f) := by
  intro c hc hmeta
  obtain ⟨d, hd, rfl⟩ := List.mem_map.mp hc
  apply h d hd
  simpa [metacharacters, hf.percent, hf.underscore, hf.escape] using hmeta

/-- A pattern that is like its instance, letter for letter, is plain. -/
theorem plain_of_fill (hf : KeepsMetacharacters f) (q : List Char)
    (h : q.map f = (fill 'a' (tokens (q ++ ['%']))).map f) : PlainPattern q := by
  have hlength : q.length = leastLength (tokens (q ++ ['%'])) := by
    have := congrArg List.length h
    rwa [List.length_map, List.length_map, length_fill] at this
  induction q using tokens.induct with
  | case1 => exact fun c hc => absurd hc List.not_mem_nil
  | case2 q ih =>
    have hle : leastLength (tokens ('%' :: q ++ ['%'])) ≤ q.length := leastLength_tokens_le q
    rw [List.length_cons] at hlength
    omega
  | case3 q ih =>
    have hhead : f '_' = f 'a' := (List.cons.inj h).1
    rw [(hf.underscore '_').mpr rfl] at hhead
    exact absurd ((hf.underscore 'a').mp hhead.symm) (by decide)
  | case4 c q ih =>
    have hle : leastLength (tokens ('\\' :: c :: q ++ ['%'])) ≤ q.length + 1 :=
      Nat.succ_le_succ (leastLength_tokens_le q)
    rw [List.length_cons, List.length_cons] at hlength
    omega
  | case5 c q hpercent hunderscore hescape ih =>
    by_cases hc : c = '\\'
    · rw [hc, nil_of_escape hescape hc] at h
      have hhead : f '\\' = f '%' := (List.cons.inj h).1
      rw [(hf.escape '\\').mpr rfl] at hhead
      exact absurd ((hf.escape '%').mp hhead.symm) (by decide)
    · rw [List.cons_append, tokens.eq_5 _ _ hpercent hunderscore fun d r hd _ => hc hd] at h hlength
      have htail : PlainPattern q := ih (List.cons.inj h).2 (Nat.succ.inj hlength)
      intro d hd
      rcases List.mem_cons.mp hd with rfl | hd
      · simp only [metacharacters, List.mem_cons, List.not_mem_nil, or_false, not_or]
        exact ⟨hpercent, hunderscore, hc⟩
      · exact htail d hd

end Lower

/-! ### The entries -/

/-- The database lowers a text character by character, and keeps the metacharacters apart. -/
structure LowersByChar (pg : Pg) (f : Char → Char) : Prop extends KeepsMetacharacters f where
  lower : ∀ s, (pg.lower s).toList = s.toList.map f

section Entries

variable {pg : Pg} {f : Char → Char} {search text : String}

/-- The pattern of a search, without its first `%`. -/
def searchTokens (search : String) : List (Token Char) := tokens (search.toList ++ ['%'])

theorem ilike_iff (h : LowersByChar pg f) :
    ilike pg text ("%" ++ search ++ "%") = true ↔
      Matches (.any :: (searchTokens search).map (Token.map f)) (text.toList.map f) := by
  rw [ilike, like_iff, h.lower, h.lower, tokens_map h.toKeepsMetacharacters]
  simp only [String.toList_append]
  rfl

theorem holdsText_iff (h : LowersByChar pg f) :
    holdsText pg search text = true ↔ search.toList.map f <:+: text.toList.map f := by
  rw [holdsText, decide_eq_true_iff, h.lower, h.lower]

/-- **A plain search finds the texts that contain it.** -/
theorem ilike_of_plain (h : LowersByChar pg f) (hplain : PlainPattern search.toList) :
    ilike pg text ("%" ++ search ++ "%") = holdsText pg search text := by
  have htokens : .any :: (searchTokens search).map (Token.map f) =
      containing ((search.toList.map f).map .letter) := by
    rw [searchTokens, tokens_plain_append hplain, List.map_append, List.map_map, containing, List.map_map]
    rfl
  rw [Bool.eq_iff_iff, ilike_iff h, holdsText_iff h, htokens, matches_containing_letters]

/-- A search that is too long finds nothing, and nothing contains it. -/
theorem ilike_of_long (h : LowersByChar pg f) (hlong : text.length < leastLength (searchTokens search)) :
    ilike pg text ("%" ++ search ++ "%") = holdsText pg search text := by
  have hmatch : ¬Matches (.any :: (searchTokens search).map (Token.map f)) (text.toList.map f) := by
    intro hmatches
    have hle : leastLength ((searchTokens search).map (Token.map f)) ≤ (text.toList.map f).length :=
      leastLength_le_of_matches (p := .any :: _) hmatches
    rw [leastLength_map, List.length_map, String.length_toList] at hle
    omega
  have hinfix : ¬(search.toList.map f <:+: text.toList.map f) := by
    intro hin
    have hle := hin.length_le
    have hleast : leastLength (searchTokens search) ≤ search.toList.length := leastLength_tokens_le search.toList
    rw [List.length_map, List.length_map] at hle
    rw [← String.length_toList] at hlong
    omega
  rw [Bool.eq_iff_iff, ilike_iff h, holdsText_iff h]
  exact iff_of_false hmatch hinfix

/-- The instance of a search, as a user name. -/
def instanceName (search : String) : String := String.ofList (fill 'a' (searchTokens search))

theorem ilike_instanceName (h : LowersByChar pg f) (search : String) :
    ilike pg (instanceName search) ("%" ++ search ++ "%") = true := by
  rw [ilike_iff h, instanceName, String.toList_ofList, fill_map]
  exact ⟨_, List.suffix_refl _, matches_fill _ _⟩

/-- **It contains the search only when that is plain.** -/
theorem plain_of_holdsText (h : LowersByChar pg f) (hholds : holdsText pg search (instanceName search) = true) :
    PlainPattern search.toList := by
  rw [holdsText_iff h, instanceName, String.toList_ofList] at hholds
  refine plain_of_fill h.toKeepsMetacharacters search.toList (hholds.eq_of_length_le ?_)
  rw [List.length_map, List.length_map, length_fill]
  exact leastLength_tokens_le search.toList

/-- `escalate` has no metacharacter. -/
theorem plain_of_holds_escalate (h : LowersByChar pg f) (hholds : holdsText pg search "escalate" = true) :
    PlainPattern search.toList := by
  rw [holdsText_iff h] at hholds
  have hescalate : PlainPattern "escalate".toList := by decide
  intro c hc hmeta
  have hf : f c = c := by
    simp only [metacharacters, List.mem_cons, List.not_mem_nil, or_false] at hmeta
    rcases hmeta with rfl | rfl | rfl
    · exact (h.percent _).mpr rfl
    · exact (h.underscore _).mpr rfl
    · exact (h.escape _).mpr rfl
  apply plain_map h.toKeepsMetacharacters hescalate c
  · have hmem := hholds.subset (List.mem_map_of_mem (f := f) hc)
    rwa [hf] at hmem
  · exact hmeta

/-- The log of one escalation, by the user of that name. -/
def escalationBy (name : String) : Db :=
  { applySchema none with
    auditLog := [⟨1, 1, 1, name, .triage .escalate, .open_, .escalated, none, 0⟩] }

theorem auditNames_instance (hnul : '\x00' ∉ search.toList) (hshort : leastLength (searchTokens search) ≤ 64) :
    AuditNames (escalationBy (instanceName search)) := by
  intro e he
  obtain rfl := List.mem_singleton.mp he
  constructor
  · show (String.ofList (fill 'a' (searchTokens search))).length ≤ 64
    rwa [← String.length_toList, String.toList_ofList, length_fill]
  · show storable (instanceName search) = true
    rw [storable, decide_eq_true_iff, instanceName, String.toList_ofList]
    intro hmem
    rcases mem_fill hmem with ha | hletter
    · exact absurd ha (by decide)
    · have hpattern := mem_of_letter_mem_tokens _ hletter
      rcases List.mem_append.mp hpattern with hin | hin
      · exact hnul hin
      · exact absurd hin (by decide)

end Entries

/-! ### When the search is literal -/

/-- The search is bound, and is plain or too long for every name. -/
def LiteralSearch (search : String) : Prop :=
  '\x00' ∉ search.toList ∧ (PlainPattern search.toList ∨ 64 < leastLength (searchTokens search))

theorem selectedEntries_eq {pg : Pg} {q : String} (hq : pyStrip q ≠ "") (db : Db) :
    selectedEntries pg [("q", q)] db =
      if '\x00' ∈ (pyStrip q).toList then .error .valueError
      else .ok (db.auditLog.filter (auditMatches pg (pyStrip q))) := by
  have htext : textArg [("q", q)] "q" = pyStrip q := rfl
  rw [selectedEntries, htext, adaptStr]
  by_cases hnul : '\x00' ∈ (pyStrip q).toList
  · rw [if_pos hnul, if_pos hnul]
    rfl
  · rw [if_neg hnul, if_neg hnul]
    show Except.ok (searched pg (pyStrip q) db) = _
    rw [searched, if_neg hq]

/-- A literal search selects what contains it. -/
theorem auditMatches_of_literal {pg : Pg} {f : Char → Char} (h : LowersByChar pg f) {search : String}
    (hsearch : LiteralSearch search) {e : AuditEntry} (hname : e.username.length ≤ 64) :
    auditMatches pg search e = holdsSearch pg search e := by
  rw [auditMatches, holdsSearch]
  rcases hsearch.2 with hplain | hlong
  · rw [ilike_of_plain h hplain, ilike_of_plain h hplain]
  · have haction : e.action.name.length ≤ 64 := by
      cases e.action with
      | noteAdded => decide
      | triage action => cases action <;> decide
    rw [ilike_of_long h (by omega), ilike_of_long h (by omega)]

/-- **When the audit search is literal**, whatever the log: exactly when what is searched for has no
NUL, and none of the three metacharacters, or is too long for every name. -/
theorem searchesLiterally_iff {pg : Pg} {f : Char → Char} (h : LowersByChar pg f) (q : String)
    (hq : pyStrip q ≠ "") :
    (∀ db, AuditNames db → SearchesLiterally pg q db) ↔ LiteralSearch (pyStrip q) := by
  constructor
  · intro hall
    have hnul : '\x00' ∉ (pyStrip q).toList := by
      intro hnul
      have hempty : AuditNames (applySchema none) := fun e he => absurd he List.not_mem_nil
      have herror := hall _ hempty
      rw [SearchesLiterally, selectedEntries_eq hq, if_pos hnul] at herror
      cases herror
    refine ⟨hnul, ?_⟩
    by_contra hmeta
    rw [not_or, not_lt] at hmeta
    have hrows := hall _ (auditNames_instance hnul hmeta.2)
    rw [SearchesLiterally, selectedEntries_eq hq, if_neg hnul, Except.ok.injEq] at hrows
    apply hmeta.1
    -- the search finds the instance, so the instance contains it
    have hfound : (⟨1, 1, 1, instanceName (pyStrip q), .triage .escalate, .open_, .escalated, none, 0⟩ :
        AuditEntry) ∈ (escalationBy (instanceName (pyStrip q))).auditLog.filter (auditMatches pg (pyStrip q)) :=
      List.mem_filter.mpr ⟨List.mem_singleton.mpr rfl,
        Bool.or_eq_true_iff.mpr (.inl (ilike_instanceName h (pyStrip q)))⟩
    rw [hrows] at hfound
    rcases Bool.or_eq_true_iff.mp (List.mem_filter.mp hfound).2 with hname | haction
    · exact plain_of_holdsText h hname
    · exact plain_of_holds_escalate h haction
  · intro hliteral db hnames
    rw [SearchesLiterally, selectedEntries_eq hq, if_neg hliteral.1, Except.ok.injEq]
    exact List.filter_congr fun e he => auditMatches_of_literal h hliteral (hnames e he).1

/-! ### An underscore -/

theorem utc_lowers : LowersByChar utc id :=
  ⟨⟨fun _ => Iff.rfl, fun _ => Iff.rfl, fun _ => Iff.rfl⟩, fun s => (List.map_id s.toList).symm⟩

theorem searchesLiterally_admin :
    (∀ db, AuditNames db → SearchesLiterally utc " admin" db) ↔ LiteralSearch (pyStrip " admin") :=
  searchesLiterally_iff utc_lowers " admin" (by decide)

/-- **A search for `_`** selects the escalation of `ana`, in which there is none. -/
theorem underscore_not_literal :
    AuditNames (escalationBy "ana") ∧ holdsText utc "_" "ana" = false ∧ holdsText utc "_" "escalate" = false ∧
      ¬SearchesLiterally utc "_" (escalationBy "ana") := by
  have hname : AuditNames (escalationBy "ana") := by
    intro e he
    obtain rfl := List.mem_singleton.mp he
    exact ⟨by decide, by decide⟩
  have hselected : (escalationBy "ana").auditLog.filter (auditMatches utc (pyStrip "_")) ≠
      (escalationBy "ana").auditLog.filter (holdsSearch utc (pyStrip "_")) := by decide
  refine ⟨hname, by decide, by decide, fun h => hselected ?_⟩
  rw [SearchesLiterally, selectedEntries_eq (by decide), if_neg (by decide), Except.ok.injEq] at h
  exact h

end SocDashboard
