/-
# Conditions of parameterised statements

A statement is a text with placeholders `%s` and a list of parameters. The
driver looks for the placeholders in the text and nowhere else (`placeholders`);
the database reads the text as words (`words`) and, behind `WHERE`, as
comparisons of a column with a placeholder joined by `AND` (`conjunction`).
What a comparison says of a row once its parameter is bound is the user's
(`meaning`).

A list of comparisons written out is read back as it was, with one placeholder
for each (`conjunction_words`, `placeholders_conjText`), so a text assembled of
fixed comparisons means their conjunction whatever the parameters are.

Key definitions: `words`, `placeholders`, `Comparison`, `conjText`,
`conjunction`, `evaluate`.
Key theorems: `words_append`, `placeholders_append`, `conjunction_words`,
`placeholders_conjText`.
-/
import Mathlib.Data.List.Basic

namespace ParamSql

/-! ### Words -/

def isSpace (c : Char) : Bool := c = ' ' || c = '\n' || c = '\t' || c = '\r'

/-- The runs of characters between whitespace; `w` is the run so far. -/
def wordsFrom (w : List Char) : List Char → List (List Char)
  | [] => if w = [] then [] else [w]
  | c :: cs =>
    if isSpace c then
      if w = [] then wordsFrom [] cs else w :: wordsFrom [] cs
    else wordsFrom (w ++ [c]) cs

def words (s : String) : List String := (wordsFrom [] s.toList).map String.ofList

/-- Texts with whitespace between them are read one after the other. -/
theorem wordsFrom_append {sep : Char} (hsep : isSpace sep = true) (bs : List Char) :
    ∀ as w : List Char, wordsFrom w (as ++ sep :: bs) = wordsFrom w as ++ wordsFrom [] bs
  | [], w => by
    simp only [List.nil_append, wordsFrom, hsep, if_true]
    split_ifs <;> rfl
  | c :: as, w => by
    rw [List.cons_append, wordsFrom, wordsFrom]
    by_cases hc : isSpace c = true
    · rw [if_pos hc, if_pos hc, wordsFrom_append hsep bs as []]
      split_ifs <;> rfl
    · rw [if_neg hc, if_neg hc, wordsFrom_append hsep bs as (w ++ [c])]

theorem words_append {sep : Char} (hsep : isSpace sep = true) (a b : String) :
    words (a ++ String.ofList [sep] ++ b) = words a ++ words b := by
  have htext : (a ++ String.ofList [sep] ++ b).toList = a.toList ++ sep :: b.toList := by simp
  rw [words, htext, wordsFrom_append hsep, List.map_append]
  rfl

/-- A text without whitespace is one word. -/
def IsWord (s : String) : Prop := s ≠ "" ∧ ∀ c ∈ s.toList, isSpace c = false

theorem isWord_of_all {s : String} (hne : s ≠ "") (h : (s.toList.all fun c => !isSpace c) = true) : IsWord s :=
  ⟨hne, fun c hc => by simpa using List.all_eq_true.mp h c hc⟩

theorem words_of_isWord {s : String} (h : IsWord s) : words s = [s] := by
  have general : ∀ cs w : List Char, (∀ c ∈ cs, isSpace c = false) → w ++ cs ≠ [] →
      wordsFrom w cs = [w ++ cs] := by
    intro cs
    induction cs with
    | nil =>
      intro w _ hne
      rw [List.append_nil] at hne ⊢
      rw [wordsFrom, if_neg hne]
    | cons c cs ih =>
      intro w hcs hne
      have hc : isSpace c = false := hcs c List.mem_cons_self
      rw [wordsFrom, hc, if_neg Bool.false_ne_true, ih]
      · rw [List.append_assoc, List.singleton_append]
      · exact fun d hd => hcs d (List.mem_cons_of_mem _ hd)
      · simp
  have hne : s.toList ≠ [] := fun he => h.1 (String.toList_eq_nil_iff.mp he)
  rw [words, general s.toList [] h.2 hne, List.nil_append, List.map_singleton, String.ofList_toList]

/-! ### Placeholders -/

/-- The placeholders the driver finds: `%s`, where `%%` is a percent sign and any
other `%` an error. -/
def placeholders : List Char → Option ℕ
  | [] => some 0
  | '%' :: 's' :: cs => (placeholders cs).map (· + 1)
  | '%' :: '%' :: cs => placeholders cs
  | '%' :: _ => none
  | _ :: cs => placeholders cs

theorem placeholders_append {as : List Char} {n : ℕ} (h : placeholders as = some n) (bs : List Char) :
    placeholders (as ++ bs) = (placeholders bs).map (n + ·) := by
  fun_induction placeholders as generalizing n with
  | case1 =>
    obtain rfl : 0 = n := by simpa using h
    simp
  | case2 cs ih =>
    obtain ⟨m, hm, rfl⟩ := Option.map_eq_some_iff.mp h
    rw [List.cons_append, List.cons_append, placeholders, ih hm, Option.map_map]
    congr 1
    funext k
    simp only [Function.comp_apply]
    omega
  | case3 cs ih =>
    rw [List.cons_append, List.cons_append, placeholders, ih h]
  | case4 => simp at h
  | case5 c cs h1 h2 h3 ih =>
    rw [List.cons_append, placeholders, ih h]
    · exact fun _ he _ => h3 he
    · exact fun _ he _ => h3 he
    · exact h3

/-- A text without a percent sign has none. -/
theorem placeholders_of_not_mem {cs : List Char} (h : '%' ∉ cs) : placeholders cs = some 0 := by
  induction cs with
  | nil => rfl
  | cons c cs ih =>
    have hne : c ≠ '%' := fun he => h (he ▸ List.mem_cons_self)
    rw [placeholders, ih fun hm => h (List.mem_cons_of_mem _ hm)]
    · exact fun _ he _ => hne he
    · exact fun _ he _ => hne he
    · exact hne

theorem not_mem_intercalate {c : Char} {sep : String} (hsep : c ∉ sep.toList) :
    ∀ {l : List String}, (∀ s ∈ l, c ∉ s.toList) → c ∉ (sep.intercalate l).toList
  | [], _ => by simp
  | [s], h => by
    rw [String.intercalate_singleton]
    exact h s List.mem_cons_self
  | s :: t :: l, h => by
    have ih : c ∉ (sep.intercalate (t :: l)).toList :=
      not_mem_intercalate hsep fun u hu => h u (List.mem_cons_of_mem s hu)
    have hs := h s List.mem_cons_self
    rw [String.intercalate_cons_cons, String.toList_append, String.toList_append]
    simp only [List.mem_append, not_or]
    exact ⟨⟨hs, hsep⟩, ih⟩

/-! ### Comparisons -/

/-- `column op %s`. -/
structure Comparison where
  column : String
  op : String
  deriving DecidableEq, Repr

def Comparison.text (c : Comparison) : String := c.column ++ " " ++ c.op ++ " %s"

/-- The comparisons of a text, joined by `AND`. -/
def conjText (cs : List Comparison) : String := " AND ".intercalate (cs.map Comparison.text)

/-- Column and operator are words, and no percent sign is in them. -/
structure Comparison.Plain (c : Comparison) : Prop where
  column : IsWord c.column
  op : IsWord c.op
  noPercent : '%' ∉ c.column.toList ∧ '%' ∉ c.op.toList

/-- The comparisons that the words begin with, and the words behind them. -/
def conjunction : List String → Option (List Comparison × List String)
  | column :: op :: "%s" :: "AND" :: rest =>
    (conjunction rest).map fun found => (⟨column, op⟩ :: found.1, found.2)
  | column :: op :: "%s" :: rest => some ([⟨column, op⟩], rest)
  | _ => none

theorem words_comparison {c : Comparison} (h : c.Plain) : words c.text = [c.column, c.op, "%s"] := by
  have hspace : isSpace ' ' = true := rfl
  have hs : words "%s" = ["%s"] := by decide
  have htext : c.text = c.column ++ String.ofList [' '] ++ (c.op ++ String.ofList [' '] ++ "%s") := by
    simp [Comparison.text, String.append_assoc]
  rw [htext, words_append hspace, words_append hspace, words_of_isWord h.column, words_of_isWord h.op, hs]
  rfl

/-- The words of a conjunction. -/
def conjWords : List Comparison → List String
  | [] => []
  | [c] => [c.column, c.op, "%s"]
  | c :: d :: cs => c.column :: c.op :: "%s" :: "AND" :: conjWords (d :: cs)

theorem words_conjText : ∀ {cs : List Comparison}, (∀ c ∈ cs, c.Plain) → words (conjText cs) = conjWords cs
  | [], _ => by simp [conjText, words, wordsFrom, conjWords]
  | [c], h => by
    rw [conjText, List.map_singleton, String.intercalate_singleton, words_comparison (h c List.mem_cons_self)]
    rfl
  | c :: d :: cs, h => by
    have hspace : isSpace ' ' = true := rfl
    have hand : words "AND" = ["AND"] := by decide
    have htext : conjText (c :: d :: cs) =
        c.text ++ String.ofList [' '] ++ ("AND" ++ String.ofList [' '] ++ conjText (d :: cs)) := by
      have hsep : " AND " = String.ofList [' '] ++ ("AND" ++ String.ofList [' ']) := by decide
      rw [conjText, List.map_cons, List.map_cons, String.intercalate_cons_cons]
      show c.text ++ " AND " ++ conjText (d :: cs) = _
      rw [hsep]
      simp only [String.append_assoc]
    have ih : words (conjText (d :: cs)) = conjWords (d :: cs) :=
      words_conjText fun c' hc' => h c' (List.mem_cons_of_mem _ hc')
    rw [htext, words_append hspace, words_append hspace, ih, hand, words_comparison (h c List.mem_cons_self)]
    rfl

/-- **A conjunction is read back as it was written**, whatever follows but another `AND`. -/
theorem conjunction_words {rest : List String} (hrest : rest.head? ≠ some "AND") :
    ∀ {cs : List Comparison}, cs ≠ [] → conjunction (conjWords cs ++ rest) = some (cs, rest)
  | [c], _ => by
    rw [conjWords]
    show conjunction (c.column :: c.op :: "%s" :: rest) = _
    cases rest with
    | nil => rfl
    | cons w rest =>
      have hw : w ≠ "AND" := fun he => hrest (by rw [he]; rfl)
      rw [conjunction]
      exact fun rest' he => hw (List.cons.inj he).1
  | c :: d :: cs, _ => by
    have ih : conjunction (conjWords (d :: cs) ++ rest) = some (d :: cs, rest) :=
      conjunction_words hrest (List.cons_ne_nil d cs)
    rw [conjWords]
    show conjunction (c.column :: c.op :: "%s" :: "AND" :: (conjWords (d :: cs) ++ rest)) = _
    rw [conjunction, ih]
    rfl

theorem placeholders_comparison {c : Comparison} (h : c.Plain) : placeholders c.text.toList = some 1 := by
  have htext : c.text.toList = (c.column.toList ++ ' ' :: c.op.toList ++ [' ']) ++ "%s".toList := by
    simp [Comparison.text]
  have hnone : placeholders (c.column.toList ++ ' ' :: c.op.toList ++ [' ']) = some 0 := by
    apply placeholders_of_not_mem
    have := h.noPercent
    simp [this.1, this.2]
  rw [htext, placeholders_append hnone]
  rfl

/-- One placeholder for each comparison. -/
theorem placeholders_conjText : ∀ {cs : List Comparison}, (∀ c ∈ cs, c.Plain) →
    placeholders (conjText cs).toList = some cs.length
  | [], _ => by simp [conjText, placeholders]
  | [c], h => by
    rw [conjText, List.map_singleton, String.intercalate_singleton,
      placeholders_comparison (h c List.mem_cons_self)]
    rfl
  | c :: d :: cs, h => by
    have ih : placeholders (conjText (d :: cs)).toList = some (d :: cs).length :=
      placeholders_conjText fun c' hc' => h c' (List.mem_cons_of_mem _ hc')
    have hand : placeholders " AND ".toList = some 0 := by decide
    rw [conjText, List.map_cons] at ih
    rw [conjText, List.map_cons, List.map_cons, String.intercalate_cons_cons, String.toList_append,
      String.toList_append, List.append_assoc, placeholders_append (placeholders_comparison (h c List.mem_cons_self)),
      placeholders_append hand, ih]
    simp only [Option.map_some, List.length_cons]
    congr 1
    omega

/-! ### What a conjunction says of a row -/

section Evaluate

variable {ρ V ε : Type}

/-- Each comparison with its parameter, in order. -/
def evaluate (meaning : Comparison → V → Except ε (ρ → Bool)) (cs : List Comparison) (vs : List V) :
    Except ε (ρ → Bool) := do
  let tests ← (cs.zip vs).mapM fun p => meaning p.1 p.2
  pure fun row => tests.all fun test => test row

end Evaluate

end ParamSql
