/-
# Counting in a JavaScript object

`counts[k] = (counts[k] || 0) + 1` on an object literal. Reading a property
that the object does not have falls through to `Object.prototype`: under the
name of one of its members nothing is counted, since adding to the member
gives a text, and assigning to `__proto__` a value that is no object does
nothing. Under any other name it counts. So the numbers of such an object add
up to the keys that are no such names (`total_counted`).

A chart has a label and a value for each key, in an order of its own: that of
`Object.keys`, that of `sort`, or a fixed one.

Key definitions: `objectPrototype`, `Value`, `bump`, `counted`, `objectKeys`,
`sorted`, `chart`.
Key theorems: `counted_of_plain`, `total_counted`, `chart_perm`, `length_of_chart`.
-/
import SocDashboard.Lib.Dict
import Mathlib.Data.List.Lex
import Mathlib.Data.List.Sort

namespace JsCounts

open Dict

/-- The names of the members of `Object.prototype`. -/
def objectPrototype : List String :=
  ["constructor", "__defineGetter__", "__defineSetter__", "hasOwnProperty", "__lookupGetter__",
   "__lookupSetter__", "isPrototypeOf", "propertyIsEnumerable", "toString", "valueOf", "__proto__",
   "toLocaleString"]

/-- What a property comes to hold. -/
inductive Value
  | number (n : ℕ)
  | text (s : String)
  deriving DecidableEq, Repr

/-- An object by its own properties, in the order in which they were made. -/
abbrev Object := Dict String Value

/-- `(counts[k] || 0) + 1`; `shown` is the text of an inherited member. -/
def increment (shown : String → String) (counts : Object) (k : String) : Value :=
  match getItem counts k with
  | some (.number n) => .number (n + 1)
  | some (.text s) => if s = "" then .number 1 else .text (s ++ "1")
  | none => if k ∈ objectPrototype then .text (shown k ++ "1") else .number 1

/-- `counts[k] = (counts[k] || 0) + 1`. -/
def bump (shown : String → String) (counts : Object) (k : String) : Object :=
  if k = "__proto__" then counts else setItem counts k (increment shown counts k)

/-- The counts of a list of keys. -/
def counted (shown : String → String) (ks : List String) : Object := ks.foldl (bump shown) []

/-- The counts as JavaScript would hold them. -/
def numbers (d : Dict String ℕ) : Object := d.map fun e => (e.1, .number e.2)

variable {shown : String → String} {d : Object} {k : String} {ks : List String}

theorem nodup_counted : (keys (counted shown ks)).Nodup := by
  have general : ∀ (ks : List String) (d : Object), (keys d).Nodup → (keys (ks.foldl (bump shown) d)).Nodup := by
    intro ks
    induction ks with
    | nil => exact fun d h => h
    | cons k ks ih =>
      intro d h
      rw [List.foldl_cons]
      apply ih
      rw [bump]
      split_ifs
      · exact h
      · exact nodup_setItem h k _
  exact general ks [] List.nodup_nil

/-- A key of the counts was counted. -/
theorem mem_of_mem_counted (h : k ∈ keys (counted shown ks)) : k ∈ ks := by
  have general : ∀ (ks : List String) (d : Object), k ∈ keys (ks.foldl (bump shown) d) → k ∈ keys d ∨ k ∈ ks := by
    intro ks
    induction ks with
    | nil => exact fun d hk => .inl hk
    | cons x ks ih =>
      intro d hk
      rcases ih _ hk with hd | hks
      · rw [bump] at hd
        split_ifs at hd
        · exact .inl hd
        · rcases mem_keys_setItem.mp hd with rfl | hd
          · exact .inr List.mem_cons_self
          · exact .inl hd
      · exact .inr (List.mem_cons_of_mem x hks)
  exact (general ks [] h).resolve_left List.not_mem_nil

/-! ### Keys that are no members -/

theorem bump_numbers (c : Dict String ℕ) (hk : k ∉ objectPrototype) :
    bump shown (numbers c) k = numbers (Dict.bump c k) := by
  have hproto : k ≠ "__proto__" := by
    rintro rfl
    exact hk (by decide)
  have hnew : increment shown (numbers c) k = .number ((getItem c k).getD 0 + 1) := by
    rw [increment, numbers, getItem_map]
    cases getItem c k with
    | none => simp [hk]
    | some n => rfl
  rw [bump, if_neg hproto, hnew, Dict.bump, numbers, numbers, setItem_map]

/-- **Without such a key the object counts.** -/
theorem counted_of_plain (h : ∀ k ∈ ks, k ∉ objectPrototype) : counted shown ks = numbers (count ks) := by
  have general : ∀ (ks : List String) (c : Dict String ℕ), (∀ k ∈ ks, k ∉ objectPrototype) →
      ks.foldl (bump shown) (numbers c) = numbers (ks.foldl Dict.bump c) := by
    intro ks
    induction ks with
    | nil => exact fun c _ => rfl
    | cons k ks ih =>
      intro c hks
      rw [List.foldl_cons, List.foldl_cons, bump_numbers c (hks k List.mem_cons_self)]
      exact ih _ fun k' hk' => hks k' (List.mem_cons_of_mem k hk')
  exact general ks [] h

/-! ### Keys that are -/

/-- What a value adds to a sum of numbers. -/
def weight : Value → ℕ
  | .number n => n
  | .text _ => 0

/-- A member's name never holds a number, and another name nothing else. -/
def Typed (d : Object) : Prop :=
  ∀ k v, getItem d k = some v →
    if k ∈ objectPrototype then ∃ s, v = .text s ∧ s ≠ "" else ∃ n, v = .number n

theorem append_one_ne_empty (s : String) : s ++ "1" ≠ "" := by
  intro h
  have := congrArg String.length h
  simp at this

/-- What is assigned: a text under a member's name, else the next number. -/
theorem increment_of_typed (shown : String → String) (hd : Typed d) (k : String) :
    if k ∈ objectPrototype then ∃ s, increment shown d k = .text s ∧ s ≠ ""
    else increment shown d k = .number (((getItem d k).map weight).getD 0 + 1) := by
  rw [increment]
  by_cases hk : k ∈ objectPrototype
  · rw [if_pos hk]
    cases hv : getItem d k with
    | none => exact ⟨shown k ++ "1", by simp [hk], append_one_ne_empty _⟩
    | some v =>
      have hs := hd k v hv
      rw [if_pos hk] at hs
      obtain ⟨s, rfl, hne⟩ := hs
      exact ⟨s ++ "1", by simp [hne], append_one_ne_empty s⟩
  · rw [if_neg hk]
    cases hv : getItem d k with
    | none => simp [hk]
    | some v =>
      have hn := hd k v hv
      rw [if_neg hk] at hn
      obtain ⟨n, rfl⟩ := hn
      rfl

theorem typed_bump (hd : Typed d) (k : String) : Typed (bump shown d k) := by
  rw [bump]
  split_ifs with hproto
  · exact hd
  · intro k' v hv
    rw [getItem_setItem] at hv
    by_cases hk : k = k'
    · subst hk
      rw [if_pos rfl] at hv
      obtain rfl := Option.some.inj hv
      have hnew := increment_of_typed shown hd k
      by_cases hmember : k ∈ objectPrototype
      · rw [if_pos hmember] at hnew ⊢
        exact hnew
      · rw [if_neg hmember] at hnew ⊢
        exact ⟨_, hnew⟩
    · rw [if_neg hk] at hv
      exact hd k' v hv

/-- The sum of the numbers. -/
def total (d : Object) : ℕ := (d.map fun e => weight e.2).sum

theorem total_setItem (d : Object) (k : String) (v : Value) (n : ℕ)
    (hv : weight v = ((getItem d k).map weight).getD 0 + n) : total (setItem d k v) = total d + n := by
  have hmap : ∀ d : Object, total d = ((d.map fun e => (e.1, weight e.2)).map Prod.snd).sum := by
    intro d
    rw [total, List.map_map]
    rfl
  rw [hmap, hmap, ← sum_setItem (d.map fun e => (e.1, weight e.2)) k n, getItem_map, ← hv, ← setItem_map]

/-- **What one key adds.** -/
theorem total_bump (hd : Typed d) (k : String) :
    total (bump shown d k) = total d + if k ∈ objectPrototype then 0 else 1 := by
  have hnew := increment_of_typed shown hd k
  rw [bump]
  by_cases hk : k ∈ objectPrototype
  · rw [if_pos hk] at hnew ⊢
    obtain ⟨s, hs, -⟩ := hnew
    split_ifs with hproto
    · rfl
    · have hold : ((getItem d k).map weight).getD 0 = 0 := by
        cases hv : getItem d k with
        | none => rfl
        | some v =>
          have hs := hd k v hv
          rw [if_pos hk] at hs
          obtain ⟨s, rfl, -⟩ := hs
          rfl
      exact total_setItem d k _ 0 (by rw [hs, hold]; rfl)
  · have hproto : k ≠ "__proto__" := by
      rintro rfl
      exact hk (by decide)
    rw [if_neg hk] at hnew ⊢
    rw [if_neg hproto]
    exact total_setItem d k _ 1 (by rw [hnew]; rfl)

/-- **The numbers add up to the keys that are no members' names.** -/
theorem total_counted (shown : String → String) (ks : List String) :
    total (counted shown ks) = ks.countP fun k => k ∉ objectPrototype := by
  have general : ∀ (ks : List String) (d : Object), Typed d →
      total (ks.foldl (bump shown) d) = total d + ks.countP fun k => k ∉ objectPrototype := by
    intro ks
    induction ks with
    | nil => exact fun d _ => rfl
    | cons k ks ih =>
      intro d hd
      rw [List.foldl_cons, ih _ (typed_bump hd k), total_bump hd, List.countP_cons]
      by_cases hk : k ∈ objectPrototype
      · simp [hk]
      · simp only [hk, if_false, not_false_eq_true, decide_true, if_true]
        omega
  have hempty : Typed [] := nofun
  have := general ks [] hempty
  rwa [show total [] = 0 from rfl, Nat.zero_add] at this

/-- Two keys, one of them a member's name. -/
example : counted id ["constructor", "malware", "malware"] =
    [("constructor", .text "constructor1"), ("malware", .number 2)] := by decide

/-! ### The orders of the keys -/

/-- A key that is an array index. -/
def arrayIndex (k : String) : Option ℕ :=
  k.toNat?.filter fun n => toString n = k && n < 4294967295

/-- `Object.keys`: array indices in ascending order, then the others as they were made. -/
def objectKeys (d : Object) : List String :=
  ((keys d).filter fun k => (arrayIndex k).isSome).mergeSort
      (fun k k' => (arrayIndex k).getD 0 ≤ (arrayIndex k').getD 0) ++
    (keys d).filter fun k => !(arrayIndex k).isSome

theorem objectKeys_perm (d : Object) : (objectKeys d).Perm (keys d) :=
  ((List.mergeSort_perm _ _).append_right _).trans (List.filter_append_perm _ _)

/-- The code units of a character. -/
def codeUnits (c : Char) : List ℕ :=
  if c.toNat < 0x10000 then [c.toNat]
  else [0xd800 + (c.toNat - 0x10000) / 0x400, 0xdc00 + (c.toNat - 0x10000) % 0x400]

/-- `sort` of strings: by their UTF-16 code units. -/
def sorted (ks : List String) : List String :=
  ks.mergeSort fun k k' => k.toList.flatMap codeUnits ≤ k'.toList.flatMap codeUnits

theorem sorted_perm (ks : List String) : (sorted ks).Perm ks := List.mergeSort_perm _ _

/-! ### Charts -/

/-- The labels of a chart with the values of their keys. -/
def chart (label : String → String) (labels : List String) (d : Object) : List (String × Value) :=
  labels.map fun k => (label k, (getItem d k).getD (.number 0))

/-- An object read key by key. -/
theorem map_keys (h : (keys d).Nodup) : (keys d).map (fun k => (k, (getItem d k).getD (.number 0))) = d := by
  rw [keys, List.map_map]
  conv_rhs => rw [← List.map_id d]
  refine List.map_congr_left fun e he => ?_
  show (e.1, (getItem d e.1).getD (.number 0)) = e
  rw [(mem_iff_getItem h).mp he]
  rfl

/-- In whatever order, a chart of all keys has the entries of the object. -/
theorem chart_perm_map {label : String → String} {labels : List String} (h : (keys d).Nodup)
    (hl : labels.Perm (keys d)) : (chart label labels d).Perm (d.map fun e => (label e.1, e.2)) := by
  have hkeys : (keys d).map (fun k => (label k, (getItem d k).getD (.number 0))) =
      d.map fun e => (label e.1, e.2) := by
    conv_rhs => rw [← map_keys h, List.map_map]
    rfl
  rw [← hkeys]
  exact hl.map _

/-- **Without a member's name among the keys the chart has their counts.** -/
theorem chart_perm {label : String → String} {labels ks' : List String}
    (hplain : ∀ k ∈ ks, k ∉ objectPrototype) (hks : ks.Perm ks') (hl : labels.Perm (keys (counted shown ks))) :
    (chart label labels (counted shown ks)).Perm ((count ks').map fun e => (label e.1, .number e.2)) := by
  have hcounts : (counted shown ks).map (fun e => (label e.1, e.2)) =
      (count ks).map fun e => (label e.1, .number e.2) := by
    rw [counted_of_plain hplain, numbers, List.map_map]
    rfl
  refine (chart_perm_map nodup_counted hl).trans ?_
  rw [hcounts]
  exact (count_perm hks).map _

/-- The counts of a chart add up to the keys that are counted. -/
theorem sum_weights (label : String → String) (ks : List String) :
    (((count ks).map fun e => (label e.1, Value.number e.2)).map fun e => weight e.2).sum = ks.length := by
  rw [List.map_map, ← sum_count]
  rfl

/-- As many keys are counted where the counts are the same. -/
theorem length_of_counts {label : String → String} {ks ks' : List String}
    (h : ((count ks).map fun e => (label e.1, Value.number e.2)).Perm
      ((count ks').map fun e => (label e.1, .number e.2))) : ks.length = ks'.length := by
  rw [← sum_weights label ks, ← sum_weights label ks', (h.map fun e => weight e.2).sum_eq]

/-- **A chart with the counts of `ks'` has as many keys that are no members' names.** -/
theorem length_of_chart {label : String → String} {labels ks' : List String}
    (hl : labels.Perm (keys (counted shown ks)))
    (h : (chart label labels (counted shown ks)).Perm ((count ks').map fun e => (label e.1, .number e.2))) :
    ks'.length = ks.countP fun k => k ∉ objectPrototype := by
  have hshown : ((chart label labels (counted shown ks)).map fun e => weight e.2).sum =
      total (counted shown ks) := by
    rw [((chart_perm_map nodup_counted hl).map fun e => weight e.2).sum_eq, List.map_map]
    rfl
  rw [← sum_weights label ks', ← (h.map fun e => weight e.2).sum_eq, hshown, total_counted]

end JsCounts
