/-
# Markup with values in it

A page written by a template is a sequence of pieces, fixed text and values. A
scanner of the page stands in text, in a tag or in a quoted attribute; its
markup is the page without the text and the attribute values. A value is inert
when it holds neither an angle bracket nor a quote and every ampersand in it
starts a character reference. Where every value stands in text or in quotes
(`place`), inert values leave the markup that of the template (`markup_place`).

Key definitions: `Piece`, `html`, `values`, `erase`, `markup`, `inert`, `place`,
`Harmless`.
Key theorems: `inert_of_plain`, `markup_place`, `harmless_iff`.
-/
import Mathlib.Data.List.Basic

namespace Markup

/-- Where the scanner stands. -/
inductive Ctx
  | text
  | tag
  | dquoted
  | squoted
  deriving DecidableEq, Repr

def Ctx.next : Ctx → Char → Ctx
  | .text, c => if c = '<' then .tag else .text
  | .tag, c => if c = '>' then .text else if c = '"' then .dquoted else if c = '\'' then .squoted else .tag
  | .dquoted, c => if c = '"' then .tag else .dquoted
  | .squoted, c => if c = '\'' then .tag else .squoted

/-- A character is markup in a tag, and when it opens or closes one or a quote. -/
def Ctx.keeps (ctx : Ctx) (c : Char) : Bool := ctx = .tag || ctx.next c = .tag

def after (ctx : Ctx) (cs : List Char) : Ctx := cs.foldl Ctx.next ctx

/-- The page without text and attribute values. -/
def markup : Ctx → List Char → List Char
  | _, [] => []
  | ctx, c :: cs => if ctx.keeps c then c :: markup (ctx.next c) cs else markup (ctx.next c) cs

/-- What follows the ampersand of a character reference. -/
def references : List (List Char) :=
  ["amp;".toList, "lt;".toList, "gt;".toList, "quot;".toList, "#39;".toList]

def inert : List Char → Bool
  | [] => true
  | c :: cs =>
    (if c = '&' then references.any fun r => r.isPrefixOf cs else c ∉ ['<', '>', '"', '\'']) && inert cs

/-- The characters that a value must not hold as they are. -/
def specials : List Char := ['&', '<', '>', '"', '\'']

inductive Piece
  | fixed (text : String)
  | value (text : String)
  deriving DecidableEq, Repr

def Piece.text : Piece → String
  | .fixed s => s
  | .value s => s

def html (ps : List Piece) : List Char := ps.flatMap fun p => p.text.toList

def values (ps : List Piece) : List String :=
  ps.filterMap fun
    | .fixed _ => none
    | .value s => some s

/-- The pieces with their values erased. -/
def erase (ps : List Piece) : List Piece :=
  ps.map fun
    | .fixed s => .fixed s
    | .value _ => .value ""

/-- Where the scanner stands after the pieces, if every value stands in text or in quotes. -/
def place : Ctx → List Piece → Option Ctx
  | ctx, [] => some ctx
  | ctx, .fixed s :: ps => place (after ctx s.toList) ps
  | ctx, .value _ :: ps => if ctx = .tag then none else place ctx ps

/-- The values are inert and the markup is that of the template. -/
structure Harmless (ps template : List Piece) : Prop where
  inert : ∀ v ∈ values ps, inert v.toList = true
  markup : markup .text (html ps) = markup .text (html template)

/-! ### Inert values -/

theorem inert_of_plain : ∀ {cs : List Char}, (∀ c ∈ cs, c ∉ specials) → inert cs = true
  | [], _ => rfl
  | c :: cs, h => by
    have hc := h c List.mem_cons_self
    have hamp : c ≠ '&' := fun he => hc (he ▸ List.mem_cons_self)
    have hrest : c ∉ ['<', '>', '"', '\''] := fun hm => hc (List.mem_cons_of_mem _ hm)
    rw [inert, if_neg hamp, inert_of_plain fun d hd => h d (List.mem_cons_of_mem c hd)]
    simpa using hrest

/-- What an inert value does not hold. -/
theorem not_mem_of_inert : ∀ {cs : List Char}, inert cs = true → ∀ c ∈ cs, c ∉ ['<', '>', '"', '\'']
  | [], _, _, hc => absurd hc List.not_mem_nil
  | d :: cs, h, c, hc => by
    rw [inert, Bool.and_eq_true] at h
    rcases List.mem_cons.mp hc with rfl | hc
    · by_cases hamp : c = '&'
      · rw [hamp]
        decide
      · rw [if_neg hamp] at h
        simpa using h.1
    · exact not_mem_of_inert h.2 c hc

/-- In text or in quotes an inert value changes nothing for the scanner. -/
theorem scan_inert {ctx : Ctx} (hctx : ctx ≠ .tag) :
    ∀ {cs : List Char}, inert cs = true → after ctx cs = ctx ∧ markup ctx cs = []
  | [], _ => ⟨rfl, rfl⟩
  | c :: cs, h => by
    have hc := not_mem_of_inert h c List.mem_cons_self
    have hnext : ctx.next c = ctx := by
      simp only [List.mem_cons, not_or] at hc
      cases ctx with
      | tag => exact absurd rfl hctx
      | text => simp [Ctx.next, hc.1]
      | dquoted => simp [Ctx.next, hc.2.2.1]
      | squoted => simp [Ctx.next, hc.2.2.2.1]
    have hkeep : ctx.keeps c = false := by
      rw [Ctx.keeps, hnext]
      simpa using hctx
    rw [inert, Bool.and_eq_true] at h
    obtain ⟨hafter, hmarkup⟩ := scan_inert hctx h.2
    constructor
    · rw [after, List.foldl_cons, hnext]
      exact hafter
    · rw [markup, if_neg (by simp [hkeep]), hnext]
      exact hmarkup

/-! ### Pages -/

theorem after_append (ctx : Ctx) (cs ds : List Char) : after ctx (cs ++ ds) = after (after ctx cs) ds :=
  List.foldl_append

theorem markup_append : ∀ (ctx : Ctx) (cs ds : List Char),
    markup ctx (cs ++ ds) = markup ctx cs ++ markup (after ctx cs) ds
  | _, [], _ => rfl
  | ctx, c :: cs, ds => by
    rw [List.cons_append, markup, markup, markup_append (ctx.next c) cs ds]
    split_ifs <;> rfl

theorem place_append : ∀ (ctx : Ctx) (ps qs : List Piece),
    place ctx (ps ++ qs) = (place ctx ps).bind fun c => place c qs
  | _, [], _ => rfl
  | ctx, .fixed s :: ps, qs => place_append (after ctx s.toList) ps qs
  | ctx, .value s :: ps, qs => by
    rw [List.cons_append, place, place]
    split_ifs
    · rfl
    · exact place_append ctx ps qs

theorem place_join {ctx c : Ctx} {ps qs : List Piece} {r : Option Ctx} (h : place ctx ps = some c)
    (h' : place c qs = r) : place ctx (ps ++ qs) = r := by
  rw [place_append, h, Option.bind_some, h']

/-- A fixed text leads to `c`. -/
theorem place_fixed {ctx : Ctx} (c : Ctx) {cs : List Char} {ps : List Piece} {r : Option Ctx}
    (hc : after ctx cs = c) (h : place c ps = r) : place ctx (.fixed (String.ofList cs) :: ps) = r := by
  rw [place, String.toList_ofList, hc, h]

/-- A value stays where it stands. -/
theorem place_value {ctx : Ctx} {s : String} {ps : List Piece} {r : Option Ctx} (hc : ctx ≠ .tag)
    (h : place ctx ps = r) : place ctx (.value s :: ps) = r := by
  rw [place, if_neg hc, h]

theorem values_append (ps qs : List Piece) : values (ps ++ qs) = values ps ++ values qs :=
  List.filterMap_append

/-- What holds of the values of every row. -/
theorem forall_values_flatMap {α : Type} {row : α → List Piece} {P : String → Prop} {l : List α} :
    (∀ v ∈ values (l.flatMap row), P v) ↔ ∀ a ∈ l, ∀ v ∈ values (row a), P v := by
  rw [values, List.filterMap_flatMap]
  constructor
  · intro h a ha v hv
    exact h v (List.mem_flatMap.mpr ⟨a, ha, hv⟩)
  · intro h v hv
    obtain ⟨a, ha, hva⟩ := List.mem_flatMap.mp hv
    exact h a ha v hva

/-- Rows that each start and end in text. -/
theorem place_flatMap {α : Type} {row : α → List Piece} (h : ∀ a, place .text (row a) = some .text) :
    ∀ l : List α, place .text (l.flatMap row) = some .text
  | [] => rfl
  | a :: l => by
    rw [List.flatMap_cons]
    exact place_join (h a) (place_flatMap h l)

/-- **Inert values in their places leave the markup of the template.** -/
theorem markup_place : ∀ {ps : List Piece} {ctx ctx' : Ctx}, place ctx ps = some ctx' →
    (∀ v ∈ values ps, inert v.toList = true) →
    after ctx (html ps) = ctx' ∧ markup ctx (html ps) = markup ctx (html (erase ps))
  | [], _, _, h, _ => ⟨Option.some.inj h, rfl⟩
  | .fixed s :: ps, ctx, ctx', h, hv => by
    have hrest : place (after ctx s.toList) ps = some ctx' := h
    obtain ⟨hafter, hmarkup⟩ := markup_place hrest hv
    constructor
    · exact (after_append ctx s.toList (html ps)).trans hafter
    · show markup ctx (s.toList ++ html ps) = markup ctx (s.toList ++ html (erase ps))
      rw [markup_append, markup_append, hmarkup]
  | .value s :: ps, ctx, ctx', h, hv => by
    rw [place] at h
    split_ifs at h with htag
    obtain ⟨hafter, hmarkup⟩ := markup_place h fun v hmem => hv v (List.mem_cons_of_mem s hmem)
    obtain ⟨hsafter, hsmarkup⟩ := scan_inert htag (hv s List.mem_cons_self)
    constructor
    · show after ctx (s.toList ++ html ps) = ctx'
      rw [after_append, hsafter, hafter]
    · show markup ctx (s.toList ++ html ps) = markup ctx (html (erase ps))
      rw [markup_append, hsafter, hsmarkup, List.nil_append, hmarkup]

/-- With every value in its place, a page is harmless exactly when its values are inert. -/
theorem harmless_iff {ps template : List Piece} {ctx : Ctx} (hp : place .text ps = some ctx)
    (ht : erase ps = template) : Harmless ps template ↔ ∀ v ∈ values ps, inert v.toList = true := by
  constructor
  · intro h
    exact h.inert
  · intro h
    exact ⟨h, by rw [← ht]; exact (markup_place hp h).2⟩

end Markup
