/-
# The query string of the listings

What `_parse_pagination` and `alert_filters` make of `request.args`. `pyInt` is
`int` of a string: whitespace around it, a sign, decimal digits of any script
with single underscores between them, at most 4300 of them.

Key definitions: `pyInt`, `parsePagination`, `Predicate`, `alertFilters`.
Key theorems: `parsePagination_bounds`.
-/
import SocDashboard.Value

namespace SocDashboard

/-- The query string, parsed. -/
abbrev Args := List (String × String)

/-- The zeros of the scripts with decimal digits; nine more digits follow each. -/
def decimalZeros : List ℕ :=
  [0x30, 0x660, 0x6f0, 0x7c0, 0x966, 0x9e6, 0xa66, 0xae6, 0xb66, 0xbe6, 0xc66, 0xce6, 0xd66, 0xde6,
   0xe50, 0xed0, 0xf20, 0x1040, 0x1090, 0x17e0, 0x1810, 0x1946, 0x19d0, 0x1a80, 0x1a90, 0x1b50,
   0x1bb0, 0x1c40, 0x1c50, 0xa620, 0xa8d0, 0xa900, 0xa9d0, 0xa9f0, 0xaa50, 0xabf0, 0xff10, 0x104a0,
   0x10d30, 0x11066, 0x110f0, 0x11136, 0x111d0, 0x112f0, 0x11450, 0x114d0, 0x11650, 0x116c0,
   0x11730, 0x118e0, 0x11950, 0x11c50, 0x11d50, 0x11da0, 0x11f50, 0x16a60, 0x16ac0, 0x16b50,
   0x1d7ce, 0x1d7d8, 0x1d7e2, 0x1d7ec, 0x1d7f6, 0x1e140, 0x1e2f0, 0x1e4f0, 0x1e950, 0x1fbf0]

/-- The digit a character is. -/
def pyDecimal (c : Char) : Option ℕ :=
  (decimalZeros.find? fun z => z ≤ c.toNat && c.toNat ≤ z + 9).map fun z => c.toNat - z

/-- Digits with single underscores between them. -/
def pyDigits : List Char → Option (List ℕ)
  | [] => none
  | [c] => (pyDecimal c).map fun d => [d]
  | c :: '_' :: cs => do pure ((← pyDecimal c) :: (← pyDigits cs))
  | c :: cs => do pure ((← pyDecimal c) :: (← pyDigits cs))

/-- The sign of a number and what follows it. -/
def pySign : List Char → ℤ × List Char
  | '-' :: cs => (-1, cs)
  | '+' :: cs => (1, cs)
  | cs => (1, cs)

/-- `int` of a string. Around a number it skips what `unicode.IsSpace` counts,
so not the separators that `strip` removes. -/
def pyInt (s : String) : Except Exc ℤ :=
  let (sign, digits) := pySign (Trim.trim goIsSpace s).toList
  match pyDigits digits with
  | none => .error .valueError
  | some ds => if 4300 < ds.length then .error .valueError else .ok (sign * (ds.foldl (10 * · + ·) 0 : ℕ))

/-- `int(request.args.get(name, default))`. -/
def intArg (args : Args) (name : String) (default : ℤ) : Except Exc ℤ :=
  match args.lookup name with
  | none => .ok default
  | some s => pyInt s

/-- `_parse_pagination`. -/
def parsePagination (args : Args) : Except Exc (ℤ × ℤ) :=
  match intArg args "page" 1 with
  | .error _ => .error (.abort 400 "page must be a positive integer")
  | .ok page =>
    match intArg args "per_page" 100 with
    | .error _ => .error (.abort 400 "per_page must be an integer between 1 and 500")
    | .ok perPage =>
      if page < 1 then .error (.abort 400 "page must be >= 1")
      else if perPage < 1 ∨ 500 < perPage then .error (.abort 400 "per_page must be between 1 and 500")
      else .ok (page, perPage)

/-! ### Filters -/

/-- The columns that a filter compares. -/
inductive FilterColumn
  | status
  | severity
  | source
  | assignedTo
  deriving DecidableEq, Repr

def FilterColumn.name : FilterColumn → String
  | .status => "status"
  | .severity => "severity"
  | .source => "source"
  | .assignedTo => "assigned_to"

/-- `FILTER_COLUMNS`; every parameter has the name of its column. -/
def filterColumns : List FilterColumn := [.severity, .source, .assignedTo]

/-- A predicate of the `WHERE` clause. -/
inductive Predicate
  | equals (column : FilterColumn)
  | createdAfter
  deriving DecidableEq, Repr

/-- `(request.args.get(name) or "").strip()`. -/
def textArg (args : Args) (name : String) : String := pyStrip ((args.lookup name).getD "")

/-- `created_after.replace("Z", "+00:00")`. -/
def replaceZ (s : String) : String :=
  String.ofList (s.toList.flatMap fun c => if c = 'Z' then "+00:00".toList else [c])

/-- The filters on columns that the request sets. -/
def columnFilters (args : Args) : List (Predicate × String) :=
  filterColumns.filterMap fun column =>
    let value := textArg args column.name
    if value = "" then none else some (.equals column, value)

/-- `alert_filters`: the predicates of the clause with their parameters.
`fromisoformat` says which texts `datetime.fromisoformat` takes. -/
def alertFilters (fromisoformat : String → Bool) (extra : List (Predicate × String)) (args : Args) :
    Except Exc (List (Predicate × String)) :=
  let createdAfter := textArg args "created_after"
  if createdAfter = "" then .ok (extra ++ columnFilters args)
  else if fromisoformat (replaceZ createdAfter) then
    .ok (extra ++ columnFilters args ++ [(.createdAfter, createdAfter)])
  else .error (.abort 400 "created_after must be an ISO 8601 datetime")

/-- What passes is in range. -/
theorem parsePagination_bounds {args : Args} {page perPage : ℤ} (h : parsePagination args = .ok (page, perPage)) :
    1 ≤ page ∧ 1 ≤ perPage ∧ perPage ≤ 500 := by
  unfold parsePagination at h
  cases hp : intArg args "page" 1 with
  | error e => simp [hp] at h
  | ok p =>
    cases hs : intArg args "per_page" 100 with
    | error e => simp [hp, hs] at h
    | ok s =>
      simp only [hp, hs] at h
      split_ifs at h with h1 h2
      obtain ⟨rfl, rfl⟩ := Prod.mk.inj (Except.ok.inj h)
      omega

end SocDashboard
