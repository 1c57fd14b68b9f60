/-
# What the reading endpoints answer

The envelopes of the JSON answers and the context of the audit page, with the
field names of the source. A rate or a similarity is the double that is sent;
a date is a day number.

Key definitions: `AlertPage`, `SimilarAlert`, `Sla`, `Stats`, `AuditPage`,
`NavigatorLayer`.
-/
import SocDashboard.Lib.Dict
import SocDashboard.Schema
import Mathlib.Data.Rat.Defs

namespace SocDashboard

/-- The envelope of `_list_alerts`. -/
structure AlertPage where
  alerts : List Alert
  page : ℤ
  perPage : ℤ
  total : ℕ
  totalPages : ℤ
  deriving DecidableEq, Repr

/-- An entry of `api_similar_alerts`. -/
structure SimilarAlert where
  id : ℕ
  title : String
  category : String
  severity : Severity
  status : Status
  createdAt : Time
  similarity : ℚ
  deriving DecidableEq, Repr

/-- What `compute_sla` returns. -/
structure Sla where
  breaches : ℕ
  considered : ℕ
  breachRate : ℚ
  bySeverity : Dict String ℕ
  deriving DecidableEq, Repr

structure Escalation where
  escalated : ℕ
  triaged : ℕ
  rate : ℚ
  deriving DecidableEq, Repr

/-- An entry of `mttr_by_analyst`. -/
structure MttrRow where
  analyst : String
  date : ℤ
  avgSeconds : ℤ
  count : ℕ
  deriving DecidableEq, Repr

/-- The answer of `api_stats`. -/
structure Stats where
  total : ℕ
  open_ : ℕ
  closed : ℤ
  byCategory : Dict String ℕ
  bySeverity : Dict String ℕ
  bySource : Dict String ℕ
  escalation : Escalation
  assignees : List String
  mttrByAnalyst : List MttrRow
  sla : Sla
  deriving DecidableEq, Repr

/-- An entry of the audit page. -/
structure AuditPageEntry where
  id : ℕ
  alertId : ℕ
  username : String
  action : AuditAction
  fromStatus : Status
  toStatus : Status
  createdAt : Time
  note : Option String
  deriving DecidableEq, Repr

/-- What `audit_log_page` gives its template. -/
structure AuditPage where
  entries : List AuditPageEntry
  page : ℤ
  perPage : ℤ
  total : ℕ
  search : String
  deriving DecidableEq, Repr

/-- A technique of the Navigator layer. -/
structure Technique where
  techniqueId : String
  score : ℕ
  comment : String
  deriving DecidableEq, Repr

/-- The answer of `api_navigator_layer`, less what is the same in every one. -/
structure NavigatorLayer where
  description : String
  techniques : List Technique
  deriving DecidableEq, Repr

end SocDashboard
